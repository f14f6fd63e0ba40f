/-
Clients of loaded plugins.

A plugin's factory and its clients are code from another build, so they
run behind fences of their own: a factory that panics is a factory that
refuses, and a client that panics has failed its call. Whatever the
client has done to the response before that stays done.
-/
import PluginRpc.Plugin.Loader

namespace PluginRpc

/-- A client from a module's factory. -/
structure PluginClient where
  path : Path
  moduleId : ModuleId
  inner : Client

namespace PluginClient

/-- Calls through the fence. -/
def client (p : PluginClient) : Client := fun context key request shape => do
  match ← (p.inner context key request shape).guard "plugin client" with
  | .ok () => return ()
  | .error e => CallProgram.fail shape e

def outline (p : PluginClient) : Outline :=
  .fields "PluginClient" [("module", p.path.outline)] false

end PluginClient

/-- Makes a client of a channel. -/
def ClientFactory.create (f : ClientFactory) (channel : Channel) :
    Program ambient (Except ErrorInfo PluginClient) := do
  match ← (f.maker channel).guardResult "client factory" with
  | .ok client => return .ok ⟨f.path, f.moduleId, client⟩
  | .error e => return .error e

end PluginRpc
