/-
A host: a loader, and what its callers have taken from it.

Callers take copies of plugins and of client factories, have clients
made, and drop what they have in whatever order. A place in the list of
holdings keeps its number when what was in it has been dropped. What is
still held goes on working after the loader has let go of everything:
its module stays open for it.
-/
import PluginRpc.Plugin.Client

namespace PluginRpc

/-- Something that a caller holds. -/
inductive Holding where
  | plugin (p : LoadedPlugin)
  | factory (f : ClientFactory)
  | client (c : PluginClient)

namespace Holding

/-- The client factory of a plugin, or the factory itself. -/
def factory? : Holding → Option ClientFactory
  | plugin p => p.factory
  | factory f => some f
  | client _ => none

def client? : Holding → Option PluginClient
  | client c => some c
  | _ => none

/-- The module that a holding comes from. -/
def moduleId : Holding → ModuleId
  | plugin p => p.moduleId
  | factory f => f.moduleId
  | client c => c.moduleId

/-- What dropping a holding does to the shares in its module. -/
def drop : Holding → Shares → Shares
  | plugin p => fun s => s.dropPlugin p.factory.isSome
  | factory _ => Shares.dropFactory
  | client _ => Shares.release

def outline : Holding → Outline
  | plugin p => p.outline
  | factory f => f.outline
  | client c => c.outline

end Holding

/-- A loader and the holdings of its callers. -/
structure Host where
  loader : Loader
  held : List (Option Holding)

namespace Host

/-- A loader from which nothing has been taken. -/
def ofLoader (l : Loader) : Host := ⟨l, []⟩

variable (h : Host)

/-- What is held under a number. -/
def holding? (n : Nat) : Option Holding := h.held[n]?.join

/-- A caller takes something, which changes the shares in its module. -/
def take (holding : Holding) (f : Shares → Shares) : Host :=
  { loader :=
      { h.loader with custody := h.loader.custody.change holding.moduleId f }
    held := h.held ++ [some holding] }

/-- Loads what is at a path. -/
def load (files : Files) (backend : Backend) (path : Path) :
    Program ambient (Except LoadError LoadReport × Host) := do
  let (result, l) ← h.loader.load files backend path
  return (result, { h with loader := l })

/-- The loader gives up everything it has. -/
def unload : Host := { h with loader := h.loader.unload }

/-- Takes a copy of one of the loader's plugins. -/
def takePlugin (n : Nat) : Host :=
  match h.loader.plugins[n]? with
  | some p => h.take (.plugin p) Shares.copyPlugin
  | none => h

/-- Takes a copy of the client factory of a holding, if it has one. -/
def takeFactory (n : Nat) : Option ClientFactory × Host :=
  match (h.holding? n).bind Holding.factory? with
  | some f => (some f, h.take (.factory f) Shares.copyFactory)
  | none => (none, h)

/-- Takes a copy of the client factory of one of the loader's plugins, if
it has one. -/
def takeFactoryOf (n : Nat) : Host :=
  match h.loader.plugins[n]?.bind LoadedPlugin.factory with
  | some f => h.take (.factory f) Shares.copyFactory
  | none => h

/-- Has a client made by the factory of a holding; nothing is answered if
it has none. -/
def takeClient (n : Nat) (channel : Channel) :
    Program ambient (Option (Except ErrorInfo PluginClient) × Host) := do
  match (h.holding? n).bind Holding.factory? with
  | none => return (none, h)
  | some f =>
    match ← f.create channel with
    | .error e => return (some (.error e), h)
    | .ok c => return (some (.ok c), h.take (.client c) Shares.hold)

/-- Drops a holding. -/
def drop (n : Nat) : Host :=
  match h.holding? n with
  | none => h
  | some holding =>
      { loader :=
          { h.loader with
            custody :=
              h.loader.custody.change holding.moduleId holding.drop }
        held := h.held.set n none }

/-- Drops all holdings, and then the loader. -/
def dropAll : Host :=
  ((List.range h.held.length).foldl Host.drop h).unload

-- ================================================================ steps

/-- One thing that is done with a host. -/
inductive Op where
  | load (path : Path)
  | unload
  | takePlugin (n : Nat)
  | takeFactory (n : Nat)
  | takeFactoryOf (n : Nat)
  | takeClient (n : Nat) (channel : Channel)
  | drop (n : Nat)

/-- The host after one thing is done with it. -/
def step (files : Files) (backend : Backend) (h : Host) :
    Op → Program ambient Host
  | .load path => do return (← h.load files backend path).2
  | .unload => return h.unload
  | .takePlugin n => return h.takePlugin n
  | .takeFactory n => return (h.takeFactory n).2
  | .takeFactoryOf n => return h.takeFactoryOf n
  | .takeClient n channel => do return (← h.takeClient n channel).2
  | .drop n => return h.drop n

end Host

end PluginRpc
