/-
What a loader has, as a structured value.

A plugin is shown with its path, whether it has a client factory, the
endpoint of its settings, and all of its packages.
-/
import PluginRpc.Plugin.Loader
import PluginRpc.Schema.Export

namespace PluginRpc

/-- A plugin with its packages. -/
def LoadedPlugin.json (p : LoadedPlugin) : Json :=
  .object
    [("path", .text p.path.text),
     ("client_factory", .bool p.factory.isSome),
     ("endpoint", .text p.settings.endpoint),
     ("packages", .array (p.packages.map PackageDecl.json))]

/-- Plugins in their order. -/
def exportPlugins (plugins : List LoadedPlugin) : Json :=
  .object [("plugins", .array (plugins.map LoadedPlugin.json))]

/-- Loads what is at a path, and shows everything the loader has then. -/
def Loader.inspect (files : Files) (backend : Backend) (path : Path)
    (l : Loader) :
    Program ambient (Except LoadError (LoadReport × Json) × Loader) := do
  match ← l.load files backend path with
  | (.error e, l) => return (.error e, l)
  | (.ok report, l) => return (.ok (report, exportPlugins l.plugins), l)

end PluginRpc
