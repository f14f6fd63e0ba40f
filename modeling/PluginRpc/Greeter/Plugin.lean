/-
The greeter as a plugin.

Its table serves every function of its one service. The factory takes no
hint, or the name of the service; any other hint asks for a service that
is not there.
-/
import PluginRpc.Greeter.Handlers
import PluginRpc.Greeter.Schema

namespace PluginRpc.Greeter

/-- What serves a function. -/
def Function.handler [Wording] : Function → Handler
  | sayHello => Greeter.sayHello
  | addIntOne => Greeter.addIntOne
  | countUp => Greeter.countUp
  | joinNames => Greeter.joinNames
  | chat => Greeter.chat
  | describe => Greeter.describe

/-- The table that serves every function. -/
def table [Wording] : Except RouteError DispatchTable :=
  Function.all.foldlM (fun t f => t.route f.key f.handler) (.ofPackage package)

/-- The refusal of a hint. -/
def noService (hint : String) : ErrorInfo :=
  ⟨.notFound, "package `" ++ package.name ++ "` has no service named `"
    ++ hint ++ "`"⟩

/-- The table for a hint. -/
def factory [Wording] (hint : Option String) :
    Except ErrorInfo DispatchTable :=
  match hint.filter (· != service.name) with
  | some other => .error (noService other)
  | none => table.mapError RouteError.toError

/-- What the greeter has to put behind its entries. -/
def plugin [Wording] : Module where
  schema := some (.done api)
  factory := some fun hint =>
    .done ((factory hint).map fun t => .ofMaker t.maker)

end PluginRpc.Greeter
