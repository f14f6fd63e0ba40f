/-
Modules from a script.

A scripted module notes when one of its entries is called. It may lack
either entry, and what is behind an entry may fail in every way there is:
the schema may be that of another build or panic, the factory may refuse
its hint, fail, panic, or come from another build, and the clients that
it makes may be refused or panic.
-/
import PluginRpc.Plugin.Client
import PluginRpc.Rehearsal.Call

namespace PluginRpc.Rehearsal

/-- What is behind a schema entry. -/
inductive SchemaScript where
  | panics
  | api (api : PluginApi)

/-- What is behind a factory entry. -/
structure FactoryScript where
  routes : List RouteScript
  panic : Option String
  error : Option ErrorInfo
  /-- The only hint that is taken, which may be none. -/
  requireHint : Option (Option String)
  /-- A stamp that need not be this build's; a factory with one does not
  get to see a hint. -/
  stamp : Option AbiStamp
  /-- No client is made. -/
  createError : Option ErrorInfo
  createPanic : Option String
  /-- A client panics in every call. -/
  clientPanic : Option String

/-- A module of a script. -/
structure ModuleScript where
  schema : Option SchemaScript
  factory : Option FactoryScript

/-- A client that begins an answer and panics. -/
def panickingClient (text : String) : Client := fun _ _ _ _ => do
  CallProgram.edit (.append (some (.int4 1)))
  .panic (.message text)

namespace FactoryScript

variable (s : FactoryScript)

/-- The refusal of a hint that is not the one that is taken. -/
def refuses (hint : Option String) : Bool :=
  s.requireHint.any fun wanted => hint != wanted

/-- How clients are made from a table. -/
def maker (t : DispatchTable) : ClientMaker := fun channel =>
  match s.createError, s.createPanic, s.clientPanic with
  | some e, _, _ => .done (.error e)
  | none, some text, _ => .panic (.message text)
  | none, none, some text => .done (.ok (panickingClient text))
  | none, none, none => t.maker channel

/-- Makes the factory for a package. A handler that is refused is left
out of its table. -/
def make (package : Option PackageDecl) (hint : Option String) :
    Program ambient (Except ErrorInfo ClientMaker) :=
  match s.panic, s.error, package with
  | some text, _, _ => .panic (.message text)
  | none, some e, _ => .done (.error e)
  | none, none, none => .panic (.message "no package to serve")
  | none, none, some package =>
      if s.refuses hint then .done (.error (.invalidArgument "unwanted hint"))
      else .done (.ok (s.maker (registerAll (.ofPackage package) s.routes).2))

/-- What is behind the factory entry. -/
def factoryMaker (package : Option PackageDecl) : FactoryMaker := fun hint => do
  let seen := if s.stamp.isSome then none else hint
  Program.note (S := ambient) (.factoryEntry seen)
  return (← s.make package seen).map (⟨s.stamp.getD .current, ·⟩)

end FactoryScript

namespace ModuleScript

variable (m : ModuleScript)

/-- The package that the factory serves. -/
def package? : Option PackageDecl :=
  match m.schema with
  | some (.api api) => api.packages.head?
  | _ => none

/-- What is behind the schema entry. -/
def schemaMaker (number : Nat) : SchemaScript → SchemaMaker
  | .panics => do
      Program.note (S := ambient) (.schemaEntry number)
      .panic (.message "schema exploded")
  | .api api => do
      Program.note (S := ambient) (.schemaEntry number)
      return api

/-- The module of a script, by its number. -/
def opened (number : Nat) : Module where
  schema := m.schema.map (schemaMaker number)
  factory := m.factory.map fun f => f.factoryMaker m.package?

end ModuleScript

end PluginRpc.Rehearsal
