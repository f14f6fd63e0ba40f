/-
Modules: what a plugin exports, and the entries through which a host
gets it.

A plugin provides two pieces of code: one that makes its schema, and one
that makes a client factory, given a hint about the service that is
wanted. An entry runs such a piece behind a fence. The host learns only
whether something came out: an error and a panic look alike to it, and
nothing is thrown across. A hint crosses as bytes; if they are no text,
the plugin gets no hint.
-/
import PluginRpc.Dispatch.Client
import PluginRpc.Plugin.Error

namespace PluginRpc

-- =============================================================== exports

/-- What a plugin offers: its packages, with the stamp of its build. -/
structure PluginApi where
  stamp : AbiStamp
  packages : List PackageDecl

namespace PluginApi

/-- The packages of a plugin of this build. -/
def ofPackages (packages : List PackageDecl) : PluginApi := ⟨.current, packages⟩

variable (api : PluginApi)

/-- The first package of a given name. -/
def package? (name : String) : Option PackageDecl :=
  api.packages.find? fun p => p.name == name

/-- The package, the service and the function at an address: those of the
first package that has them. -/
def resolve? (key : DispatchKey) :
    Option (PackageDecl × ServiceDecl × FunctionDecl) :=
  api.packages.findSome? fun p => (p.resolve? key).map fun found => (p, found)

end PluginApi

/-- A client factory with the stamp of its build. -/
structure FactoryExport where
  stamp : AbiStamp
  maker : ClientMaker

namespace FactoryExport

/-- A factory of this build. -/
def ofMaker (maker : ClientMaker) : FactoryExport := ⟨.current, maker⟩

def outline (e : FactoryExport) : Outline :=
  .fields "FactoryExport" [("stamp", e.stamp.outline)] false

end FactoryExport

-- =============================================================== entries

/-- Makes a schema. -/
abbrev SchemaMaker := Program ambient PluginApi

/-- Makes a client factory, given a hint. -/
abbrev FactoryMaker :=
  Option String → Program ambient (Except ErrorInfo FactoryExport)

/-- The schema entry: a panic leaves nothing. -/
def exportApi (make : SchemaMaker) : Program ambient (Option PluginApi) := do
  match ← make.guard EntryPoint.schema.symbol with
  | .ok api => return some api
  | .error _ => return none

/-- The factory entry: an error and a panic leave nothing. -/
def exportFactory (make : FactoryMaker) (hint : Option Payload) :
    Program ambient (Option FactoryExport) := do
  let made := make (hint.bind Payload.text?)
  match ← made.guardResult EntryPoint.clientFactory.symbol with
  | .ok factory => return some factory
  | .error _ => return none

/-- An opened module: what it has to put behind its entries. -/
structure Module where
  schema : Option SchemaMaker
  factory : Option FactoryMaker

namespace Module

/-- A module without entries. -/
def empty : Module := ⟨none, none⟩

variable (m : Module)

/-- The schema entry, if it is exported. -/
def schemaEntry? : Option (Program ambient (Option PluginApi)) :=
  m.schema.map exportApi

/-- The factory entry, if it is exported. -/
def factoryEntry? :
    Option (Option Payload → Program ambient (Option FactoryExport)) :=
  m.factory.map exportFactory

end Module

end PluginRpc
