/-
Dispatch tables: which handler serves which function.

A table belongs to a package. A handler is registered under a function's
address or under its names; either way the package must declare the
function, and a function is served by the handler that was registered for
it first. The path by which the transport knows the function and the
shape of its call come from the declaration, once and for all.

A refused registration leaves the table as it is.
-/
import PluginRpc.Dispatch.Invocation
import PluginRpc.OrderedMap

namespace PluginRpc

/-- A served function. -/
structure Route where
  method : MethodPath
  function : FunctionDecl
  handler : Handler

/-- The served functions of a package, by address. -/
structure DispatchTable where
  package : PackageDecl
  routes : OrderedMap DispatchKey Route

-- ============================================================ refusals

/-- Why a handler was not registered. -/
inductive RouteError where
  /-- The package declares no function at the address. -/
  | noFunctionAt (package : String) (key : DispatchKey)
  /-- The package declares no function of that name. -/
  | noFunctionNamed (package service function : String)
  /-- The function is served already. -/
  | taken (service function : String)
deriving DecidableEq, Repr

namespace RouteError

/-- The refusal as a caller is told. -/
def toError : RouteError → ErrorInfo
  | noFunctionAt package key =>
      ⟨.notFound, "package `" ++ package ++ "` has no function at "
        ++ key.describe⟩
  | noFunctionNamed package service function =>
      ⟨.notFound, "package `" ++ package ++ "` has no function " ++ service
        ++ "." ++ function⟩
  | taken service function =>
      ⟨.alreadyExists, service ++ "." ++ function ++ " is already routed"⟩

end RouteError

namespace DispatchTable

/-- A table that serves nothing yet. -/
def ofPackage (package : PackageDecl) : DispatchTable := ⟨package, .empty⟩

variable (t : DispatchTable)

/-- The route of an address. -/
def route? (key : DispatchKey) : Option Route := t.routes.get? DispatchKey.order key

def size : Nat := t.routes.size

def isEmpty : Bool := t.routes.entries.isEmpty

/-- The path of a served function. -/
def method? (key : DispatchKey) : Option MethodPath :=
  (t.route? key).map Route.method

-- ========================================================= registration

/-- Registers a handler under an address. -/
def route (key : DispatchKey) (handler : Handler) :
    Except RouteError DispatchTable :=
  match t.package.resolve? key with
  | none => .error (.noFunctionAt t.package.name key)
  | some (service, function) =>
      if t.routes.contains DispatchKey.order key then
        .error (.taken service.name function.name)
      else
        let method := .of t.package.name service.name function.name
        .ok { t with
          routes := t.routes.insert DispatchKey.order key
            ⟨method, function, handler⟩ }

/-- Registers a handler under the names of service and function. -/
def routeNamed (service function : String) (handler : Handler) :
    Except RouteError DispatchTable :=
  match t.package.keyNamed? service function with
  | none => .error (.noFunctionNamed t.package.name service function)
  | some key => t.route key handler

/-- Where a handler is to be registered. -/
inductive Address where
  | key (key : DispatchKey)
  | named (service function : String)
deriving DecidableEq, Repr

/-- Registers a handler, wherever. -/
def register (handler : Handler) : Address → Except RouteError DispatchTable
  | .key key => t.route key handler
  | .named service function => t.routeNamed service function handler

/-- What is shown of a table: the addresses it serves, in order. -/
def outline : Outline :=
  .record "DispatchTable"
    [("package", .quoted t.package.name),
     ("routes", .list (t.routes.keys.map DispatchKey.outline))]

end DispatchTable

end PluginRpc
