/-
Schemas: packages, services, functions, records and columns.

A plugin declares once what it offers and never changes it. A package
has services, a service has functions, and a function has a kind, an
input record and an output record. A record is a list of columns; a
column of a composite type refers to another record, and so records form
a graph in which cycles are allowed. In the graph a record is its number.
Two records may well have the same name: it is the number that tells them
apart.

Services and functions are looked up by an index that is theirs and need
not be their place, or by name; the first that fits is the one.
-/
import PluginRpc.Text.Outline

namespace PluginRpc

-- ============================================================ functions

/-- How many messages go each way in a call. -/
inductive FunctionKind where
  | unary
  | clientStreaming
  | serverStreaming
  | bidirectional
deriving DecidableEq, Repr

namespace FunctionKind

def all : List FunctionKind :=
  [unary, clientStreaming, serverStreaming, bidirectional]

/-- The stable name of a kind. -/
def name : FunctionKind → String
  | unary => "unary"
  | clientStreaming => "client_streaming"
  | serverStreaming => "server_streaming"
  | bidirectional => "bidirectional_streaming"

/-- Whether a request is several messages. -/
def streamsRequests : FunctionKind → Bool
  | clientStreaming => true
  | bidirectional => true
  | _ => false

/-- Whether the response is a stream of records. -/
def streamsResponses : FunctionKind → Bool
  | serverStreaming => true
  | bidirectional => true
  | _ => false

end FunctionKind

-- ============================================================== columns

/-- The declared types of columns. -/
inductive ColumnType where
  | float8
  | float4
  | int8
  | uint8
  | int4
  | fixed8
  | fixed4
  | boolean
  | string
  | group
  | message
  | bytes
  | uint4
  | enumeration
  | sint4
  | sint8
  | sfixed8
  | sfixed4
deriving DecidableEq, Repr

namespace ColumnType

def all : List ColumnType :=
  [float8, float4, int8, uint8, int4, fixed8, fixed4, boolean, string, group,
   message, bytes, uint4, enumeration, sint4, sint8, sfixed8, sfixed4]

/-- The stable name of a type. -/
def name : ColumnType → String
  | float8 => "float8"
  | float4 => "float4"
  | int8 => "int8"
  | uint8 => "uint8"
  | int4 => "int4"
  | fixed8 => "fixed8"
  | fixed4 => "fixed4"
  | boolean => "boolean"
  | string => "string"
  | group => "group"
  | message => "message"
  | bytes => "bytes"
  | uint4 => "uint4"
  | enumeration => "grpc_enum"
  | sint4 => "sint4"
  | sint8 => "sint8"
  | sfixed8 => "sfixed8"
  | sfixed4 => "sfixed4"

/-- The word that names a type where a declaration is shown. -/
def word : ColumnType → String
  | float8 => "Float8"
  | float4 => "Float4"
  | int8 => "Int8"
  | uint8 => "Uint8"
  | int4 => "Int4"
  | fixed8 => "Fixed8"
  | fixed4 => "Fixed4"
  | boolean => "Boolean"
  | string => "String"
  | group => "Group"
  | message => "Message"
  | bytes => "Bytes"
  | uint4 => "Uint4"
  | enumeration => "Enum"
  | sint4 => "Sint4"
  | sint8 => "Sint8"
  | sfixed8 => "Sfixed8"
  | sfixed4 => "Sfixed4"

/-- Whether a column of the type refers to a record. -/
def isComposite : ColumnType → Bool
  | group => true
  | message => true
  | _ => false

end ColumnType

/-- A group of columns of which at most one is meant to be filled. -/
structure OneofGroup where
  index : UInt32
  name : String
deriving DecidableEq, Repr

/-- The number of a record in its graph. -/
abbrev RecordId := Nat

/-- A declared column. -/
structure ColumnDecl where
  index : UInt32
  name : String
  type : ColumnType
  oneof : Option OneofGroup
  nested : Option RecordId
deriving DecidableEq, Repr

/-- A declared record: its columns in order. -/
structure RecordDecl where
  name : String
  columns : List ColumnDecl
deriving DecidableEq, Repr

namespace RecordDecl

/-- The first column of a given name. -/
def column? (r : RecordDecl) (name : String) : Option ColumnDecl :=
  r.columns.find? fun c => c.name == name

end RecordDecl

/-- The records that a package's functions and columns refer to, by
number. -/
structure RecordGraph where
  records : List RecordDecl
deriving DecidableEq, Repr

namespace RecordGraph

/-- The record of a number; one that is not declared has no columns. -/
def record (g : RecordGraph) (id : RecordId) : RecordDecl :=
  g.records[id]?.getD ⟨"", []⟩

/-- What is shown of a column. Records may refer to themselves, so of a
nested record only the name is shown. -/
def outlineColumn (g : RecordGraph) (c : ColumnDecl) : Outline :=
  .record "ColumnDescriptor"
    [("index", .ofNat c.index.toNat),
     ("name", .quoted c.name),
     ("column_type", .word c.type.word),
     ("oneof", .ofOption (fun o => .record "OneofGroup"
        [("index", .ofNat o.index.toNat), ("name", .quoted o.name)]) c.oneof),
     ("nested", .ofOption (fun id => .quoted (g.record id).name) c.nested)]

end RecordGraph

-- ================================================= services and packages

/-- A declared function. -/
structure FunctionDecl where
  index : UInt32
  name : String
  kind : FunctionKind
  input : RecordId
  output : RecordId
deriving DecidableEq, Repr

/-- A declared service. -/
structure ServiceDecl where
  index : UInt32
  name : String
  functions : List FunctionDecl
deriving DecidableEq, Repr

/-- A version of three numbers. -/
structure Version where
  major : UInt32
  minor : UInt32
  patch : UInt32
deriving DecidableEq, Repr

namespace Version

def describe (v : Version) : String :=
  String.intercalate "." ([v.major, v.minor, v.patch].map fun n =>
    toString n.toNat)

/-- The first number decides, then the second, then the third. -/
def order (a b : Version) : Ordering :=
  (compare a.major b.major).then
    ((compare a.minor b.minor).then (compare a.patch b.patch))

end Version

/-- A declared package, with the records its functions refer to. -/
structure PackageDecl where
  name : String
  file : String
  version : Version
  services : List ServiceDecl
  records : RecordGraph
deriving DecidableEq, Repr

-- ============================================================ addresses

/-- The address of a function within a module. -/
structure DispatchKey where
  service : UInt32
  function : UInt32
deriving DecidableEq, Repr

namespace DispatchKey

def describe (k : DispatchKey) : String :=
  "(" ++ toString k.service.toNat ++ ", " ++ toString k.function.toNat ++ ")"

/-- By service first, then by function. -/
def order (a b : DispatchKey) : Ordering :=
  (compare a.service b.service).then (compare a.function b.function)

def outline (k : DispatchKey) : Outline :=
  .record "DispatchKey"
    [("service_index", .ofNat k.service.toNat),
     ("function_index", .ofNat k.function.toNat)]

end DispatchKey

namespace ServiceDecl

variable (s : ServiceDecl)

/-- The first function of a given index. -/
def function? (index : UInt32) : Option FunctionDecl :=
  s.functions.find? fun f => f.index == index

/-- The first function of a given name. -/
def functionNamed? (name : String) : Option FunctionDecl :=
  s.functions.find? fun f => f.name == name

/-- The address of a function of this service. -/
def keyOf (f : FunctionDecl) : DispatchKey := ⟨s.index, f.index⟩

end ServiceDecl

namespace PackageDecl

variable (p : PackageDecl)

/-- The first service of a given index. -/
def service? (index : UInt32) : Option ServiceDecl :=
  p.services.find? fun s => s.index == index

/-- The first service of a given name. -/
def serviceNamed? (name : String) : Option ServiceDecl :=
  p.services.find? fun s => s.name == name

/-- The service and the function at an address. -/
def resolve? (key : DispatchKey) : Option (ServiceDecl × FunctionDecl) := do
  let service ← p.service? key.service
  let function ← service.function? key.function
  return (service, function)

/-- The address of a function by the names of its service and itself. -/
def keyNamed? (service function : String) : Option DispatchKey := do
  let s ← p.serviceNamed? service
  let f ← s.functionNamed? function
  return s.keyOf f

/-- The records of the functions, in their order: each function's input
and then its output. -/
def callRecords : List RecordId :=
  p.services.flatMap fun s => s.functions.flatMap fun f => [f.input, f.output]

end PackageDecl

-- ========================================================= method paths

/-- The path by which a transport knows a function. -/
structure MethodPath where
  text : String
deriving DecidableEq, Repr

/-- The path made of the names of package, service and function; a
package without name leaves no trace in it. -/
def MethodPath.of (package service function : String) : MethodPath :=
  if package.isEmpty then ⟨"/" ++ service ++ "/" ++ function⟩
  else ⟨"/" ++ package ++ "." ++ service ++ "/" ++ function⟩

end PluginRpc
