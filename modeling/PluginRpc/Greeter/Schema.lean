/-
The greeter's schema.

One package with one service of six functions, which between them have
every kind of call, a nested record and a group of columns of which at
most one is filled. Every function of the service is served.
-/
import PluginRpc.Plugin.Module

namespace PluginRpc.Greeter

-- =============================================================== records

/-- A column by itself. -/
def column (index : UInt32) (name : String) (type : ColumnType) : ColumnDecl :=
  ⟨index, name, type, none, none⟩

def helloRequest : RecordDecl := ⟨"HelloRequest", [column 0 "name" .string]⟩

def helloReply : RecordDecl := ⟨"HelloReply", [column 0 "message" .string]⟩

def intValue : RecordDecl := ⟨"IntValue", [column 0 "value" .int4]⟩

def countRequest : RecordDecl :=
  ⟨"CountRequest", [column 0 "start" .int8, column 1 "count" .uint4]⟩

def countReply : RecordDecl := ⟨"CountReply", [column 0 "value" .int8]⟩

def chatMessage : RecordDecl := ⟨"ChatMessage", [column 0 "text" .string]⟩

def person : RecordDecl :=
  ⟨"Person", [column 0 "name" .string, column 1 "age" .int4]⟩

/-- The number of `person` in the graph. -/
def personId : RecordId := 6

/-- The group of the ways to get in touch. -/
def contactGroup : OneofGroup := ⟨0, "contact"⟩

def describeRequest : RecordDecl :=
  ⟨"DescribeRequest",
   [{ column 0 "person" .message with nested := some personId },
    { column 1 "email" .string with oneof := some contactGroup },
    { column 2 "phone" .string with oneof := some contactGroup }]⟩

def describeReply : RecordDecl :=
  ⟨"DescribeReply", [column 0 "summary" .string]⟩

/-- All records; a record's number is its place. -/
def records : RecordGraph :=
  ⟨[helloRequest, helloReply, intValue, countRequest, countReply, chatMessage,
    person, describeRequest, describeReply]⟩

-- ============================================================= functions

/-- The functions of the service. -/
inductive Function where
  | sayHello
  | addIntOne
  | countUp
  | joinNames
  | chat
  | describe
deriving DecidableEq, Repr

namespace Function

/-- Every function, in order of its index. -/
def all : List Function :=
  [sayHello, addIntOne, countUp, joinNames, chat, describe]

/-- How a function is declared. -/
def decl : Function → FunctionDecl
  | sayHello => ⟨0, "SayHello", .unary, 0, 1⟩
  | addIntOne => ⟨1, "AddIntOne", .unary, 2, 2⟩
  | countUp => ⟨2, "CountUp", .serverStreaming, 3, 4⟩
  | joinNames => ⟨3, "JoinNames", .clientStreaming, 0, 1⟩
  | chat => ⟨4, "Chat", .bidirectional, 5, 5⟩
  | describe => ⟨5, "Describe", .unary, 7, 8⟩

end Function

-- =============================================================== package

def service : ServiceDecl := ⟨0, "Greeter", Function.all.map Function.decl⟩

def package : PackageDecl :=
  ⟨"helloworld", "greeter.proto", ⟨1, 0, 0⟩, [service], records⟩

/-- The address of a function. -/
def Function.key (f : Function) : DispatchKey := service.keyOf f.decl

def api : PluginApi := .ofPackages [package]

end PluginRpc.Greeter
