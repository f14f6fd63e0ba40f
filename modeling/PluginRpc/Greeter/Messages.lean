/-
The messages that the greeter exchanges, and how they are written.

A message is written as an object with its fields in order, and read as
`Lexed.fields?` allows: members that are no fields are ignored, or the
fields may stand in an array. A field that may be absent is written as a
null and may be left out of an object. A way to get in touch is an object
with exactly one member, whose key says which way it is.

Every message can be written. Bytes that are no message of the wanted
type are the sender's mistake. What is wrong with them is said in the
words of whoever reads them, and `Wording` stands for these.
-/
import PluginRpc.Json.Decode
import PluginRpc.Json.Value
import PluginRpc.Status

namespace PluginRpc.Greeter

-- ============================================================== messages

structure HelloRequest where
  name : String
deriving DecidableEq, Repr

structure HelloReply where
  message : String
deriving DecidableEq, Repr

structure IntValue where
  value : Int32
deriving DecidableEq, Repr

structure CountRequest where
  start : Int64
  count : UInt32
deriving DecidableEq, Repr

structure CountReply where
  value : Int64
deriving DecidableEq, Repr

structure ChatMessage where
  text : String
deriving DecidableEq, Repr

structure Person where
  name : String
  age : Int32
deriving DecidableEq, Repr

/-- A way to get in touch. -/
inductive Contact where
  | email (address : String)
  | phone (number : String)
deriving DecidableEq, Repr

structure DescribeRequest where
  person : Person
  contact : Option Contact
deriving DecidableEq, Repr

structure DescribeReply where
  summary : String
deriving DecidableEq, Repr

-- ======================================================= writing, reading

/-- How messages of a type are written and read. -/
class Message (α : Type) where
  toJson : α → Json
  ofLexed? : Lexed → Option α

/-- The written form of a message. -/
def encode {α : Type} [Message α] (message : α) : Payload :=
  (Message.toJson message).bytes

/-- The message that some bytes are. -/
def decode? {α : Type} [Message α] (bytes : Payload) : Option α :=
  (Lexed.ofBytes? bytes).bind Message.ofLexed?

/-- How it is put into words why some bytes are no message of a type. The
words are those of the reader that is used, whichever that is. -/
class Wording where
  unread : (α : Type) → Payload → String

/-- The error of bytes that are no message of a type. -/
def malformed [Wording] (α : Type) (bytes : Payload) : ErrorInfo :=
  .invalidArgument ("malformed payload: " ++ Wording.unread α bytes)

/-- The message that some bytes must be. -/
def decode {α : Type} [Wording] [Message α] (bytes : Payload) :
    Except ErrorInfo α :=
  match decode? bytes with
  | some message => .ok message
  | none => .error (malformed α bytes)

/-- A message with one text in it. -/
def oneText? (name : String) (v : Lexed) : Option String :=
  match v.fields? [name] with
  | some [some text] => text.text?
  | _ => none

instance : Message HelloRequest where
  toJson m := .object [("name", .text m.name)]
  ofLexed? v := (oneText? "name" v).map .mk

instance : Message HelloReply where
  toJson m := .object [("message", .text m.message)]
  ofLexed? v := (oneText? "message" v).map .mk

instance : Message IntValue where
  toJson m := .object [("value", .number m.value.toInt)]
  ofLexed? v :=
    match v.fields? ["value"] with
    | some [some value] => value.int32?.map .mk
    | _ => none

instance : Message CountRequest where
  toJson m := .object
    [("start", .number m.start.toInt), ("count", .ofNat m.count.toNat)]
  ofLexed? v :=
    match v.fields? ["start", "count"] with
    | some [some start, some count] => do
        return ⟨← start.int64?, ← count.uint32?⟩
    | _ => none

instance : Message CountReply where
  toJson m := .object [("value", .number m.value.toInt)]
  ofLexed? v :=
    match v.fields? ["value"] with
    | some [some value] => value.int64?.map .mk
    | _ => none

instance : Message ChatMessage where
  toJson m := .object [("text", .text m.text)]
  ofLexed? v := (oneText? "text" v).map .mk

instance : Message Person where
  toJson m := .object [("name", .text m.name), ("age", .number m.age.toInt)]
  ofLexed? v :=
    match v.fields? ["name", "age"] with
    | some [some name, some age] => do return ⟨← name.text?, ← age.int32?⟩
    | _ => none

namespace Contact

def toJson : Contact → Json
  | email address => .object [("email", .text address)]
  | phone number => .object [("phone", .text number)]

/-- A way to get in touch, by the key of the one member. -/
def ofLexed? : Lexed → Option Contact
  | .object [(key, value)] => do
      let key ← Lexed.characters? key
      let text ← value.text?
      if key = "email" then return email text
      else if key = "phone" then return phone text
      else none
  | _ => none

/-- A way to get in touch, or none. -/
def ofField? : Option Lexed → Option (Option Contact)
  | none => some none
  | some .null => some none
  | some v => (ofLexed? v).map some

end Contact

instance : Message DescribeRequest where
  toJson m := .object
    [("person", Message.toJson m.person),
     ("contact", .ofOption Contact.toJson m.contact)]
  ofLexed? v :=
    match v.fields? ["person", "contact"] with
    | some [some person, contact] => do
        return ⟨← Message.ofLexed? person, ← Contact.ofField? contact⟩
    | _ => none

instance : Message DescribeReply where
  toJson m := .object [("summary", .text m.summary)]
  ofLexed? v := (oneText? "summary" v).map .mk

end PluginRpc.Greeter
