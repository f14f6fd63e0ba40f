/-
The values a record slot can hold.

A caller learns the layout of a function's records at run time, so a slot
says itself which of eight kinds of value it holds. Reading is by kind:
the reader names the kind it expects and gets the value, or nothing if
the slot holds another kind.
-/
import PluginRpc.Ieee

namespace PluginRpc

-- ============================================================ the kinds

/-- The kinds of value a slot can hold. Sizes are in bytes. -/
inductive ScalarKind where
  | bool
  | int4
  | int8
  | uint4
  | uint8
  | float
  | double
  | string
deriving DecidableEq, Repr

namespace ScalarKind

/-- Every kind. -/
def all : List ScalarKind :=
  [bool, int4, int8, uint4, uint8, float, double, string]

/-- The stable lower-case name of a kind. -/
def name : ScalarKind → String
  | bool => "bool"
  | int4 => "int4"
  | int8 => "int8"
  | uint4 => "uint4"
  | uint8 => "uint8"
  | float => "float"
  | double => "double"
  | string => "string"

/-- The kind of a given name. -/
def ofName? (text : String) : Option ScalarKind :=
  all.find? fun k => k.name == text

/-- The values of a kind. Floats are kept as bit patterns. -/
def Carrier : ScalarKind → Type
  | bool => Bool
  | int4 => Int32
  | int8 => Int64
  | uint4 => UInt32
  | uint8 => UInt64
  | float => UInt32
  | double => UInt64
  | string => String

theorem ofName?_name (k : ScalarKind) : ofName? k.name = some k := by
  cases k <;> decide

end ScalarKind

-- =========================================================== the values

/-- A value together with its kind. -/
inductive Scalar where
  | bool (value : Bool)
  | int4 (value : Int32)
  | int8 (value : Int64)
  | uint4 (value : UInt32)
  | uint8 (value : UInt64)
  | float (bits : UInt32)
  | double (bits : UInt64)
  | string (value : String)
deriving DecidableEq, Repr

namespace Scalar

def kind : Scalar → ScalarKind
  | bool _ => .bool
  | int4 _ => .int4
  | int8 _ => .int8
  | uint4 _ => .uint4
  | uint8 _ => .uint8
  | float _ => .float
  | double _ => .double
  | string _ => .string

/-- Wraps a value of a known kind. -/
def ofCarrier : (k : ScalarKind) → k.Carrier → Scalar
  | .bool, v => bool v
  | .int4, v => int4 v
  | .int8, v => int8 v
  | .uint4, v => uint4 v
  | .uint8, v => uint8 v
  | .float, v => float v
  | .double, v => double v
  | .string, v => string v

/-- The value, if it is of the kind asked for. -/
def get? : (k : ScalarKind) → Scalar → Option k.Carrier
  | .bool, bool v => some v
  | .int4, int4 v => some v
  | .int8, int8 v => some v
  | .uint4, uint4 v => some v
  | .uint8, uint8 v => some v
  | .float, float v => some v
  | .double, double v => some v
  | .string, string v => some v
  | _, _ => none

/-- Comparison as the kinds themselves compare: floats by value, so that
a NaN differs from itself and the two zeros agree, all else exactly. -/
def equal : Scalar → Scalar → Bool
  | bool a, bool b => a == b
  | int4 a, int4 b => a == b
  | int8 a, int8 b => a == b
  | uint4 a, uint4 b => a == b
  | uint8 a, uint8 b => a == b
  | float a, float b => Ieee.single.equal a.toNat b.toNat
  | double a, double b => Ieee.double.equal a.toNat b.toNat
  | string a, string b => a == b
  | _, _ => false

/-- Whether the value is a float that stands for no number. -/
def isNaN : Scalar → Bool
  | float a => Ieee.single.isNaN a.toNat
  | double a => Ieee.double.isNaN a.toNat
  | _ => false

theorem kind_ofCarrier (k : ScalarKind) (v : k.Carrier) :
    (ofCarrier k v).kind = k := by
  cases k <;> rfl

theorem get?_ofCarrier (k : ScalarKind) (v : k.Carrier) :
    get? k (ofCarrier k v) = some v := by
  cases k <;> rfl

/-- Asking for another kind than the value's own yields nothing. -/
theorem get?_eq_none_of_ne {k : ScalarKind} {s : Scalar} (h : s.kind ≠ k) :
    get? k s = none := by
  cases k <;> cases s <;> first | rfl | exact absurd rfl h

end Scalar

/-- A slot holds a value or is absent. -/
abbrev Slot := Option Scalar

namespace Slot

/-- Two slots agree if both are absent or both hold equal values. -/
def equal : Slot → Slot → Bool
  | none, none => true
  | some a, some b => a.equal b
  | _, _ => false

/-- The value of a present slot of the kind asked for. -/
def get? (k : ScalarKind) (slot : Slot) : Option k.Carrier :=
  slot.bind (Scalar.get? k)

end Slot

end PluginRpc
