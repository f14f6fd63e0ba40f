/-
Outcome codes and the one error value that may cross a module boundary.

Two sides of a plugin boundary can come from different builds, so nothing
that is thrown may travel across it: a failure is folded into an
`ErrorInfo`, a plain pair of a code from a closed set and a text for the
person who reads the log. The code has a number on the wire; numbers
outside the closed set all read as `unknown`, so a newer peer can never
make an older one fail.
-/

namespace PluginRpc

-- ============================================================ the codes

/-- What became of a call. The set is closed and its numbering is fixed
by the wire format. -/
inductive StatusCode where
  | ok
  | cancelled
  | unknown
  | invalidArgument
  | deadlineExceeded
  | notFound
  | alreadyExists
  | permissionDenied
  | resourceExhausted
  | failedPrecondition
  | aborted
  | outOfRange
  | unimplemented
  | internal
  | unavailable
  | dataLoss
  | unauthenticated
deriving DecidableEq, Repr

namespace StatusCode

/-- Every code, in the order of its wire number. -/
def all : List StatusCode :=
  [ok, cancelled, unknown, invalidArgument, deadlineExceeded, notFound,
   alreadyExists, permissionDenied, resourceExhausted, failedPrecondition,
   aborted, outOfRange, unimplemented, internal, unavailable, dataLoss,
   unauthenticated]

/-- The number of a code on the wire. -/
def number : StatusCode → Int
  | ok => 0
  | cancelled => 1
  | unknown => 2
  | invalidArgument => 3
  | deadlineExceeded => 4
  | notFound => 5
  | alreadyExists => 6
  | permissionDenied => 7
  | resourceExhausted => 8
  | failedPrecondition => 9
  | aborted => 10
  | outOfRange => 11
  | unimplemented => 12
  | internal => 13
  | unavailable => 14
  | dataLoss => 15
  | unauthenticated => 16

/-- The code with a given wire number. A number nobody has assigned reads
as `unknown`. -/
def ofNumber (n : Int) : StatusCode :=
  (all.find? fun c => c.number == n).getD unknown

/-- The stable upper-case name of a code. -/
def name : StatusCode → String
  | ok => "OK"
  | cancelled => "CANCELLED"
  | unknown => "UNKNOWN"
  | invalidArgument => "INVALID_ARGUMENT"
  | deadlineExceeded => "DEADLINE_EXCEEDED"
  | notFound => "NOT_FOUND"
  | alreadyExists => "ALREADY_EXISTS"
  | permissionDenied => "PERMISSION_DENIED"
  | resourceExhausted => "RESOURCE_EXHAUSTED"
  | failedPrecondition => "FAILED_PRECONDITION"
  | aborted => "ABORTED"
  | outOfRange => "OUT_OF_RANGE"
  | unimplemented => "UNIMPLEMENTED"
  | internal => "INTERNAL"
  | unavailable => "UNAVAILABLE"
  | dataLoss => "DATA_LOSS"
  | unauthenticated => "UNAUTHENTICATED"

/-- A code survives the trip over the wire. -/
theorem ofNumber_number (c : StatusCode) : ofNumber c.number = c := by
  cases c <;> rfl

end StatusCode

-- ============================================================ the error

/-- A failed call, as a value: attached to a record, or carried by the
last record of a stream. -/
structure ErrorInfo where
  code : StatusCode
  message : String
deriving DecidableEq, Repr

namespace ErrorInfo

/-- The caller gave up. -/
def cancelled (message : String) : ErrorInfo := ⟨.cancelled, message⟩

/-- The call ran past its deadline. -/
def deadlineExceeded (message : String) : ErrorInfo :=
  ⟨.deadlineExceeded, message⟩

/-- Nobody serves what was asked for. -/
def unimplemented (message : String) : ErrorInfo := ⟨.unimplemented, message⟩

/-- What was asked for cannot be served in that form. -/
def invalidArgument (message : String) : ErrorInfo :=
  ⟨.invalidArgument, message⟩

/-- Something broke on the serving side. -/
def internal (message : String) : ErrorInfo := ⟨.internal, message⟩

/-- The peer cannot be reached. -/
def unavailable (message : String) : ErrorInfo := ⟨.unavailable, message⟩

/-- The one-line form of an error: its code's name, then its message. -/
def describe (e : ErrorInfo) : String := e.code.name ++ ": " ++ e.message

end ErrorInfo

end PluginRpc
