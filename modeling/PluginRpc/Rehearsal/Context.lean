/-
Contexts from a script.

A scripted context begins with a token of the caller's. Its child goes
into the context, unless the script wants a context with a token of its
own; the caller may have cancelled before the call begins.
-/
import PluginRpc.Context

namespace PluginRpc.Rehearsal

/-- When a scripted call has to be over. -/
inductive DeadlineScript where
  | unlimited
  /-- A timeout of nothing. -/
  | zero
  /-- The present instant itself. -/
  | present
  /-- A timeout of one hour. -/
  | hour
  /-- The longest timeout there is. -/
  | longest
deriving DecidableEq, Repr

def DeadlineScript.deadline (now : Instant) : DeadlineScript → Deadline
  | unlimited => .unlimited
  | zero => .after now .zero
  | present => .ofInstant now
  | hour => .after now .hour
  | longest => .after now .longest

/-- How a context is made. -/
structure ContextScript where
  /-- The caller has cancelled already. -/
  cancelled : Bool
  /-- The context gets the child of the caller's token. -/
  linked : Bool
  deadline : DeadlineScript
  metadata : List (String × String)
deriving DecidableEq, Repr

/-- A context of its own that lives, without limit and metadata. -/
def ContextScript.plain : ContextScript := ⟨false, false, .unlimited, []⟩

/-- The caller's token, the context, and the surroundings with both. -/
def ContextScript.build (s : ContextScript) (w : Surroundings) :
    Token × CallContext × Surroundings :=
  let (token, w) := w.newToken
  let (own, w) := w.newToken
  let w := if s.cancelled then (w.cancel token).2 else w
  let context : CallContext :=
    ⟨if s.linked then token.child else own, s.deadline.deadline w.now, s.metadata⟩
  (token, context, w)

-- ============================================================ the steps

/-- Something done with a caller's token and its context. -/
inductive ContextStep where
  | cancel
  | cancelChild
  | cancelContext
  | isCancelled
  | check
  /-- On a copy of the context. -/
  | checkCopy
  | metadata
  | deadline
  | describe
deriving DecidableEq, Repr

/-- What is to be known about a deadline. -/
structure DeadlineFacts where
  isSet : Bool
  isUnlimited : Bool
  isExpired : Bool
  /-- Whether no time is left, where there is a limit. -/
  isSpent : Option Bool
deriving DecidableEq, Repr

/-- What a step shows. -/
inductive ContextSeen where
  | first (first : Bool)
  | cancelled (token context : Bool)
  | checked (outcome : Option ErrorInfo)
  | metadata (pairs : List (String × String))
  | deadline (facts : DeadlineFacts)
  | text (text : Option String)
deriving DecidableEq, Repr

/-- The error of a check, if there is one. -/
def errorOf {α : Type} : Except ErrorInfo α → Option ErrorInfo
  | .error e => some e
  | .ok _ => none

/-- One step. -/
def ContextStep.run (token : Token) (c : CallContext) (w : Surroundings) :
    ContextStep → ContextSeen × Surroundings
  | cancel => let (first, w) := w.cancel token; (.first first, w)
  | cancelChild => let (first, w) := w.cancel token.child; (.first first, w)
  | cancelContext => let (first, w) := w.cancel c.token; (.first first, w)
  | isCancelled => (.cancelled (w.isCancelled token) (w.isCancelled c.token), w)
  | check => (.checked (errorOf (c.check w)), w)
  | checkCopy => (.checked (errorOf (c.check w)), w)
  | metadata => (.metadata c.metadata, w)
  | deadline =>
      (.deadline
        ⟨c.deadline.instant.isSome, c.deadline == .unlimited,
         c.deadline.isExpired w.now,
         (c.deadline.remaining w.now).map (· == 0)⟩, w)
  | describe => (.text (c.describe w), w)

/-- A sequence of steps. -/
def runContextSteps (token : Token) (c : CallContext) (w : Surroundings) :
    List ContextStep → List ContextSeen
  | [] => []
  | step :: rest =>
      let (seen, w') := step.run token c w
      seen :: runContextSteps token c w' rest

/-- A scripted context and what steps on it show. -/
def ContextScript.rehearse (s : ContextScript) (steps : List ContextStep) :
    List ContextSeen :=
  let (token, c, w) := s.build .start
  runContextSteps token c w steps

end PluginRpc.Rehearsal
