/-
Calls through a client, from a script.

A scripted call has a context, a request and a response: a record with
whatever is in it, or a stream in whatever state. A stream with a bound is
read by another thread while the call is under way; one without is read
when the call is over. What comes out is the response afterwards and the
notes of the call.
-/
import PluginRpc.Call.Run
import PluginRpc.Rehearsal.Handler

namespace PluginRpc.Rehearsal

/-- A response before the call. -/
inductive ResponseScript where
  | record (r : Record)
  /-- A stream of a bound, with records pushed to it, and then left live,
  ended or closed. -/
  | stream (capacity : Option Nat) (pushed : List Record) (state : StreamState)
deriving DecidableEq, Repr

/-- Pushes records one by one. -/
def pushAll (o : Outlet) : List Record → Outlet
  | [] => o
  | r :: rest =>
      match o.push? r with
      | some (_, o') => pushAll o' rest
      | none => o

/-- The response of a script. -/
def ResponseScript.response : ResponseScript → Response
  | record r => .record r
  | stream capacity pushed state =>
      let fresh : Outlet :=
        match capacity with
        | none => ⟨.unbounded, .unattended⟩
        | some n => ⟨.bounded n, .attended []⟩
      let o := pushAll fresh pushed
      let s := match state with
        | .live => o.stream
        | .ended => o.stream.endStream
        | .closed => o.stream.close
      .stream { o with stream := s }

/-- A call to be made. -/
structure CallScript where
  key : DispatchKey
  request : Record
  response : ResponseScript
  context : ContextScript

/-- A response after the call, as its caller sees it. -/
inductive ResponseReport where
  | record (r : Record)
  /-- Read when the call was over. -/
  | read (state : StreamState) (items : List (StreamStatus × Record))
  /-- Read while the call was under way. -/
  | drained (state : StreamState) (items : List StreamItem)

def ResponseReport.of (now : Instant) : Response → ResponseReport
  | .record r => .record r
  | .stream o =>
      match o.attendance with
      | .unattended => .read o.stream.state o.stream.readOut
      | .attended _ => .drained o.stream.state (o.allItems now)

/-- What a call showed. -/
structure CallReport where
  ending : Outcome Unit
  response : ResponseReport
  notes : List Note

/-- Makes one call. -/
def CallScript.run (client : Client) (l : Line) (s : CallScript) :
    CallReport × Line :=
  let (_, c, w) := s.context.build l.surroundings
  let response := s.response.response
  let (ending, st) :=
    CallProgram.run ⟨response, { l with surroundings := w }, []⟩
      (client c s.key s.request response.shape)
  let (notes, w) := st.line.surroundings.takeJournal
  (⟨ending, .of w.now st.response, notes⟩, { st.line with surroundings := w })

/-- Makes calls one after another. -/
def runCalls (client : Client) (l : Line) :
    List CallScript → List CallReport × Line
  | [] => ([], l)
  | s :: rest =>
      let (report, l) := s.run client l
      let (reports, l) := runCalls client l rest
      (report :: reports, l)

-- =============================================================== tables

/-- A handler to be registered. -/
structure RouteScript where
  address : DispatchTable.Address
  handler : List HandlerAction

/-- Registers handlers one after another: the size of the table after
each, or the refusal. -/
def registerAll (t : DispatchTable) :
    List RouteScript → List (Except RouteError Nat) × DispatchTable
  | [] => ([], t)
  | s :: rest =>
      match t.register (handlerOf s.handler) s.address with
      | .ok t' =>
          let (results, last) := registerAll t' rest
          (.ok t'.size :: results, last)
      | .error e =>
          let (results, last) := registerAll t rest
          (.error e :: results, last)

/-- A table, a channel, and the calls to be made through their client. -/
structure DispatchScript where
  package : PackageDecl
  routes : List RouteScript
  channel : ChannelScript
  calls : List CallScript

/-- What the rehearsal of a table showed. -/
structure DispatchReport where
  routes : List (Except RouteError Nat)
  table : DispatchTable
  clientOutline : Outline
  calls : List CallReport
  channel : ChannelSummary

/-- Registers the handlers and makes the calls. -/
def DispatchScript.rehearse (s : DispatchScript) : DispatchReport :=
  let (routes, table) := registerAll (.ofPackage s.package) s.routes
  let channel := s.channel.channel
  let (calls, l) := runCalls (table.client channel) freshLine s.calls
  ⟨routes, table, table.clientOutline channel, calls, s.channel.summary l⟩

-- ====================================================== bare responses

/-- Something done with a response outside of any call. -/
inductive ResponseStep where
  /-- Tell its shape. -/
  | shape
  | emit (r : Record)
  | fail (e : ErrorInfo)
deriving DecidableEq, Repr

/-- The program of a step. -/
def ResponseStep.program (shape : ResponseShape) : ResponseStep → CallProgram Unit
  | .shape => .done ()
  | .emit r => Rehearsal.emit shape r
  | .fail e => CallProgram.fail shape e

/-- Does one step after another. -/
def runResponseSteps (shape : ResponseShape) : List ResponseStep → CallProgram Unit
  | [] => .done ()
  | step :: rest => do
      step.program shape
      runResponseSteps shape rest

/-- What is left of a response after some steps. -/
def rehearseResponse (r : ResponseScript) (steps : List ResponseStep) :
    CallReport :=
  let response := r.response
  let (ending, st) := CallProgram.run ⟨response, freshLine, []⟩
    (runResponseSteps response.shape steps)
  let w := st.line.surroundings
  ⟨ending, .of w.now st.response, w.journal⟩

end PluginRpc.Rehearsal
