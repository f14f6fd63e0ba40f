/-
Channels and responders from a script.

A scripted responder either answers each request by itself or runs
through a list of actions. It notes what it is given. When it is told
that no more replies are wanted it notes that and is content, unless the
action insists on going on.
-/
import PluginRpc.Channel.Loopback

namespace PluginRpc.Rehearsal

/-- One thing a responder does. -/
inductive ResponderAction where
  /-- Reply with a message. -/
  | reply (message : Payload) (insist : Bool)
  /-- Reply with every request. -/
  | echo (insist : Bool)
  /-- Reply with the number of requests. -/
  | count (insist : Bool)
  /-- Reply with every entry of the metadata. -/
  | metadata (insist : Bool)
  /-- Cancel the call. -/
  | cancel
  | fail (e : ErrorInfo)
  | panic (p : Panic)
deriving DecidableEq, Repr

/-- How a method is answered. -/
inductive ResponderScript where
  /-- Each request gets a reply of its text behind a lead, except one
  text that gets an error. -/
  | each (lead : String) (failOn : Option String) (e : ErrorInfo)
  | actions (actions : List ResponderAction)
deriving DecidableEq, Repr

/-- What running an action comes to. -/
inductive Progress where
  | proceed
  /-- The responder is done, with success or not. -/
  | over (outcome : Except ErrorInfo Unit)

/-- Replies with messages one by one. -/
def sendAll (insist : Bool) : List Payload → Program feed Progress
  | [] => .done .proceed
  | message :: rest => do
      match ← Program.deliver message with
      | .proceed => sendAll insist rest
      | .stop =>
          Program.note .unwanted
          if insist then sendAll insist rest else return .over (.ok ())

/-- Runs one action. -/
def ResponderAction.run (c : CallContext) (requests : List Payload) :
    ResponderAction → Program feed Progress
  | reply message insist => sendAll insist [message]
  | echo insist => sendAll insist requests
  | count insist => sendAll insist [.ofText (toString requests.length)]
  | metadata insist =>
      sendAll insist (c.metadata.map fun (k, v) => .ofText (k ++ "=" ++ v))
  | cancel => do
      let _ ← Program.cancel (S := feed) c.token
      return .proceed
  | fail e => .done (.over (.error e))
  | panic p => .panic p

/-- Runs actions until one ends the responder. -/
def runActions (c : CallContext) (requests : List Payload) :
    List ResponderAction → Program feed (Except ErrorInfo Unit)
  | [] => .done (.ok ())
  | action :: rest => do
      match ← action.run c requests with
      | .proceed => runActions c requests rest
      | .over outcome => return outcome

/-- The responder of a script. -/
def ResponderScript.responder (method : String) : ResponderScript → Responder
  | .each lead failOn e =>
      .onEach fun request => do
        let text := request.lenientText
        Program.note (.each method text)
        if failOn == some text then return .error e
        else return .ok (.ofText (lead ++ text))
  | .actions list => fun c requests => do
      Program.note (.requests method (requests.map Payload.lenientText))
      runActions c requests list

-- ============================================================= channels

/-- How a channel is made. -/
inductive ChannelScript where
  | loopback (target : String) (credentials : Credentials)
      (responders : List (String × ResponderScript))
  /-- Makes unary calls only, and answers with the request. -/
  | unaryOnly (target : String) (credentials : Credentials)
deriving DecidableEq, Repr

/-- A channel that makes unary calls only. -/
def unaryOnlyChannel (target : String) (credentials : Credentials) : Channel where
  target := target
  credentials := credentials
  outline := .fields "UnaryOnly" [] true
  unary c method request := do
    match ← Program.check c with
    | .error e => return .error e
    | .ok () =>
      Program.note (.unaryOnly method.text request.lenientText)
      return .ok request

namespace ChannelScript

/-- The loopback of a script, if it is one. -/
def loopback? : ChannelScript → Option Loopback
  | loopback target credentials responders =>
      some (responders.foldl (fun l (method, script) =>
        l.on method (script.responder method)) (.ofTarget target credentials))
  | unaryOnly .. => none

/-- The channel of a script. -/
def channel : ChannelScript → Channel
  | unaryOnly target credentials => unaryOnlyChannel target credentials
  | script@(loopback target credentials _) =>
      match script.loopback? with
      | some l => l.channel
      | none => unaryOnlyChannel target credentials

end ChannelScript

/-- What is to be known about a channel after its calls. -/
structure ChannelSummary where
  target : String
  isSecure : Bool
  /-- The calls and the outline of a channel that has them. -/
  calls : Option (List MethodPath × Outline)

def ChannelScript.summary (s : ChannelScript) (l : Line) : ChannelSummary :=
  ⟨s.channel.target, s.channel.credentials.isSecure,
   s.loopback?.map fun loopback => (l.calls, loopback.outline)⟩

end PluginRpc.Rehearsal
