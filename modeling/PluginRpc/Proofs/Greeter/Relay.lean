/-
Relays.

A relay reads each reply and pushes it to the response stream as a record.
There are two reasons for which it wants no more replies: one could not be
read, or the stream did not take a record. It says so to the channel and
keeps no note of it; what it has in mind is the error of the last reply
that it could not read. So a reply is treated by itself, whatever came
before it.

What follows depends on the two others. A stream that has refused a record
refuses every later one, so behind the first refusal nothing is taken in
any case. A channel may go on though it is told to stop, and then a reply
that can be read is pushed behind one that could not. Only of a channel
that heeds what it is told do the records end where the first reply could
not be read.
-/
import PluginRpc.Greeter.Handlers
import PluginRpc.Greeter.Schema
import PluginRpc.Proofs.Call.Company
import PluginRpc.Proofs.Channel.Handing
import PluginRpc.Proofs.Dispatch.Streaming

namespace PluginRpc.Greeter

open CallProgram

-- ================================================================ one reply

/-- What a relay says to a reply that it could read. -/
def Relays.flowOf (taken : Bool) : Flow := if taken then .proceed else .stop

section

variable [Wording] {α : Type} [Message α] (fill : α → Slot)

/-- The record that is made of a payload, if it can be read. -/
def recordOf? (payload : Payload) : Option Record :=
  (decode payload : Except ErrorInfo α).toOption.map fun message =>
    .ofSlots [fill message]

variable (α) in
/-- The error of a payload that cannot be read. -/
def errorOf? (payload : Payload) : Option ErrorInfo :=
  match (decode payload : Except ErrorInfo α) with
  | .error e => some e
  | .ok _ => none

/-- The record that is pushed for a payload, and whether it was taken:
more is wanted if it was. -/
def pushOf? (h : Handed) : Option (Record × Bool) :=
  (recordOf? fill h.payload).map fun r => (r, h.flow == .proceed)

variable (α) in
/-- The errors of what could not be read, in order. -/
def errorsOf (handed : List Handed) : List ErrorInfo :=
  handed.filterMap fun h => errorOf? α h.payload

-- ============================================================= all of them

/-- What the receiver of a relay does with what a channel hands over, where
it has the error of an earlier reply in mind or none. -/
structure Relays {β : Type} (line : Line) (last : Option ErrorInfo)
    (x : Program feed β) (handed : List Handed) (ending : Outcome β)
    (course : CallCourse (Option ErrorInfo × β)) : Prop where
  hands : Hands line x handed ending course.state.line
  pushes : course.pushes = handed.filterMap (pushOf? fill)
  stops : ∀ h ∈ handed, errorOf? α h.payload ≠ none → h.flow = .stop
  outcome : course.outcome
    = ending.map fun b => ((errorsOf α handed).getLast?.or last, b)

namespace Relays

variable {fill} {β : Type} {line : Line} {last : Option ErrorInfo}
  {handed : List Handed} {ending : Outcome β}
  {course : CallCourse (Option ErrorInfo × β)} {payload : Payload}
  {next : Flow → Program feed β}

/-- A reply that cannot be read, and then the others. -/
theorem after_unread {e : ErrorInfo}
    (unread : decode payload = (.error e : Except ErrorInfo α))
    (h : Relays fill line (some e) (next .stop) handed ending course) :
    Relays fill line last (.perform (.deliver payload) next)
      (⟨payload, .stop⟩ :: handed) ending course := by
  have error : errorOf? α payload = some e := by rw [errorOf?, unread]
  have nothing : pushOf? fill ⟨payload, .stop⟩ = none := by
    rw [pushOf?, recordOf?, unread]
    rfl
  have errors : errorsOf α (⟨payload, .stop⟩ :: handed)
      = e :: errorsOf α handed := List.filterMap_cons_some error
  refine ⟨.taken payload .stop h.hands, ?_, ?_, ?_⟩
  · rw [List.filterMap_cons_none nothing]
    exact h.pushes
  · exact List.forall_mem_cons.mpr ⟨fun _ => rfl, h.stops⟩
  · rw [errors, getLast?_cons_or]
    exact h.outcome

/-- A reply that can be read, and then the others. -/
theorem after_read {message : α}
    (read : decode payload = (.ok message : Except ErrorInfo α)) (taken : Bool)
    (h : Relays fill line last (next (flowOf taken)) handed ending course) :
    Relays fill line last (.perform (.deliver payload) next)
      (⟨payload, flowOf taken⟩ :: handed) ending
      (course.behind [(.ofSlots [fill message], taken)]) := by
  have error : errorOf? α payload = none := by rw [errorOf?, read]
  have pushed : pushOf? fill ⟨payload, flowOf taken⟩
      = some (.ofSlots [fill message], taken) := by
    rw [pushOf?, recordOf?, read]
    cases taken <;> rfl
  have errors : errorsOf α (⟨payload, flowOf taken⟩ :: handed)
      = errorsOf α handed := List.filterMap_cons_none error
  refine ⟨.taken payload _ h.hands, ?_, ?_, ?_⟩
  · rw [List.filterMap_cons_some pushed, ← h.pushes]
    rfl
  · exact List.forall_mem_cons.mpr ⟨fun failed => absurd error failed, h.stops⟩
  · rw [errors]
    exact h.outcome

end Relays

variable {fill} (company : Company)

theorem relayOne_of_unread {payload : Payload} {e : ErrorInfo}
    (unread : decode payload = (.error e : Except ErrorInfo α))
    (last : Option ErrorInfo) :
    relayOne fill last payload = .done (some e, .stop) := by
  rw [relayOne, unread]
  rfl

theorem relayOne_of_read {payload : Payload} {message : α}
    (read : decode payload = (.ok message : Except ErrorInfo α))
    (last : Option ErrorInfo) :
    relayOne fill last payload
      = (push (.ofSlots [fill message])).bind fun taken =>
          .done (last, Relays.flowOf taken) := by
  rw [relayOne, read]
  refine congrArg (Program.bind _) (funext fun taken => ?_)
  cases taken <;> rfl

variable (fill) in
/-- The receiver goes through what a channel hands over, reply by reply.
The induction is on what the channel does; what the receiver has in mind,
and how far the company is, is different for each rest. -/
theorem relays_receive {β : Type} (x : Program feed β) (n : Nat)
    (st : CallState) (last : Option ErrorInfo) :
    ∃ handed ending, Relays fill st.line last x handed ending
      (amid company n st (Program.receive (relayOne fill) last x)) := by
  induction x generalizing n st last with
  | done a => exact ⟨[], _, .done st.line a, rfl, List.forall_mem_nil _, rfl⟩
  | panic p =>
      exact ⟨[], _, .panicked st.line p, rfl, List.forall_mem_nil _, rfl⟩
  | perform op next ih =>
      have same := st.after_line (company n)
      cases op with
      | wire op =>
          have answered := CallOp.run?_wire_after st (company n) op
          obtain ⟨handed, ending, rest⟩ := ih (op.run st.line).1 (n + 1)
            { st.after (company n) with line := (op.run st.line).2 } last
          refine ⟨handed, ending, ?_⟩
          show Relays fill st.line last _ handed ending
            (amid company n st (.perform (.wire op) fun answer =>
              Program.receive (relayOne fill) last (next answer)))
          rw [amid_answered answered]
          exact ⟨.wire op rest.hands, rest.pushes, rest.stops, rest.outcome⟩
      | deliver payload =>
          show ∃ handed ending, Relays fill st.line last _ handed ending
              (amid company n st ((relayOne fill last payload).bind fun r =>
                Program.receive (relayOne fill) r.1 (next r.2)))
          cases read : (decode payload : Except ErrorInfo α) with
          | error e =>
              rw [relayOne_of_unread read]
              obtain ⟨handed, ending, rest⟩ := ih .stop n st (some e)
              exact ⟨_, ending, rest.after_unread read⟩
          | ok message =>
              rw [relayOne_of_read read]
              show ∃ handed ending, Relays fill st.line last _ handed ending
                (amid company n st (.perform (.push (.ofSlots [fill message]))
                  fun taken => Program.receive (relayOne fill) last
                    (next (Relays.flowOf taken))))
              cases answered : CallOp.run? (st.after (company n))
                (.push (.ofSlots [fill message])) with
              | none =>
                  rw [amid_waits answered]
                  refine ⟨[], .stalled, ?_, rfl, List.forall_mem_nil _, rfl⟩
                  show Hands _ _ _ _ (st.after (company n)).line
                  rw [same]
                  exact .waits st.line payload next
              | some result =>
                  obtain ⟨taken, st'⟩ := result
                  have kept := (CallOp.run?_push_line answered).trans same
                  obtain ⟨handed, ending, rest⟩ :=
                    ih (Relays.flowOf taken) (n + 1) st' last
                  rw [kept] at rest
                  rw [amid_answered answered]
                  exact ⟨_, ending, rest.after_read read taken⟩

-- ================================================== the last that is wanted

variable (fill) in
/-- The records of what is handed over before the first payload that cannot
be read. -/
def recordsInFront (handed : List Handed) : List Record :=
  (handed.takeWhile fun h => (recordOf? fill h.payload).isSome).filterMap
    fun h => recordOf? fill h.payload

theorem isSome_recordOf? {payload : Payload}
    (read : errorOf? α payload = none) :
    (recordOf? fill payload).isSome = true := by
  unfold errorOf? at read
  unfold recordOf?
  cases decoded : (decode payload : Except ErrorInfo α) with
  | error e =>
      rw [decoded] at read
      cases read
  | ok message => rfl

variable (fill) in
theorem pushOf?_fst (h : Handed) :
    (pushOf? fill h).map Prod.fst = recordOf? fill h.payload := by
  unfold pushOf?
  cases recordOf? fill h.payload <;> rfl

section

variable {handed : List Handed}
  (heeded : ∀ h ∈ handed.dropLast, h.flow = .proceed)
  (stops : ∀ h ∈ handed, errorOf? α h.payload ≠ none → h.flow = .stop)

include heeded stops

/-- Whatever comes before the last payload could be read. -/
theorem read_of_wanted :
    ∀ h ∈ handed.dropLast, errorOf? α h.payload = none := by
  intro h before
  by_contra unread
  have wanted := heeded h before
  rw [stops h (List.dropLast_subset _ before) unread] at wanted
  cases wanted

/-- Then all that is pushed is in front of what could not be read. -/
theorem records_eq_recordsInFront :
    handed.filterMap (fun h => recordOf? fill h.payload)
      = recordsInFront fill handed := by
  have read := read_of_wanted heeded stops
  rcases List.eq_nil_or_concat handed with rfl | ⟨before, last, rfl⟩
  · rfl
  · rw [List.concat_eq_append, List.dropLast_concat] at read
    unfold recordsInFront
    rw [List.concat_eq_append, List.takeWhile_append_of_pos
      fun h mem => isSome_recordOf? (read h mem), List.filterMap_append,
      List.filterMap_append]
    refine congrArg (_ ++ ·) ?_
    cases first : recordOf? fill last.payload with
    | none => simp [first]
    | some r => simp [first]

/-- And there is no more than one error. -/
theorem errorsOf_getLast? :
    (errorsOf α handed).getLast? = (errorsOf α handed).head? := by
  have read := read_of_wanted heeded stops
  rcases List.eq_nil_or_concat handed with rfl | ⟨before, last, rfl⟩
  · rfl
  · rw [List.concat_eq_append, List.dropLast_concat] at read
    have clear : errorsOf α before = [] := List.filterMap_eq_nil_iff.mpr read
    have errors : errorsOf α (before ++ [last]) = errorsOf α [last] := by
      rw [errorsOf, List.filterMap_append]
      exact congrArg (· ++ errorsOf α [last]) clear
    rw [List.concat_eq_append, errors]
    unfold errorsOf
    rw [List.filterMap_cons]
    cases errorOf? α last.payload <;> rfl

end

-- ================================================================ the whole

variable (fill) in
/-- What a relay over a channel comes to, in any company. -/
structure RelayAccount (st : CallState)
    (x : Program feed (Except ErrorInfo Unit)) (handed : List Handed)
    (ending : Outcome (Except ErrorInfo Unit))
    (course : CallCourse (Except ErrorInfo Unit)) : Prop where
  /-- The channel has this course, and the relay has no hand in its
  line. -/
  hands : Hands st.line x handed ending course.state.line
  /-- Every reply that can be read is pushed, whatever came before it, and
  more is wanted if it is taken. -/
  pushes : course.pushes = handed.filterMap (pushOf? fill)
  /-- No more is wanted where a reply cannot be read. -/
  stops : ∀ h ∈ handed, errorOf? α h.payload ≠ none → h.flow = .stop
  /-- Behind a record that the stream refuses it refuses all. -/
  refusals : course.pushes.Pairwise fun p later => p.2 = false → later.2 = false
  /-- Nothing but a full stream holds a relay up. -/
  waits : ending = .stalled →
    ∃ o, course.state.response = .stream o ∧ o.stream.isFull = true
  /-- The answer is the channel's own error, or else the error of the last
  reply that could not be read. -/
  outcome : course.outcome = ending.map (relayed (errorsOf α handed).getLast?)
  /-- Of a channel that heeds what it is told, every reply but the last was
  read and taken, nothing is pushed behind a reply that cannot be read, and
  there is no more than one error. -/
  heeded : x.Heeds →
    (∀ h ∈ handed.dropLast, h.flow = .proceed)
      ∧ course.pushes.map Prod.fst = recordsInFront fill handed
      ∧ course.outcome = ending.map (relayed (errorsOf α handed).head?)

/-- A relay over a call that is handed to a channel. -/
theorem relay_dialled (c : ChannelCall)
    (x : Program feed (Except ErrorInfo Unit)) (st : CallState) :
    ∃ handed ending, RelayAccount fill st x handed ending
      (amid company 0 st (relay fill fun receiver last =>
        (dial c).bind fun _ => Program.receive receiver last x)) := by
  let found := st.after (company 0)
  let dialled : CallState := { found with dialled := found.dialled ++ [c] }
  let whole := relay fill fun receiver last =>
    (dial c).bind fun _ => Program.receive receiver last x
  have answered : CallOp.run? found (.dial c) = some ((), dialled) := rfl
  obtain ⟨handed, ending, rest⟩ := relays_receive fill company x 1 dialled none
  have course : amid company 0 st whole
      = (amid company 1 dialled (Program.receive (relayOne fill) none x)).map
          fun r => relayed r.1 r.2 :=
    (amid_answered answered _).trans (amid_bind_done company _ 1 dialled _)
  have line : dialled.line = st.line := st.after_line (company 0)
  rw [line] at rest
  have outcome : (amid company 0 st whole).outcome
      = ending.map (relayed (errorsOf α handed).getLast?) := by
    rw [course, CallCourse.map, rest.outcome, Outcome.map_map, Option.or_none]
  have pushes : (amid company 0 st whole).pushes
      = handed.filterMap (pushOf? fill) := by
    rw [course]
    exact rest.pushes
  refine ⟨handed, ending, ?_, pushes, rest.stops, amid_refusals_last ..,
    fun waits => amid_stalled company 0 st whole ?_, outcome, fun heeds => ?_⟩
  · show Hands _ _ _ _ (amid company 0 st whole).state.line
    rw [course]
    exact rest.hands
  · rw [outcome, waits]
    rfl
  · have wanted := rest.hands.heeded heeds
    refine ⟨wanted, ?_, ?_⟩
    · rw [pushes, ← records_eq_recordsInFront wanted rest.stops,
        List.map_filterMap]
      exact congrArg (handed.filterMap ·) (funext (pushOf?_fst fill))
    · rw [outcome, errorsOf_getLast? wanted rest.stops]

/-- Over every channel, in every company and for every way in which replies
can be read, a relay takes each reply by itself; only with a channel that
heeds what it is told does it end at the first that cannot be read. -/
theorem relay_takes_each_reply_by_itself (i : Invocation) (st : CallState) :
    (∀ payload, ∃ handed ending, RelayAccount fill st
      (i.channel.serverStreaming i.context i.method payload) handed ending
      (amid company 0 st (relay fill (i.serverStreaming payload))))
    ∧ ∀ payloads, ∃ handed ending, RelayAccount fill st
      (i.channel.bidirectional i.context i.method payloads) handed ending
      (amid company 0 st (relay fill (i.bidirectional payloads))) :=
  ⟨fun _ => relay_dialled company _ _ st, fun _ => relay_dialled company _ _ st⟩

end

/-- Hands over some payloads, whatever it is told. -/
def handingOver : List Payload → Program feed (Except ErrorInfo Unit)
  | [] => .done (.ok ())
  | payload :: rest => .perform (.deliver payload) fun _ => handingOver rest

/-- Four replies, of which the second and the last cannot be read, over a
channel that does not care: the third is pushed behind the second, and the
error is that of the last. -/
theorem relay_pushes_behind_unread :
    let noObject := "EOF while parsing an object at line 1 column 1"
    let noValue := "EOF while parsing a value at line 1 column 0"
    let _ : Wording :=
      ⟨fun _ bytes => if bytes.isEmpty then noValue else noObject⟩
    let replies : List Payload :=
      [encode (⟨1⟩ : CountReply), [0x7b], encode (⟨2⟩ : CountReply), []]
    let channel : Channel :=
      { (Loopback.ofTarget "mem" .insecure).channel with
        serverStreaming := fun _ _ _ => handingOver replies }
    let request : CountRequest := ⟨1, 2⟩
    let i : Invocation :=
      ⟨⟨⟨0⟩, .unlimited, []⟩, channel, ⟨"/helloworld.Greeter/CountUp"⟩,
       ⟨2, "CountUp", .serverStreaming, 2, 3⟩, records, .empty⟩
    let fill := fun (reply : CountReply) => some (Scalar.int8 reply.value)
    let record := fun n => Record.ofSlots [some (.int8 n)]
    let line : Line := ⟨.start, []⟩
    let course := amid .nobody 0 ⟨.ofStream .unbounded, line, []⟩
      (relay fill (i.serverStreaming (encode request)))
    let handed : List Handed :=
      List.zipWith .mk replies [.proceed, .stop, .proceed, .stop]
    Hands line (handingOver replies) handed (.returned (.ok ())) line
      ∧ course.pushes = [(record 1, true), (record 2, true)]
      ∧ recordsInFront fill handed = [record 1]
      ∧ course.outcome.failure
        = some (.invalidArgument ("malformed payload: " ++ noValue))
      ∧ (errorsOf CountReply handed).head?
        = some (.invalidArgument ("malformed payload: " ++ noObject)) := by
  intro noObject noValue _ replies channel request i fill record line course
    handed
  refine ⟨?_, by decide +kernel, by decide +kernel, by decide +kernel,
    by decide +kernel⟩
  exact .taken _ .proceed (.taken _ .stop (.taken _ .proceed
    (.taken _ .stop (.done _ _))))

end PluginRpc.Greeter
