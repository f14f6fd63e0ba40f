/-
The greeter's messages, written and read.

Whatever a message holds, it can be written, and reading what was written
gives the message back. What is read of written bytes is known for values
of any shape; what is left is to ask for the fields. A message is written
with the names of its fields, all different, so each name leads to its
own field; a text leads back to the text, a number to the number, and the
key of a way to get in touch to that way.
-/
import PluginRpc.Greeter.Messages
import PluginRpc.Proofs.Json.Reading

namespace PluginRpc

-- ================================================================ fields

namespace Lexed

open Json

variable {members : List (String × Json)}

/-- The keys of a written object mean the names it was written with. -/
theorem keyed?_lexedMembers (members : List (String × Json)) :
    keyed? (lexedMembers members)
      = some (members.map fun m => (m.1, m.2.lexed)) := by
  induction members with
  | nil => rfl
  | cons m rest ih =>
      obtain ⟨key, value⟩ := m
      rw [lexedMembers, keyed?, characters?_quoted, ih]
      rfl

/-- A name that stands for one field only leads to it. -/
theorem field?_of_mem {fields : List (String × Lexed)}
    (distinct : (fields.map (·.1)).Nodup) {name : String} {value : Lexed}
    (mem : (name, value) ∈ fields) : field? fields name = some (some value) := by
  suffices alone : fields.filter (fun m => m.1 == name) = [(name, value)] by
    rw [field?, alone]
  induction fields with
  | nil => cases mem
  | cons f rest ih =>
      obtain ⟨key, first⟩ := f
      rw [List.map_cons, List.nodup_cons] at distinct
      obtain ⟨fresh, distinct⟩ := distinct
      rw [List.filter_cons]
      rcases List.mem_cons.mp mem with same | later
      · cases same
        have others : rest.filter (fun m => m.1 == name) = [] := by
          rw [List.filter_eq_nil_iff]
          rintro ⟨key, other⟩ there same
          cases beq_iff_eq.mp same
          exact fresh (List.mem_map_of_mem (f := (·.1)) there)
        rw [others]
        exact if_pos (beq_self_eq_true name)
      · rw [if_neg, ih distinct later]
        intro same
        cases beq_iff_eq.mp same
        exact fresh (List.mem_map_of_mem (f := (·.1)) later)

/-- The fields of a written object are found in their order. -/
theorem fields?_lexed {names : List String}
    (named : members.map (·.1) = names) (distinct : names.Nodup) :
    fields? names (Json.object members).lexed
      = some (members.map fun m => some m.2.lexed) := by
  subst named
  have found : ∀ m ∈ members,
      field? (members.map fun m => (m.1, m.2.lexed)) m.1
        = some (some m.2.lexed) := by
    intro m mem
    apply field?_of_mem
    · rw [List.map_map]
      exact distinct
    · exact List.mem_map_of_mem (f := fun m => (m.1, m.2.lexed)) mem
  show ((keyed? (lexedMembers members)).bind fun fields =>
    (members.map (·.1)).mapM (field? fields)) = _
  rw [keyed?_lexedMembers, Option.bind_some]
  -- the names are gone through one by one, the fields stay the same
  generalize (members.map fun m => (m.1, m.2.lexed)) = fields at found
  clear distinct
  induction members with
  | nil => rfl
  | cons m rest ih =>
      rw [List.map_cons, List.mapM_cons, found m List.mem_cons_self,
        ih fun m' mem => found m' (List.mem_cons_of_mem m mem)]
      rfl

theorem text?_lexed (s : String) : (Json.text s).lexed.text? = some s :=
  characters?_quoted s

end Lexed

namespace Greeter

open Lexed

-- ============================================================= each message

/-- Messages of a type come back from what was written. -/
def Returns {α : Type} [Message α] (m : α) : Prop :=
  Message.ofLexed? (Message.toJson m).lexed = some m

theorem Returns.decode_encode [Wording] {α : Type} [Message α] {m : α}
    (returns : Returns m) : decode (encode m) = .ok m := by
  unfold decode decode? encode
  rw [ofBytes?_bytes, Option.bind_some, returns]

theorem oneText?_lexed (name s : String) :
    oneText? name (Json.object [(name, .text s)]).lexed = some s := by
  have found : (Json.object [(name, .text s)]).lexed.fields? [name]
      = some [some (Json.text s).lexed] :=
    fields?_lexed rfl (by simp)
  unfold oneText?
  rw [found]
  exact text?_lexed s

theorem helloRequest_returns (m : HelloRequest) : Returns m :=
  congrArg (Option.map HelloRequest.mk) (oneText?_lexed "name" m.name)

theorem helloReply_returns (m : HelloReply) : Returns m :=
  congrArg (Option.map HelloReply.mk) (oneText?_lexed "message" m.message)

theorem chatMessage_returns (m : ChatMessage) : Returns m :=
  congrArg (Option.map ChatMessage.mk) (oneText?_lexed "text" m.text)

theorem describeReply_returns (m : DescribeReply) : Returns m :=
  congrArg (Option.map DescribeReply.mk) (oneText?_lexed "summary" m.summary)

theorem intValue_returns (m : IntValue) : Returns m := by
  have found : (Message.toJson m).lexed.fields? ["value"]
      = some [some (Json.number m.value.toInt).lexed] :=
    fields?_lexed rfl (by decide)
  have value : (Json.number m.value.toInt).lexed.int32? = some m.value :=
    int32?_intBytes m.value
  simp only [Returns, Message.ofLexed?, found, value]
  rfl

theorem countRequest_returns (m : CountRequest) : Returns m := by
  have found : (Message.toJson m).lexed.fields? ["start", "count"]
      = some [some (Json.number m.start.toInt).lexed,
          some (Json.ofNat m.count.toNat).lexed] :=
    fields?_lexed rfl (by decide)
  have start : (Json.number m.start.toInt).lexed.int64? = some m.start :=
    int64?_intBytes m.start
  have count : (Json.ofNat m.count.toNat).lexed.uint32? = some m.count :=
    uint32?_intBytes m.count
  simp only [Returns, Message.ofLexed?, found, start, count]
  rfl

theorem countReply_returns (m : CountReply) : Returns m := by
  have found : (Message.toJson m).lexed.fields? ["value"]
      = some [some (Json.number m.value.toInt).lexed] :=
    fields?_lexed rfl (by decide)
  have value : (Json.number m.value.toInt).lexed.int64? = some m.value :=
    int64?_intBytes m.value
  simp only [Returns, Message.ofLexed?, found, value]
  rfl

theorem person_returns (m : Person) : Returns m := by
  have found : (Message.toJson m).lexed.fields? ["name", "age"]
      = some [some (Json.text m.name).lexed,
          some (Json.number m.age.toInt).lexed] :=
    fields?_lexed rfl (by decide)
  have name : (Json.text m.name).lexed.text? = some m.name := text?_lexed m.name
  have age : (Json.number m.age.toInt).lexed.int32? = some m.age :=
    int32?_intBytes m.age
  simp only [Returns, Message.ofLexed?, found, name, age]
  rfl

/-- The key of the one member says which way it is. -/
theorem Contact.ofLexed?_toJson (contact : Contact) :
    Contact.ofLexed? contact.toJson.lexed = some contact := by
  have key : ∀ s, characters? (quoted s) = some s := characters?_quoted
  have text : ∀ s, (Lexed.text (quoted s)).text? = some s := key
  cases contact with
  | email address =>
      show Contact.ofLexed? (.object [(quoted "email", .text (quoted address))])
        = _
      simp [Contact.ofLexed?, key, text]
  | phone number =>
      show Contact.ofLexed? (.object [(quoted "phone", .text (quoted number))])
        = _
      simp [Contact.ofLexed?, key, text]

theorem Contact.ofField?_ofOption (contact : Option Contact) :
    Contact.ofField? (some (Json.ofOption Contact.toJson contact).lexed)
      = some contact := by
  cases contact with
  | none => rfl
  | some contact =>
      have back : (Contact.ofLexed? contact.toJson.lexed).map some
          = some (some contact) := by
        rw [Contact.ofLexed?_toJson]
        rfl
      -- what is written of a way is an object, and no null
      cases contact <;> exact back

/-- A request is read field by field. -/
theorem ofLexed?_describeRequest {v person : Lexed} {contact : Option Lexed}
    (found : v.fields? ["person", "contact"] = some [some person, contact]) :
    (Message.ofLexed? v : Option DescribeRequest)
      = do return ⟨← Message.ofLexed? person, ← Contact.ofField? contact⟩ := by
  simp only [Message.ofLexed?, found]

theorem describeRequest_returns (m : DescribeRequest) : Returns m := by
  have found : (Message.toJson m).lexed.fields? ["person", "contact"]
      = some [some (Message.toJson m.person).lexed,
          some (Json.ofOption Contact.toJson m.contact).lexed] :=
    fields?_lexed rfl (by decide)
  have person : Message.ofLexed? (Message.toJson m.person).lexed
      = some m.person := person_returns m.person
  unfold Returns
  rw [ofLexed?_describeRequest found, person, Contact.ofField?_ofOption]
  rfl

-- ============================================================== every message

/-- Reading what was written of a message gives the message, whatever
texts and numbers it holds. -/
theorem messages_return [Wording] :
    (∀ m : HelloRequest, decode (encode m) = .ok m)
    ∧ (∀ m : HelloReply, decode (encode m) = .ok m)
    ∧ (∀ m : IntValue, decode (encode m) = .ok m)
    ∧ (∀ m : CountRequest, decode (encode m) = .ok m)
    ∧ (∀ m : CountReply, decode (encode m) = .ok m)
    ∧ (∀ m : ChatMessage, decode (encode m) = .ok m)
    ∧ (∀ m : Person, decode (encode m) = .ok m)
    ∧ (∀ m : DescribeRequest, decode (encode m) = .ok m)
    ∧ (∀ m : DescribeReply, decode (encode m) = .ok m) :=
  ⟨fun m => (helloRequest_returns m).decode_encode,
    fun m => (helloReply_returns m).decode_encode,
    fun m => (intValue_returns m).decode_encode,
    fun m => (countRequest_returns m).decode_encode,
    fun m => (countReply_returns m).decode_encode,
    fun m => (chatMessage_returns m).decode_encode,
    fun m => (person_returns m).decode_encode,
    fun m => (describeRequest_returns m).decode_encode,
    fun m => (describeReply_returns m).decode_encode⟩

end Greeter

end PluginRpc
