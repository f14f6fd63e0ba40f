/-
What a module's settings are read as.

A document is read as settings if it has no key but that of the section,
and in the section none but the six, each with a value of its type. Then
every field is what its key tells, or the default if its key is not there,
whatever the others are and in whatever order the keys stand. Any other
document is an error, and so is the loading of the module beside it: no
settings are made up for it, and it is not opened.
-/
import PluginRpc.Proofs.Plugin.Candidate
import PluginRpc.Proofs.Toml.Tidy
import Mathlib

namespace PluginRpc.PluginSettings

open Toml (Members Value Keyed)

variable {members document : Members} {key : String}

-- ================================================================ fields

/-- What a key tells: the value that is written there, or the default if it
is not there. -/
inductive Told {α : Type} (members : Members) (key : String)
    (write : α → Option Value) (default : α) : α → Prop
  | given {x : α} {v : Value} (written : write x = some v)
      (there : (key, v) ∈ members) : Told members key write default x
  | absent (no : ∀ m ∈ members, m.1 ≠ key) :
      Told members key write default default

variable {α : Type} {read : Value → Option α} {write : α → Option Value}
  {default x : α}

/-- A field that is read is what its key tells. -/
theorem field?_eq_some_iff (keyed : Keyed Value.Tidy members)
    (inverse : ∀ v x, read v = some x ↔ write x = some v) :
    members.field? key read default = some x
      ↔ Told members key write default x := by
  unfold Members.field?
  constructor
  · intro h
    cases found : members.find? key with
    | none =>
        rw [found] at h
        obtain rfl := Option.some.inj h
        exact .absent (Members.find?_eq_none_iff.mp found)
    | some v =>
        rw [found] at h
        exact .given ((inverse v x).mp h)
          (keyed.find?_eq_some_iff.mp found)
  · intro told
    cases told with
    | given written there =>
        rw [keyed.find?_eq_some_iff.mpr there]
        exact (inverse _ x).mpr written
    | absent no => rw [Members.find?_eq_none_iff.mpr no]

/-- What stands with a key that tells something is the writing of it. -/
theorem Told.written (told : Told members key write default x)
    (keyed : Keyed Value.Tidy members) {v : Value}
    (there : (key, v) ∈ members) : ∃ x, write x = some v := by
  cases told with
  | given written other => exact ⟨x, keyed.value_eq there other ▸ written⟩
  | absent no => exact absurd rfl (no _ there)

theorem exists_told
    (written : ∀ v, (key, v) ∈ members → ∃ x, write x = some v)
    (default : α) : ∃ x, Told members key write default x := by
  by_cases there : ∃ v, (key, v) ∈ members
  · obtain ⟨v, there⟩ := there
    obtain ⟨x, is_v⟩ := written v there
    exact ⟨x, .given is_v there⟩
  · exact ⟨default, .absent fun m inside same =>
      there ⟨m.2, by rw [← same]; exact inside⟩⟩

/-- How a truth value is written. -/
def ofBoolean (b : Bool) : Option Value := some (.boolean b)

def ofText (s : String) : Option Value := some (.text s)

/-- Having no text is not written. -/
def ofOptionalText (o : Option String) : Option Value := o.map .text

theorem boolean?_eq_some_iff (v : Value) (b : Bool) :
    v.boolean? = some b ↔ ofBoolean b = some v := by
  cases v <;> simp [Value.boolean?, ofBoolean, eq_comm]

theorem text?_eq_some_iff (v : Value) (s : String) :
    v.text? = some s ↔ ofText s = some v := by
  cases v <;> simp [Value.text?, ofText, eq_comm]

theorem optionalText?_eq_some_iff (v : Value) (o : Option String) :
    v.optionalText? = some o ↔ ofOptionalText o = some v := by
  cases v <;> cases o <;>
    simp [Value.optionalText?, Value.text?, ofOptionalText, eq_comm]

-- =============================================================== settings

/-- The settings that the members of a section tell, each field by
itself. -/
structure Reads (members : Members) (s : PluginSettings) : Prop where
  enabled : Told members "enabled" ofBoolean true s.enabled
  endpoint :
    Told members "endpoint" ofText "dns:///localhost:50051" s.endpoint
  secure : Told members "secure" ofBoolean false s.secure
  transport : Told members "transport" ofText "stream" s.transport
  service : Told members "service" ofOptionalText none s.service
  tlsServerName :
    Told members "tls_server_name" ofOptionalText none s.tlsServerName

/-- The keys of truth values. -/
def switches : List String := ["enabled", "secure"]

/-- The keys of texts. -/
def texts : List String :=
  ["endpoint", "transport", "service", "tls_server_name"]

/-- A key that is known, with a value of its type. -/
inductive Fits : String × Value → Prop
  | boolean {key : String} (known : key ∈ switches) (b : Bool) :
      Fits (key, .boolean b)
  | text {key : String} (known : key ∈ texts) (s : String) :
      Fits (key, .text s)

theorem mem_keys_iff : key ∈ keys ↔ key ∈ switches ∨ key ∈ texts := by
  simp only [keys, switches, texts, List.mem_cons, List.not_mem_nil]
  tauto

theorem not_mem_texts (known : key ∈ switches) : key ∉ texts := by
  have apart : ∀ k ∈ switches, k ∉ texts := by decide
  exact apart key known

theorem Fits.known {m : String × Value} (fits : Fits m) : m.1 ∈ keys := by
  cases fits with
  | boolean known => exact mem_keys_iff.mpr (.inl known)
  | text known => exact mem_keys_iff.mpr (.inr known)

theorem Fits.isBoolean {v : Value} (fits : Fits (key, v))
    (switch : key ∈ switches) : ∃ b, ofBoolean b = some v := by
  cases fits with
  | boolean _ b => exact ⟨b, rfl⟩
  | text known => exact absurd known (not_mem_texts switch)

theorem Fits.isText {v : Value} (fits : Fits (key, v))
    (text : key ∈ texts) : ∃ s, ofText s = some v := by
  cases fits with
  | boolean known => exact absurd text (not_mem_texts known)
  | text _ s => exact ⟨s, rfl⟩

theorem ofMembers?_eq_some_iff (keyed : Keyed Value.Tidy members)
    (s : PluginSettings) :
    ofMembers? members = some s
      ↔ (∀ m ∈ members, m.1 ∈ keys) ∧ Reads members s := by
  have known : members.areAmong keys = true ↔ ∀ m ∈ members, m.1 ∈ keys := by
    simp [Members.areAmong]
  unfold ofMembers?
  by_cases h : members.areAmong keys = true
  · rw [if_pos h]
    simp only [Option.bind_eq_bind, Option.bind_eq_some_iff,
      field?_eq_some_iff keyed boolean?_eq_some_iff,
      field?_eq_some_iff keyed text?_eq_some_iff,
      field?_eq_some_iff keyed optionalText?_eq_some_iff]
    constructor
    · rintro ⟨_, enabled, _, endpoint, _, secure, _, transport, _, service, _,
        server, made⟩
      obtain rfl := Option.some.inj made
      exact ⟨known.mp h, enabled, endpoint, secure, transport, service, server⟩
    · rintro ⟨-, reads⟩
      exact ⟨_, reads.enabled, _, reads.endpoint, _, reads.secure, _,
        reads.transport, _, reads.service, _, reads.tlsServerName, rfl⟩
  · rw [if_neg h]
    exact ⟨fun bad => (by cases bad), fun ok => absurd (known.mpr ok.1) h⟩

theorem Reads.fits {s : PluginSettings} (reads : Reads members s)
    (keyed : Keyed Value.Tidy members) (known : ∀ m ∈ members, m.1 ∈ keys) :
    ∀ m ∈ members, Fits m := by
  rintro ⟨key, v⟩ inside
  have boolean : key ∈ switches → (∃ b, ofBoolean b = some v) →
      Fits (key, v) := fun switch ⟨b, written⟩ =>
    Option.some.inj written ▸ .boolean switch b
  have text : key ∈ texts → (∃ s, ofText s = some v) → Fits (key, v) :=
    fun text ⟨s, written⟩ => Option.some.inj written ▸ .text text s
  have optional : key ∈ texts → (∃ o, ofOptionalText o = some v) →
      Fits (key, v) := fun known ⟨o, written⟩ => by
    obtain ⟨s, -, is_text⟩ := Option.map_eq_some_iff.mp written
    exact is_text ▸ .text known s
  have known := known _ inside
  simp only [keys, List.mem_cons, List.not_mem_nil, or_false] at known
  rcases known with rfl | rfl | rfl | rfl | rfl | rfl
  · exact boolean (by decide) (reads.enabled.written keyed inside)
  · exact text (by decide) (reads.endpoint.written keyed inside)
  · exact boolean (by decide) (reads.secure.written keyed inside)
  · exact text (by decide) (reads.transport.written keyed inside)
  · exact optional (by decide) (reads.service.written keyed inside)
  · exact optional (by decide) (reads.tlsServerName.written keyed inside)

/-- Members that fit tell some settings. -/
theorem exists_reads (fits : ∀ m ∈ members, Fits m) :
    ∃ s, Reads members s := by
  have boolean : ∀ key, key ∈ switches → ∀ v, (key, v) ∈ members →
      ∃ b, ofBoolean b = some v := fun _ switch v there =>
    (fits _ there).isBoolean switch
  have text : ∀ key, key ∈ texts → ∀ v, (key, v) ∈ members →
      ∃ s, ofText s = some v := fun _ text v there => (fits _ there).isText text
  have optional : ∀ key, key ∈ texts → ∀ v, (key, v) ∈ members →
      ∃ o, ofOptionalText o = some v := fun key known v there => by
    obtain ⟨s, written⟩ := text key known v there
    exact ⟨some s, written⟩
  obtain ⟨enabled, h₁⟩ := exists_told (boolean "enabled" (by decide)) true
  obtain ⟨endpoint, h₂⟩ :=
    exists_told (text "endpoint" (by decide)) "dns:///localhost:50051"
  obtain ⟨secure, h₃⟩ := exists_told (boolean "secure" (by decide)) false
  obtain ⟨transport, h₄⟩ := exists_told (text "transport" (by decide)) "stream"
  obtain ⟨service, h₅⟩ := exists_told (optional "service" (by decide)) none
  obtain ⟨server, h₆⟩ :=
    exists_told (optional "tls_server_name" (by decide)) none
  exact ⟨⟨enabled, endpoint, secure, transport, service, server⟩,
    h₁, h₂, h₃, h₄, h₅, h₆⟩

-- ============================================================== documents

/-- The section of a document that the settings are in. -/
inductive Section (document : Members) : Members → Prop
  | absent (no : ∀ m ∈ document, m.1 ≠ "udf") : Section document []
  | table {members : Members} (there : ("udf", .table members) ∈ document) :
      Section document members

/-- Settings are read from a document whose only key is that of the
section. -/
theorem ofDocument?_eq_some_iff (keyed : Keyed Value.Tidy document)
    (found : Section document members) (s : PluginSettings) :
    ofDocument? document = some s
      ↔ (∀ m ∈ document, m.1 = "udf") ∧ ofMembers? members = some s := by
  have only : document.areAmong ["udf"] = true ↔ ∀ m ∈ document, m.1 = "udf" := by
    simp [Members.areAmong]
  have read : document.field? "udf" ofSection? PluginSettings.default
      = ofMembers? members := by
    unfold Members.field?
    cases found with
    | absent no => rw [Members.find?_eq_none_iff.mpr no]; rfl
    | table there => rw [keyed.find?_eq_some_iff.mpr there]; rfl
  unfold ofDocument?
  rw [read, ← only]
  split <;> simp [*]

theorem keyed_section (keyed : Keyed Value.Tidy document)
    (found : Section document members) : Keyed Value.Tidy members := by
  cases found with
  | absent => exact ⟨List.nodup_nil, by simp⟩
  | table there => exact Toml.Value.tidy_table_iff.mp (keyed.each _ there)

/-- A document whose keys are all known, each with a value of its type. -/
structure Accepted (document members : Members) : Prop where
  only : ∀ m ∈ document, m.1 = "udf"
  fits : ∀ m ∈ members, Fits m

/-- What is read from an accepted document, and from no other. -/
theorem ofDocument?_eq_some_iff_reads (keyed : Keyed Value.Tidy document)
    (found : Section document members) (s : PluginSettings) :
    ofDocument? document = some s
      ↔ Accepted document members ∧ Reads members s := by
  have keyed' := keyed_section keyed found
  rw [ofDocument?_eq_some_iff keyed found, ofMembers?_eq_some_iff keyed']
  constructor
  · rintro ⟨only, known, reads⟩
    exact ⟨⟨only, reads.fits keyed' known⟩, reads⟩
  · rintro ⟨⟨only, fits⟩, reads⟩
    exact ⟨only, fun m inside => (fits m inside).known, reads⟩

-- ================================================================= texts

variable {text : String}

theorem parse_eq_ok_iff (read : Toml.document? text = some document)
    (found : Section document members) (origin : String)
    (s : PluginSettings) :
    parse origin text = .ok s ↔ Accepted document members ∧ Reads members s := by
  rw [← ofDocument?_eq_some_iff_reads (Toml.keyed_document? read) found]
  unfold parse
  rw [read, Option.bind_some]
  cases ofDocument? document <;> simp

/-- There is one way for a text to be no settings. -/
theorem parse_eq_error (origin : String)
    (bad : ∀ s, parse origin text ≠ .ok s) :
    parse origin text = .error (.malformed origin) := by
  unfold parse at bad ⊢
  cases read : (Toml.document? text).bind ofDocument? with
  | none => rfl
  | some s => exact absurd (by rw [read]) (bad s)

theorem parse_isOk_iff (read : Toml.document? text = some document)
    (found : Section document members) (origin : String) :
    (∃ s, parse origin text = .ok s) ↔ Accepted document members := by
  simp only [parse_eq_ok_iff read found]
  exact ⟨fun ⟨_, accepted, _⟩ => accepted, fun accepted => by
    obtain ⟨s, reads⟩ := exists_reads accepted.fits
    exact ⟨s, accepted, reads⟩⟩

theorem parse_of_not_accepted (read : Toml.document? text = some document)
    (found : Section document members) (origin : String)
    (bad : ¬ Accepted document members) :
    parse origin text = .error (.malformed origin) :=
  parse_eq_error origin fun s good =>
    bad ((parse_eq_ok_iff read found origin s).mp good).1

-- ============================================================== the order

variable {text' : String} {document' members' : Members}

theorem Told.perm {α : Type} {write : α → Option Value} {default x : α}
    (told : Told members key write default x) (perm : members'.Perm members) :
    Told members' key write default x := by
  cases told with
  | given written there => exact .given written (perm.mem_iff.mpr there)
  | absent no => exact .absent fun m inside => no m (perm.mem_iff.mp inside)

theorem Reads.perm {s : PluginSettings} (reads : Reads members s)
    (perm : members'.Perm members) : Reads members' s where
  enabled := reads.enabled.perm perm
  endpoint := reads.endpoint.perm perm
  secure := reads.secure.perm perm
  transport := reads.transport.perm perm
  service := reads.service.perm perm
  tlsServerName := reads.tlsServerName.perm perm

theorem Accepted.perm (accepted : Accepted document members)
    (keys : (document'.map Prod.fst).Perm (document.map Prod.fst))
    (perm : members'.Perm members) : Accepted document' members' where
  only m inside := by
    have key := keys.mem_iff.mp (List.mem_map_of_mem inside)
    obtain ⟨m', inside', same⟩ := List.mem_map.mp key
    exact same ▸ accepted.only m' inside'
  fits m inside := accepted.fits m (perm.mem_iff.mp inside)

/-- The order of the keys is without consequence. -/
theorem parse_perm (read : Toml.document? text = some document)
    (found : Section document members)
    (read' : Toml.document? text' = some document')
    (found' : Section document' members')
    (keys : (document'.map Prod.fst).Perm (document.map Prod.fst))
    (perm : members'.Perm members) (origin : String) :
    parse origin text' = parse origin text := by
  by_cases accepted : Accepted document members
  · obtain ⟨s, reads⟩ := exists_reads accepted.fits
    rw [(parse_eq_ok_iff read found origin s).mpr ⟨accepted, reads⟩]
    exact (parse_eq_ok_iff read' found' origin s).mpr
      ⟨accepted.perm keys perm, reads.perm perm⟩
  · rw [parse_of_not_accepted read found origin accepted]
    exact parse_of_not_accepted read' found' origin fun accepted' =>
      accepted (accepted'.perm keys.symm perm.symm)

-- ============================================================ the modules

/-- A module is loaded with what the text beside it is read as. -/
theorem loadOne_eq_proceed {l : Loader} {files : Files} {path place : Path}
    (backend : Backend) (place_at : l.config.settingsPath? path = some place)
    (holds : (files place).text? = some text) :
    l.loadOne files backend path
      = l.proceed backend path (parse place.text text) := by
  have file : (files place).isFile = true := by
    cases there : files place with
    | file => rfl
    | nothing | directory | unlisted => rw [there] at holds; cases holds
  refine Loader.loadOne_of_companion ?_
  unfold parse
  cases read : (Toml.document? text).bind ofDocument? with
  | none => exact .malformed place_at file holds read
  | some s => exact .settings place_at file holds read

/-- Settings are read strictly. A document is read as settings if and only
if all its keys are known and each has its type; then each field is what
its key tells, whatever the order of the keys. A module with any other
document beside it fails, and nothing else happens. -/
theorem strictly_read (read : Toml.document? text = some document)
    (found : Section document members) :
    (∀ origin,
      ((∃ s, parse origin text = .ok s) ↔ Accepted document members)
        ∧ (∀ s, parse origin text = .ok s
          ↔ Accepted document members ∧ Reads members s)
        ∧ (¬ Accepted document members →
          parse origin text = .error (.malformed origin)))
      ∧ (∀ text' document' members',
          Toml.document? text' = some document' →
          Section document' members' →
          (document'.map Prod.fst).Perm (document.map Prod.fst) →
          members'.Perm members →
          ∀ origin, parse origin text' = parse origin text)
      ∧ ∀ (l : Loader) files backend path place,
          l.config.settingsPath? path = some place →
          (files place).text? = some text →
          (¬ Accepted document members →
            l.loadOne files backend path
              = .done (.failed ⟨path, .settings (.malformed place.text)⟩, l))
          ∧ ∀ s, Accepted document members → Reads members s →
            l.loadOne files backend path = l.proceed backend path (.ok s) := by
  refine ⟨fun origin => ⟨parse_isOk_iff read found origin,
      parse_eq_ok_iff read found origin,
      parse_of_not_accepted read found origin⟩,
    fun _ _ _ read' found' keys perm =>
      parse_perm read found read' found' keys perm,
    fun l files backend path place place_at holds => ?_⟩
  rw [loadOne_eq_proceed backend place_at holds]
  refine ⟨fun bad => ?_, fun s accepted reads => ?_⟩
  · rw [parse_of_not_accepted read found _ bad]
    rfl
  · rw [(parse_eq_ok_iff read found _ s).mpr ⟨accepted, reads⟩]

/-- A section of two keys, and one whose only key is misspelt. -/
theorem strictly_read_sections :
    (∀ origin, parse origin "[udf]\nsecure = true\ntransport = \"tcp\""
        = .ok { PluginSettings.default with
            secure := true, transport := "tcp" })
      ∧ ∀ origin, parse origin "udf.enable = false"
        = .error (.malformed origin) := by
  have two : Toml.document? "[udf]\nsecure = true\ntransport = \"tcp\""
      = some [("udf", .table
          [("secure", .boolean true), ("transport", .text "tcp")])] := by cbv
  have misspelt : Toml.document? "udf.enable = false"
      = some [("udf", .table [("enable", .boolean false)])] := by cbv
  refine ⟨fun origin => ?_, fun origin => ?_⟩
  · obtain ⟨reading, -⟩ := strictly_read two (.table List.mem_cons_self)
    refine ((reading origin).2.1 _).mpr ⟨⟨by simp, ?_⟩, ?_⟩
    · simp only [List.forall_mem_cons]
      exact ⟨.boolean (by decide) true, .text (by decide) "tcp", by simp⟩
    · exact ⟨.absent (by decide), .absent (by decide),
        .given rfl (by simp), .given rfl (by simp), .absent (by decide),
        .absent (by decide)⟩
  · obtain ⟨reading, -⟩ := strictly_read misspelt (.table List.mem_cons_self)
    refine (reading origin).2.2 fun accepted => ?_
    have known := (accepted.fits _ List.mem_cons_self).known
    exact absurd known (by decide)

end PluginRpc.PluginSettings
