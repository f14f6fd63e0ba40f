/-
The keys of a document.

In a document that has been read every key stands once, in the document
itself and in every table within it, however deep and however written.
For a statement can only add a key where it is not: what would give one
a second time has no result. So a value found under a key is the value of
that key.
-/
import PluginRpc.Toml.Reader
import Mathlib.Data.List.Nodup

namespace PluginRpc.Toml

-- ============================================================= tidiness

/-- Every key stands once, and what it stands for is as it should be. -/
structure Keyed {α : Type} (good : α → Prop) (members : List (String × α)) :
    Prop where
  distinct : (members.map Prod.fst).Nodup
  each : ∀ m ∈ members, good m.2

/-- In every table of a value each key stands once. -/
inductive Value.Tidy : Value → Prop
  | boolean (b : Bool) : Tidy (.boolean b)
  | text (s : String) : Tidy (.text s)
  | quantity : Tidy .quantity
  | array {items : List Value} (each : ∀ v ∈ items, Tidy v) :
      Tidy (.array items)
  | table {members : Members} (distinct : (members.map Prod.fst).Nodup)
      (each : ∀ m ∈ members, Tidy m.2) : Tidy (.table members)

/-- The same of what a key stands for while the document is read. -/
inductive Entry.Tidy : Entry → Prop
  | value {v : Value} (tidy : v.Tidy) : Tidy (.value v)
  | table {origin : Origin} {members : Draft}
      (distinct : (members.map Prod.fst).Nodup)
      (each : ∀ m ∈ members, Tidy m.2) : Tidy (.table origin members)
  | tables {closed : List Draft} {last : Draft}
      (distinct : ∀ d ∈ last :: closed, (d.map Prod.fst).Nodup)
      (each : ∀ d ∈ last :: closed, ∀ m ∈ d, Tidy m.2) :
      Tidy (.tables closed last)

def Draft.Tidy (d : Draft) : Prop := Keyed Entry.Tidy d

variable {d d' : Draft} {key : String} {v : Value}

theorem Value.tidy_table_iff {members : Members} :
    (Value.table members).Tidy ↔ Keyed Value.Tidy members := by
  constructor
  · rintro (_ | _ | _ | _ | ⟨distinct, each⟩)
    exact ⟨distinct, each⟩
  · rintro ⟨distinct, each⟩
    exact .table distinct each

theorem Entry.tidy_table_iff {origin : Origin} :
    (Entry.table origin d).Tidy ↔ d.Tidy := by
  constructor
  · rintro (_ | ⟨distinct, each⟩ | _)
    exact ⟨distinct, each⟩
  · rintro ⟨distinct, each⟩
    exact .table distinct each

theorem Entry.tidy_tables_iff {closed : List Draft} :
    (Entry.tables closed d).Tidy ↔ ∀ d' ∈ d :: closed, Draft.Tidy d' := by
  constructor
  · rintro (_ | _ | ⟨distinct, each⟩) d' inside
    exact ⟨distinct d' inside, each d' inside⟩
  · intro tidy
    exact .tables (fun d' inside => (tidy d' inside).distinct)
      fun d' inside => (tidy d' inside).each

namespace Draft

theorem tidy_nil : Tidy [] := ⟨List.nodup_nil, by simp⟩

-- ============================================================ statements

/-- A change of what one key stands for changes no other key, and a new
key comes last. -/
theorem keys_change? {f : Option Entry → Option Entry}
    (h : d.change? key f = some d') :
    d'.map Prod.fst = d.map Prod.fst
      ∨ key ∉ d.map Prod.fst ∧ d'.map Prod.fst = d.map Prod.fst ++ [key] := by
  induction d generalizing d' with
  | nil =>
      obtain ⟨e, -, rfl⟩ := Option.map_eq_some_iff.mp h
      exact .inr ⟨List.not_mem_nil, rfl⟩
  | cons m rest ih =>
      obtain ⟨k, e⟩ := m
      rw [change?] at h
      by_cases same : k = key
      · rw [if_pos same] at h
        obtain ⟨e', -, rfl⟩ := Option.map_eq_some_iff.mp h
        exact .inl rfl
      · rw [if_neg same] at h
        obtain ⟨rest', changed, rfl⟩ := Option.map_eq_some_iff.mp h
        obtain keys | ⟨new, keys⟩ := ih changed
        · exact .inl (congrArg (k :: ·) keys)
        · exact .inr ⟨by simp [new, Ne.symm same], congrArg (k :: ·) keys⟩

/-- What is done to a key's entry, if it keeps entries tidy. -/
def Keeps (f : Option Entry → Option Entry) : Prop :=
  ∀ o e, (∀ e' ∈ o, e'.Tidy) → f o = some e → e.Tidy

theorem each_change? {f : Option Entry → Option Entry} (keeps : Keeps f)
    (each : ∀ m ∈ d, m.2.Tidy) (h : d.change? key f = some d') :
    ∀ m ∈ d', m.2.Tidy := by
  induction d generalizing d' with
  | nil =>
      obtain ⟨e, made, rfl⟩ := Option.map_eq_some_iff.mp h
      have tidy : e.Tidy := keeps none e (by simp) made
      simpa using tidy
  | cons m rest ih =>
      obtain ⟨first, others⟩ := List.forall_mem_cons.mp each
      obtain ⟨k, e⟩ := m
      rw [change?] at h
      split at h
      · obtain ⟨e', made, rfl⟩ := Option.map_eq_some_iff.mp h
        have tidy : e'.Tidy := keeps (some e) e' (by simpa using first) made
        exact List.forall_mem_cons.mpr ⟨tidy, others⟩
      · obtain ⟨rest', changed, rfl⟩ := Option.map_eq_some_iff.mp h
        exact List.forall_mem_cons.mpr ⟨first, ih others changed⟩

theorem Tidy.change? {f : Option Entry → Option Entry} (tidy : d.Tidy)
    (keeps : Keeps f) (h : d.change? key f = some d') : d'.Tidy := by
  refine ⟨?_, each_change? keeps tidy.each h⟩
  obtain keys | ⟨new, keys⟩ := keys_change? h
  · exact keys ▸ tidy.distinct
  · rw [keys, ← List.concat_eq_append]
    exact List.Nodup.concat new tidy.distinct

/-- Going down a path keeps a draft tidy, if what is done at its end
does. -/
theorem Tidy.descend? {made : Origin} {act : Origin → Draft → Option Draft}
    (acts : ∀ own d d', d.Tidy → act own d = some d' → d'.Tidy)
    {path : List String} {own : Origin} (tidy : d.Tidy)
    (h : descend? made act path own d = some d') : d'.Tidy := by
  induction path generalizing own d d' with
  | nil => exact acts own d d' tidy h
  | cons key rest ih =>
      rw [Draft.descend?] at h
      refine tidy.change? (fun o e tidy_o made_e => ?_) h
      match o, tidy_o, made_e with
      | none, _, made_e =>
          obtain ⟨inner, below, rfl⟩ := Option.map_eq_some_iff.mp made_e
          exact Entry.tidy_table_iff.mpr (ih tidy_nil below)
      | some (.value _), _, made_e => cases made_e
      | some (.tables closed last), tidy_o, made_e =>
          obtain ⟨last', below, rfl⟩ := Option.map_eq_some_iff.mp made_e
          have tables := Entry.tidy_tables_iff.mp (tidy_o _ rfl)
          obtain ⟨open_one, others⟩ := List.forall_mem_cons.mp tables
          exact Entry.tidy_tables_iff.mpr
            (List.forall_mem_cons.mpr ⟨ih open_one below, others⟩)
      | some (.table own' members), tidy_o, made_e =>
          dsimp only at made_e
          split at made_e
          · cases made_e
          · obtain ⟨inner, below, rfl⟩ := Option.map_eq_some_iff.mp made_e
            have table := Entry.tidy_table_iff.mp (tidy_o _ rfl)
            exact Entry.tidy_table_iff.mpr (ih table below)

theorem Tidy.assign? (tidy : d.Tidy) (value : v.Tidy)
    (h : d.assign? key v = some d') : d'.Tidy := by
  refine tidy.change? (fun o e _ made => ?_) h
  cases o with
  | none => obtain rfl := Option.some.inj made; exact .value value
  | some _ => cases made

theorem Tidy.assignDotted? {lead : List String} (tidy : d.Tidy)
    (value : v.Tidy) (h : d.assignDotted? lead key v = some d') : d'.Tidy := by
  refine tidy.descend? (fun own d d' tidy h => ?_) h
  split at h
  · cases h
  · exact tidy.assign? value h

theorem Tidy.pair? {opened lead : List String} (tidy : d.Tidy)
    (value : v.Tidy) (h : d.pair? opened lead key v = some d') : d'.Tidy :=
  tidy.descend? (fun _ _ _ tidy h => tidy.assignDotted? value h) h

theorem Tidy.open? {lead : List String} (tidy : d.Tidy)
    (h : d.open? lead key = some d') : d'.Tidy := by
  refine tidy.descend? (fun _ d d' tidy h => ?_) h
  refine tidy.change? (fun o e tidy_o made => ?_) h
  match o, tidy_o, made with
  | none, _, made =>
      obtain rfl := Option.some.inj made
      exact Entry.tidy_table_iff.mpr tidy_nil
  | some (.table .implied members), tidy_o, made =>
      obtain rfl := Option.some.inj made
      exact Entry.tidy_table_iff.mpr (Entry.tidy_table_iff.mp (tidy_o _ rfl))

theorem Tidy.openAnother? {lead : List String} (tidy : d.Tidy)
    (h : d.openAnother? lead key = some d') : d'.Tidy := by
  refine tidy.descend? (fun _ d d' tidy h => ?_) h
  refine tidy.change? (fun o e tidy_o made => ?_) h
  match o, tidy_o, made with
  | none, _, made =>
      obtain rfl := Option.some.inj made
      exact Entry.tidy_tables_iff.mpr (by simp [tidy_nil])
  | some (.tables closed last), tidy_o, made =>
      obtain rfl := Option.some.inj made
      have tables := Entry.tidy_tables_iff.mp (tidy_o _ rfl)
      obtain ⟨open_one, others⟩ := List.forall_mem_cons.mp tables
      refine Entry.tidy_tables_iff.mpr (List.forall_mem_cons.mpr
        ⟨tidy_nil, fun d inside => ?_⟩)
      obtain old | new := List.mem_append.mp inside
      · exact others d old
      · exact List.mem_singleton.mp new ▸ open_one

/-- Statement by statement a draft stays tidy, if every statement keeps it
so. -/
theorem Tidy.foldlM {σ : Type} {f : Draft → σ → Option Draft} {xs : List σ}
    (tidy : d.Tidy)
    (steps : ∀ x ∈ xs, ∀ d d' : Draft, d.Tidy → f d x = some d' → d'.Tidy)
    (h : xs.foldlM f d = some d') : d'.Tidy := by
  induction xs generalizing d with
  | nil => exact Option.some.inj h ▸ tidy
  | cons x rest ih =>
      obtain ⟨first, others⟩ := List.forall_mem_cons.mp steps
      rw [List.foldlM_cons] at h
      obtain ⟨d₁, taken, h⟩ := Option.bind_eq_some_iff.mp h
      exact ih (first d d₁ tidy taken) others h

theorem tidy_ofPairs? {pairs : List ((List String × String) × Value)}
    (values : ∀ p ∈ pairs, p.2.Tidy) (h : ofPairs? pairs = some d) :
    d.Tidy :=
  tidy_nil.foldlM (fun p inside _ _ tidy taken =>
    tidy.assignDotted? (values p inside) taken) h

-- ======================================================== the draft's end

theorem toMembers_eq_map (d : Draft) :
    toMembers d = d.map fun m => (m.1, m.2.toValue) := by
  induction d with
  | nil => rfl
  | cons m rest ih => rw [toMembers, ih]; rfl

theorem toTables_eq_map (ds : List Draft) :
    toTables ds = ds.map fun d => .table (toMembers d) := by
  induction ds with
  | nil => rfl
  | cons d rest ih => rw [toTables, ih]; rfl

theorem keyed_toMembers (distinct : (d.map Prod.fst).Nodup)
    (each : ∀ m ∈ d, m.2.toValue.Tidy) : Keyed Value.Tidy (toMembers d) := by
  rw [toMembers_eq_map]
  refine ⟨?_, fun m inside => ?_⟩
  · rw [List.map_map]
    exact distinct
  · obtain ⟨m', inside', rfl⟩ := List.mem_map.mp inside
    exact each m' inside'

end Draft

/-- What a tidy entry comes to is tidy. -/
theorem Entry.Tidy.toValue {e : Entry} (tidy : e.Tidy) :
    e.toValue.Tidy := by
  induction tidy with
  | value tidy => exact tidy
  | table distinct _ ih =>
      exact Value.tidy_table_iff.mpr (Draft.keyed_toMembers distinct ih)
  | @tables closed last distinct _ ih =>
      have tables : ∀ d ∈ last :: closed, (Value.table (Draft.toMembers d)).Tidy :=
        fun d inside => Value.tidy_table_iff.mpr
          (Draft.keyed_toMembers (distinct d inside) (ih d inside))
      refine .array fun v inside => ?_
      rw [Draft.toTables_eq_map] at inside
      obtain old | new := List.mem_append.mp inside
      · obtain ⟨d, one, rfl⟩ := List.mem_map.mp old
        exact tables d (List.mem_cons_of_mem _ one)
      · rw [List.mem_singleton.mp new]
        exact tables last List.mem_cons_self

theorem Draft.Tidy.toMembers (tidy : d.Tidy) :
    Keyed Value.Tidy (Draft.toMembers d) :=
  Draft.keyed_toMembers tidy.distinct fun m inside =>
    (tidy.each m inside).toValue

-- ============================================================ the reader

/-- What is read within some fuel is tidy. -/
structure ReadsTidy (fuel : Nat) : Prop where
  value : ∀ {depth chars v rest},
    value? fuel depth chars = some (v, rest) → v.Tidy
  items : ∀ {depth chars items rest},
    items? fuel depth chars = some (items, rest) → ∀ v ∈ items, v.Tidy
  pairs : ∀ {depth chars pairs rest},
    pairs? fuel depth chars = some (pairs, rest) → ∀ p ∈ pairs, p.2.Tidy

theorem ReadsTidy.value_succ {fuel depth : Nat} {chars rest : List Char}
    (ih : ReadsTidy fuel) (h : value? (fuel + 1) depth chars = some (v, rest)) :
    v.Tidy := by
  rw [value?.eq_def] at h
  dsimp only at h
  split at h
  · cases h
  · cases h
    exact .boolean true
  · cases h
    exact .boolean false
  · -- an array
    split at h
    · cases h
    · obtain ⟨⟨items, rest'⟩, read, made⟩ := Option.map_eq_some_iff.mp h
      cases made
      exact .array (ih.items read)
  · -- an inline table
    split at h
    · cases h
    · split at h
      · cases h
        exact .table List.nodup_nil (by simp)
      · split at h
        · cases h
        · next read =>
          obtain ⟨d, taken, made⟩ := Option.map_eq_some_iff.mp h
          cases made
          have tidy := Draft.tidy_ofPairs? (ih.pairs read) taken
          exact Value.tidy_table_iff.mpr tidy.toMembers
  · split at h
    · obtain ⟨⟨text, rest'⟩, read, made⟩ := Option.map_eq_some_iff.mp h
      cases made
      exact .text text
    · obtain ⟨rest', read, made⟩ := Option.map_eq_some_iff.mp h
      cases made
      exact .quantity

theorem ReadsTidy.items_succ {fuel depth : Nat} {chars rest : List Char}
    {items : List Value} (ih : ReadsTidy fuel)
    (h : items? (fuel + 1) depth chars = some (items, rest)) :
    ∀ v ∈ items, v.Tidy := by
  rw [items?.eq_def] at h
  dsimp only at h
  split at h
  · cases h
    simp
  · split at h
    · cases h
    · next item _ read =>
      have first : item.Tidy := ih.value read
      split at h
      · obtain ⟨⟨others, rest'⟩, more, made⟩ := Option.map_eq_some_iff.mp h
        cases made
        exact List.forall_mem_cons.mpr ⟨first, ih.items more⟩
      · cases h
        exact List.forall_mem_cons.mpr ⟨first, by simp⟩
      · cases h

theorem ReadsTidy.pairs_succ {fuel depth : Nat} {chars rest : List Char}
    {pairs : List ((List String × String) × Value)} (ih : ReadsTidy fuel)
    (h : pairs? (fuel + 1) depth chars = some (pairs, rest)) :
    ∀ p ∈ pairs, p.2.Tidy := by
  rw [pairs?.eq_def] at h
  dsimp only at h
  split at h
  · cases h
  · split at h
    · split at h
      · cases h
      · next v _ read =>
        have first : v.Tidy := ih.value read
        split at h
        · obtain ⟨⟨others, rest'⟩, more, made⟩ := Option.map_eq_some_iff.mp h
          cases made
          exact List.forall_mem_cons.mpr ⟨first, ih.pairs more⟩
        · cases h
          exact List.forall_mem_cons.mpr ⟨first, by simp⟩
        · cases h
    · cases h

theorem readsTidy : ∀ fuel, ReadsTidy fuel
  | 0 => ⟨by simp [value?], by simp [items?], by simp [pairs?]⟩
  | fuel + 1 =>
      have ih := readsTidy fuel
      ⟨ih.value_succ, ih.items_succ, ih.pairs_succ⟩

namespace Reader

/-- A statement keeps the draft tidy. -/
theorem tidy_statement? {r r' : Reader} {chars rest : List Char}
    (tidy : r.draft.Tidy) (h : r.statement? chars = some (r', rest)) :
    r'.draft.Tidy := by
  unfold statement? at h
  split at h
  · obtain ⟨⟨⟨lead, key⟩, rest⟩, -, h⟩ := Option.bind_eq_some_iff.mp h
    dsimp only at h
    split at h
    · obtain ⟨d, opened, h⟩ := Option.bind_eq_some_iff.mp h
      cases h
      exact tidy.openAnother? opened
    · cases h
  · obtain ⟨⟨⟨lead, key⟩, rest⟩, -, h⟩ := Option.bind_eq_some_iff.mp h
    dsimp only at h
    split at h
    · obtain ⟨d, opened, h⟩ := Option.bind_eq_some_iff.mp h
      cases h
      exact tidy.open? opened
    · cases h
  · obtain ⟨⟨⟨lead, key⟩, rest⟩, -, h⟩ := Option.bind_eq_some_iff.mp h
    dsimp only at h
    split at h
    · obtain ⟨⟨v, rest⟩, read, h⟩ := Option.bind_eq_some_iff.mp h
      obtain ⟨d, paired, h⟩ := Option.bind_eq_some_iff.mp h
      cases h
      exact tidy.pair? ((readsTidy _).value read) paired
    · cases h

theorem tidy_lines? {fuel : Nat} {r r' : Reader} {chars : List Char}
    (tidy : r.draft.Tidy) (h : lines? fuel r chars = some r') :
    r'.draft.Tidy := by
  induction fuel generalizing r chars with
  | zero => cases h
  | succ fuel ih =>
      rw [lines?] at h
      split at h
      · cases h
        exact tidy
      · split at h
        · exact ih tidy h
        · split at h
          · cases h
          · next stated =>
            split at h
            · exact ih (tidy_statement? tidy stated) h
            · cases h

end Reader

/-- In a document that is read each key stands once, and in every table in
it. -/
theorem keyed_document? {text : String} {document : Members}
    (h : document? text = some document) : Keyed Value.Tidy document := by
  obtain ⟨r, read, rfl⟩ := Option.map_eq_some_iff.mp h
  exact (Reader.tidy_lines? Draft.tidy_nil read).toMembers

-- ============================================================== look-ups

variable {good : Value → Prop} {members : Members}

theorem Members.find?_eq_none_iff :
    members.find? key = none ↔ ∀ m ∈ members, m.1 ≠ key := by
  unfold find?
  rw [List.lookup_eq_none_iff]
  simp only [bne_iff_ne, ne_comm]

theorem Members.mem_of_find? (found : members.find? key = some v) :
    (key, v) ∈ members := by
  obtain ⟨before, behind, rfl, -⟩ := List.lookup_eq_some_iff.mp found
  exact List.mem_append_right _ List.mem_cons_self

/-- A key stands with one value. -/
theorem Keyed.value_eq (keyed : Keyed good members) {w : Value}
    (here : (key, v) ∈ members) (there : (key, w) ∈ members) : v = w :=
  (Prod.mk.inj
    (List.inj_on_of_nodup_map keyed.distinct here there rfl)).2

/-- What is found under a key is what the key stands with. -/
theorem Keyed.find?_eq_some_iff (keyed : Keyed good members) :
    members.find? key = some v ↔ (key, v) ∈ members := by
  refine ⟨Members.mem_of_find?, fun there => ?_⟩
  cases found : members.find? key with
  | none => exact absurd rfl (Members.find?_eq_none_iff.mp found _ there)
  | some w => rw [keyed.value_eq there (Members.mem_of_find? found)]

end PluginRpc.Toml
