/-
Who holds which module.

An estate is what there is at one time: the counts of custody, the
loader's handles, and every plugin, factory and client that lives, copies
counted, whether it is in the loader's list or with a caller. `Deal` lists
what can be done with it, and `Kept` is what all of that keeps: that each
count is what it ought to be.
-/
import PluginRpc.Proofs.Plugin.Kin
import PluginRpc.Proofs.Plugin.Tally

namespace PluginRpc

-- ============================================================ all modules

namespace Holding

/-- What is of one module. -/
def ofModule (id : ModuleId) (living : List Holding) : List Holding :=
  living.filter fun x => x.moduleId == id

variable {id : ModuleId} {living living' : List Holding} {x : Holding}

theorem mem_ofModule :
    x ∈ ofModule id living ↔ x ∈ living ∧ x.moduleId = id := by
  rw [ofModule, List.mem_filter, beq_iff_eq]

theorem ofModule_self (all : ∀ x ∈ living, x.moduleId = id) :
    ofModule id living = living :=
  List.filter_eq_self.mpr fun x hx => beq_iff_eq.mpr (all x hx)

theorem ofModule_none (others : ∀ x ∈ living, x.moduleId ≠ id) :
    ofModule id living = [] :=
  List.filter_eq_nil_iff.mpr fun x hx same => others x hx (beq_iff_eq.mp same)

theorem ofModule_append :
    ofModule id (living ++ living')
      = ofModule id living ++ ofModule id living' :=
  List.filter_append ..

theorem ofModule_cons_self :
    ofModule x.moduleId (x :: living) = x :: ofModule x.moduleId living :=
  List.filter_cons_of_pos (p := fun y : Holding => y.moduleId == x.moduleId)
    (beq_self_eq_true _)

theorem ofModule_cons_of_ne (other : id ≠ x.moduleId) :
    ofModule id (x :: living) = ofModule id living :=
  List.filter_cons_of_neg fun same => other (beq_iff_eq.mp same).symm

end Holding

open Holding

/-- What the counts of a module ought to be when these are all handles and
all that lives. -/
def Shares.due (handles : List ModuleId) (living : List Holding)
    (id : ModuleId) : Shares :=
  tally (handles.count id) (ofModule id living)

open Shares

theorem Custody.getElem?_change (c : Custody) (id i : ModuleId)
    (f : Shares → Shares) :
    (c.change id f).modules[i]?
      = if id = i then c.modules[i]?.map f else c.modules[i]? := by
  rw [change, List.getElem?_modify]
  by_cases same : id = i
  · simp only [if_pos same]
    rfl
  · simp only [if_neg same]
    exact Option.map_id' ..

theorem Custody.length_change (c : Custody) (id : ModuleId)
    (f : Shares → Shares) :
    (c.change id f).modules.length = c.modules.length :=
  List.length_modify ..

-- ============================================================= the estate

/-- The counts of custody, the loader's handles, and all that lives. -/
structure Estate where
  custody : Custody
  handles : List ModuleId
  living : List Holding

namespace Estate

variable {e e' : Estate} {id : ModuleId}

/-- How many modules were opened; the number of the next one. -/
def opened (e : Estate) : Nat := e.custody.modules.length

/-- What can be done with an estate. -/
inductive Deal (e : Estate) : Estate → Prop
  | reorder {living : List Holding} (perm : e.living.Perm living) :
      Deal e ⟨e.custody, e.handles, living⟩
  /-- A module is opened, and nothing else comes of it. -/
  | handle :
      Deal e ⟨⟨e.custody.modules ++ [⟨1, 0, 0⟩]⟩, e.handles ++ [e.opened],
        e.living⟩
  | plugin (p : LoadedPlugin) (fresh : p.moduleId = e.opened)
      (own : ∀ f, p.factory = some f → f.moduleId = p.moduleId) :
      Deal e
        ⟨⟨e.custody.modules
            ++ [if p.factory.isSome then ⟨3, 1, 1⟩ else ⟨2, 1, 0⟩]⟩,
          e.handles ++ [e.opened], .plugin p :: e.living⟩
  | copyPlugin {p : LoadedPlugin} (there : .plugin p ∈ e.living) :
      Deal e ⟨e.custody.change p.moduleId .copyPlugin, e.handles,
        .plugin p :: e.living⟩
  | copyFactory {x : Holding} {f : ClientFactory} (there : x ∈ e.living)
      (made : x.factory? = some f) :
      Deal e ⟨e.custody.change f.moduleId .copyFactory, e.handles,
        .factory f :: e.living⟩
  | client {x : Holding} {f : ClientFactory} {c : PluginClient}
      (there : x ∈ e.living) (made : x.factory? = some f)
      (makes : f.Makes c) :
      Deal e ⟨e.custody.change c.moduleId .hold, e.handles,
        .client c :: e.living⟩
  | drop {x : Holding} {rest : List Holding} (first : e.living = x :: rest) :
      Deal e ⟨e.custody.change x.moduleId x.drop, e.handles, rest⟩
  | release {id : ModuleId} {rest : List ModuleId}
      (first : e.handles = id :: rest) :
      Deal e ⟨e.custody.change id .release, rest, e.living⟩

/-- What is kept whatever is done. -/
structure Kept (e : Estate) : Prop where
  counts : ∀ id s, e.custody.modules[id]? = some s →
    s = due e.handles e.living id
  handles_opened : ∀ id ∈ e.handles, id < e.opened
  living_opened : ∀ x ∈ e.living, x.moduleId < e.opened
  distinct : e.handles.Nodup
  kin : Kin e.living

theorem kept_empty : Kept ⟨.empty, [], []⟩ where
  counts id s there := absurd there (by simp [Custody.empty])
  handles_opened id h := absurd h List.not_mem_nil
  living_opened x h := absurd h List.not_mem_nil
  distinct := List.nodup_nil
  kin := Kin.empty

theorem opened_change (c : Custody) (f : Shares → Shares)
    (handles : List ModuleId) (living : List Holding) :
    opened ⟨c.change id f, handles, living⟩ = c.modules.length :=
  Custody.length_change c id f

theorem opened_concat (modules : List Shares) (s : Shares)
    (handles : List ModuleId) (living : List Holding) :
    opened ⟨⟨modules ++ [s]⟩, handles, living⟩ = modules.length + 1 :=
  List.length_append

/-- One module's counts change as its handles and holdings do. -/
theorem Kept.counts_change (kept : e.Kept) {f : Shares → Shares}
    {handles : List ModuleId} {living : List Holding}
    (here : f (due e.handles e.living id) = due handles living id)
    (others : ∀ i, i ≠ id →
      due handles living i = due e.handles e.living i) :
    ∀ i s, (e.custody.change id f).modules[i]? = some s →
      s = due handles living i := by
  intro i s there
  rw [Custody.getElem?_change] at there
  by_cases same : id = i
  · subst same
    rw [if_pos rfl, Option.map_eq_some_iff] at there
    obtain ⟨s', there, rfl⟩ := there
    rw [kept.counts id s' there, here]
  · rw [if_neg same] at there
    rw [kept.counts i s there, others i (Ne.symm same)]

-- -------------------------------------------------------- one module more

/-- Of a module that is opened now nothing was there. -/
theorem Kept.due_new (kept : e.Kept) {fresh : List Holding}
    (of_new : ∀ x ∈ fresh, x.moduleId = e.opened) :
    due (e.handles ++ [e.opened]) (fresh ++ e.living) e.opened
      = tally 1 fresh := by
  have no_handle : e.handles.count e.opened = 0 :=
    List.count_eq_zero.mpr fun h =>
      Nat.lt_irrefl _ (kept.handles_opened _ h)
  have nothing : ofModule e.opened e.living = [] :=
    ofModule_none fun x hx => Nat.ne_of_lt (kept.living_opened x hx)
  rw [due, List.count_append, no_handle, List.count_singleton_self,
    ofModule_append, ofModule_self of_new, nothing, List.append_nil]

theorem due_old {fresh : List Holding}
    (of_new : ∀ x ∈ fresh, x.moduleId = e.opened) (old : id < e.opened) :
    due (e.handles ++ [e.opened]) (fresh ++ e.living) id
      = due e.handles e.living id := by
  have other : e.opened ≠ id := Nat.ne_of_gt old
  have no_more : [e.opened].count id = 0 :=
    List.count_eq_zero.mpr fun h => other (List.mem_singleton.mp h).symm
  have nothing : ofModule id fresh = [] :=
    ofModule_none fun x hx same => other ((of_new x hx).symm.trans same)
  rw [due, due, List.count_append, no_more, ofModule_append, nothing]
  rfl

theorem Kept.enter (kept : e.Kept) {fresh : List Holding}
    (of_new : ∀ x ∈ fresh, x.moduleId = e.opened)
    (kin : Kin (fresh ++ e.living)) :
    Kept ⟨⟨e.custody.modules ++ [tally 1 fresh]⟩,
      e.handles ++ [e.opened], fresh ++ e.living⟩ where
  counts id s there := by
    by_cases old : id < e.opened
    · rw [List.getElem?_append_left old] at there
      rw [kept.counts id s there, due_old of_new old]
    · have new : id = e.opened := by
        have bound : id < (e.custody.modules ++ [tally 1 fresh]).length :=
          (List.getElem?_eq_some_iff.mp there).1
        rw [List.length_append, List.length_singleton] at bound
        exact Nat.le_antisymm (Nat.le_of_lt_succ bound) (Nat.le_of_not_lt old)
      subst new
      rw [opened, List.getElem?_concat_length, Option.some.injEq] at there
      rw [← there]
      exact (kept.due_new of_new).symm
  handles_opened id h := by
    rw [opened_concat]
    rcases List.mem_append.mp h with h | h
    · exact Nat.lt_succ_of_lt (kept.handles_opened id h)
    · rw [List.mem_singleton.mp h]
      exact Nat.lt_succ_self _
  living_opened x h := by
    rw [opened_concat]
    rcases List.mem_append.mp h with h | h
    · rw [of_new x h]
      exact Nat.lt_succ_self _
    · exact Nat.lt_succ_of_lt (kept.living_opened x h)
  distinct := by
    rw [List.nodup_append]
    refine ⟨kept.distinct, List.pairwise_singleton .., ?_⟩
    rintro a ha b hb rfl
    rw [List.mem_singleton.mp hb] at ha
    exact Nat.lt_irrefl _ (kept.handles_opened _ ha)
  kin := kin

-- ------------------------------------------------------------- what comes

theorem Kept.gain (kept : e.Kept) {x : Holding} {f : Shares → Shares}
    (of_opened : x.moduleId < e.opened) (kin : Kin (x :: e.living))
    (counts : ∀ n, f (tally n (ofModule x.moduleId e.living))
      = tally n (x :: ofModule x.moduleId e.living)) :
    Kept ⟨e.custody.change x.moduleId f, e.handles, x :: e.living⟩ where
  counts := by
    refine kept.counts_change ?_ fun i other => ?_
    · rw [due, due, counts, ofModule_cons_self]
    · rw [due, due, ofModule_cons_of_ne other]
  handles_opened id h := by
    rw [opened_change]
    exact kept.handles_opened id h
  living_opened y h := by
    rw [opened_change]
    cases h with
    | head => exact of_opened
    | tail _ h => exact kept.living_opened y h
  distinct := kept.distinct
  kin := kin

-- -------------------------------------------------------------- what goes

theorem Kept.lose (kept : e.Kept) {x : Holding} {rest : List Holding}
    (first : e.living = x :: rest) :
    Kept ⟨e.custody.change x.moduleId x.drop, e.handles, rest⟩ where
  counts := by
    refine kept.counts_change ?_ fun i other => ?_
    · rw [first, due, due, ofModule_cons_self]
      cases x with
      | plugin p =>
          refine dropPlugin_tally fun q hq => ?_
          obtain ⟨hq, same⟩ := mem_ofModule.mp hq
          exact kept.kin.stem p (first ▸ .head _) (.plugin q)
            (first ▸ .tail _ hq) same
      | factory f => exact dropFactory_tally
      | client c => exact release_tally_client
    · rw [first, due, due, ofModule_cons_of_ne other]
  handles_opened id h := by
    rw [opened_change]
    exact kept.handles_opened id h
  living_opened y h := by
    rw [opened_change]
    exact kept.living_opened y (first ▸ .tail _ h)
  distinct := kept.distinct
  kin := kept.kin.mono fun y h => first ▸ .tail _ h

theorem Kept.release (kept : e.Kept) {rest : List ModuleId}
    (first : e.handles = id :: rest) :
    Kept ⟨e.custody.change id .release, rest, e.living⟩ where
  counts := by
    refine kept.counts_change ?_ fun i other => ?_
    · rw [first, due, List.count_cons_self, release_tally_handle]
      rfl
    · rw [first, due, due, List.count_cons_of_ne (Ne.symm other)]
  handles_opened i h := by
    rw [opened_change]
    exact kept.handles_opened i (first ▸ .tail _ h)
  living_opened x h := by
    rw [opened_change]
    exact kept.living_opened x h
  distinct := by
    have distinct := kept.distinct
    rw [first] at distinct
    exact (List.nodup_cons.mp distinct).2
  kin := kept.kin

-- --------------------------------------------------------------- any deal

theorem Kept.deal (kept : e.Kept) (h : Deal e e') : e'.Kept := by
  cases h with
  | reorder perm =>
      exact
        { counts := fun id s there =>
            (kept.counts id s there).trans (tally_perm (perm.filter _))
          handles_opened := kept.handles_opened
          living_opened := fun x h => kept.living_opened x (perm.mem_iff.mpr h)
          distinct := kept.distinct
          kin := kept.kin.mono fun x h => perm.mem_iff.mpr h }
  | handle =>
      have of_new : ∀ x ∈ ([] : List Holding), x.moduleId = e.opened := nofun
      exact kept.enter of_new kept.kin
  | plugin p fresh own =>
      have of_new : ∀ x ∈ [Holding.plugin p], x.moduleId = e.opened := by
        intro x h
        obtain rfl := List.mem_singleton.mp h
        exact fresh
      -- the number of its module is new, so nothing that lives is of it
      have unrelated : ∀ x ∈ e.living, x.moduleId ≠ p.moduleId := by
        intro x h same
        exact Nat.ne_of_lt (kept.living_opened x h) (same.trans fresh)
      rw [← tally_new]
      exact kept.enter of_new (kept.kin.plugin unrelated own)
  | @copyPlugin p there =>
      have beside : .plugin p ∈ ofModule p.moduleId e.living :=
        mem_ofModule.mpr ⟨there, rfl⟩
      exact kept.gain (x := .plugin p) (kept.living_opened _ there)
        (kept.kin.copyPlugin there) fun n => (tally_plugin beside).symm
  | @copyFactory x f there made =>
      have of_x : f.moduleId = x.moduleId := kept.kin.own x there f made
      have beside : ∃ y ∈ ofModule f.moduleId e.living,
          y.factory?.isSome = true :=
        ⟨x, mem_ofModule.mpr ⟨there, of_x.symm⟩,
          Option.isSome_iff_exists.mpr ⟨f, made⟩⟩
      have of_opened := kept.living_opened x there
      rw [← of_x] at of_opened
      exact kept.gain (x := .factory f) of_opened
        (kept.kin.copyFactory there made) fun n => (tally_factory beside).symm
  | @client x f c there made makes =>
      have of_x : c.moduleId = x.moduleId :=
        makes.moduleId_eq.trans (kept.kin.own x there f made)
      have of_opened := kept.living_opened x there
      rw [← of_x] at of_opened
      exact kept.gain (x := .client c) of_opened
        (kept.kin.client there made makes) fun n => tally_client.symm
  | drop first => exact kept.lose first
  | release first => exact kept.release first

/-- Any number of deals, one after another. -/
inductive Deals (e : Estate) : Estate → Prop
  | none : Deals e e
  | more {e₁ e₂ : Estate} (before : Deals e e₁) (last : Deal e₁ e₂) :
      Deals e e₂

theorem Deal.single (h : Deal e e') : Deals e e' := .more .none h

theorem Deals.trans {e'' : Estate} (h : Deals e e') (h' : Deals e' e'') :
    Deals e e'' := by
  induction h' with
  | none => exact h
  | more _ last ih => exact .more ih last

theorem Kept.deals (kept : e.Kept) (h : Deals e e') : e'.Kept := by
  induction h with
  | none => exact kept
  | more _ last ih => exact ih.deal last

-- =========================================================== what is open

/-- There is a handle of a module, or something of it lives. -/
def Mentions (e : Estate) (id : ModuleId) : Prop :=
  id ∈ e.handles ∨ ∃ x ∈ e.living, x.moduleId = id

theorem Kept.mentions_opened (kept : e.Kept) (h : e.Mentions id) :
    id < e.opened := by
  rcases h with h | ⟨x, h, rfl⟩
  · exact kept.handles_opened id h
  · exact kept.living_opened x h

/-- A module is open exactly as long as there is anything of it. -/
theorem Kept.holders_pos_iff (kept : e.Kept) (id : ModuleId) :
    0 < e.custody.holders id ↔ e.Mentions id := by
  unfold Custody.holders
  cases there : e.custody.modules[id]? with
  | none =>
      have beyond : ¬ id < e.opened :=
        Nat.not_lt.mpr (List.getElem?_eq_none_iff.mp there)
      exact ⟨fun h => absurd h (Nat.lt_irrefl 0),
        fun h => absurd (kept.mentions_opened h) beyond⟩
  | some s =>
      rw [kept.counts id s there]
      show 0 < (due e.handles e.living id).holders ↔ _
      rw [due, holders_tally_pos, List.count_pos_iff, Mentions]
      refine or_congr Iff.rfl ⟨fun some_left => ?_, ?_⟩
      · obtain ⟨x, h⟩ := List.exists_mem_of_ne_nil _ some_left
        exact ⟨x, mem_ofModule.mp h⟩
      · rintro ⟨x, h⟩
        exact List.ne_nil_of_mem (mem_ofModule.mpr h)

theorem Deal.opened_le (h : Deal e e') : e.opened ≤ e'.opened := by
  cases h with
  | reorder => exact Nat.le_refl _
  | handle | plugin =>
      rw [opened_concat]
      exact Nat.le_succ _
  | copyPlugin | copyFactory | client | drop | release =>
      exact Nat.le_of_eq (opened_change ..).symm

theorem Mentions.of_cons {c c' : Custody} {handles : List ModuleId}
    {x : Holding} {living : List Holding}
    (h : Mentions ⟨c, handles, x :: living⟩ id) :
    x.moduleId = id ∨ Mentions ⟨c', handles, living⟩ id := by
  rcases h with h | ⟨y, h, of_y⟩
  · exact .inr (.inl h)
  · rcases List.mem_cons.mp h with rfl | h
    · exact .inl of_y
    · exact .inr (.inr ⟨y, h, of_y⟩)

theorem Mentions.of_concat {c c' : Custody} {handles : List ModuleId}
    {new : ModuleId} {living : List Holding}
    (h : Mentions ⟨c, handles ++ [new], living⟩ id) :
    id = new ∨ Mentions ⟨c', handles, living⟩ id := by
  rcases h with h | h
  · rcases List.mem_append.mp h with h | h
    · exact .inr (.inl h)
    · exact .inl (List.mem_singleton.mp h)
  · exact .inr (.inr h)

/-- Where nothing of a module is left nothing of it comes back. -/
theorem Deal.mentions (h : Deal e e') (kept : e.Kept) (old : id < e.opened)
    (later : e'.Mentions id) : e.Mentions id := by
  have not_new : id ≠ e.opened := Nat.ne_of_lt old
  cases h with
  | reorder perm =>
      rcases later with later | ⟨x, later, of_x⟩
      · exact .inl later
      · exact .inr ⟨x, perm.mem_iff.mpr later, of_x⟩
  | handle =>
      rcases later.of_concat with new | later
      · exact absurd new not_new
      · exact later
  | plugin p fresh own =>
      rcases later.of_cons with of_p | later
      · exact absurd (of_p.symm.trans fresh) not_new
      · rcases later.of_concat (c := e.custody) with new | later
        · exact absurd new not_new
        · exact later
  | copyPlugin there =>
      rcases later.of_cons with of_p | later
      · exact .inr ⟨_, there, of_p⟩
      · exact later
  | copyFactory there made =>
      rcases later.of_cons with of_f | later
      · exact .inr ⟨_, there, (kept.kin.own _ there _ made).symm.trans of_f⟩
      · exact later
  | client there made makes =>
      rcases later.of_cons with of_c | later
      · exact .inr ⟨_, there, (kept.kin.own _ there _ made).symm.trans
          (makes.moduleId_eq.symm.trans of_c)⟩
      · exact later
  | drop first =>
      rcases later with later | ⟨x, later, of_x⟩
      · exact .inl later
      · exact .inr ⟨x, first ▸ .tail _ later, of_x⟩
  | release first =>
      rcases later with later | later
      · exact .inl (first ▸ .tail _ later)
      · exact .inr later

theorem Deals.opened_le (h : Deals e e') : e.opened ≤ e'.opened := by
  induction h with
  | none => exact Nat.le_refl _
  | more _ last ih => exact Nat.le_trans ih last.opened_le

theorem Deals.mentions (h : Deals e e') (kept : e.Kept)
    (old : id < e.opened) (later : e'.Mentions id) : e.Mentions id := by
  induction h with
  | none => exact later
  | more before last ih =>
      have old' := Nat.lt_of_lt_of_le old before.opened_le
      exact ih (last.mentions (kept.deals before) old' later)

/-- The holders of a module whose plugin lives: the plugin, the handle if
there is one, the factory if there is one, and its clients. -/
theorem Kept.holders_of_plugin (kept : e.Kept) {p : LoadedPlugin}
    (there : .plugin p ∈ e.living) :
    e.custody.holders p.moduleId
      = 1 + (if p.moduleId ∈ e.handles then 1 else 0)
        + (if p.factory.isSome then 1 else 0)
        + e.living.countP fun x => x.isClient && x.moduleId == p.moduleId := by
  have opened : p.moduleId < e.custody.modules.length :=
    kept.living_opened _ there
  have at_place : e.custody.modules[p.moduleId]?
      = some (due e.handles e.living p.moduleId) := by
    rw [List.getElem?_eq_getElem opened]
    exact congrArg some (kept.counts _ _ (List.getElem?_eq_getElem opened))
  have among : .plugin p ∈ ofModule p.moduleId e.living :=
    mem_ofModule.mpr ⟨there, rfl⟩
  have kin : ∀ x ∈ ofModule p.moduleId e.living,
      x.factory?.isSome = true → p.factory.isSome = true := by
    intro x hx made
    obtain ⟨hx, same⟩ := mem_ofModule.mp hx
    obtain ⟨f, made⟩ := Option.isSome_iff_exists.mp made
    rw [(kept.kin.stem p there x hx same).factory_eq made]
    rfl
  have handle : e.handles.count p.moduleId
      = if p.moduleId ∈ e.handles then 1 else 0 := kept.distinct.count
  rw [Custody.holders, at_place]
  show (due e.handles e.living p.moduleId).holders = _
  rw [due, holders_tally_of_plugin among kin, handle, ofModule,
    List.countP_filter]
  cases p.factory.isSome <;> rfl

end Estate

end PluginRpc
