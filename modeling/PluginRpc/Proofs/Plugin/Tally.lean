/-
What the counts of custody ought to be.

The counts of a module are changed copy by copy. `Shares.tally` works out
from nothing but what there is of a module what they ought to be: a holder
for each handle, one for the plugin and one for the factory however many
copies there are, and one for each client. Each change of the counts is
then matched by the holding that comes or goes.

Whether the last copy of a plugin takes a share of the factory with it is
read off the copy that is given up, so it matters that the copies of a
plugin are the same.
-/
import PluginRpc.Plugin.Host

namespace PluginRpc

-- ================================================== the kinds of holdings

namespace Holding

def isPlugin : Holding → Bool
  | plugin _ => true
  | _ => false

def isFactory : Holding → Bool
  | factory _ => true
  | _ => false

def isClient : Holding → Bool
  | client _ => true
  | _ => false

/-- Whether there is a copy of the factory in a holding that is none. -/
def owns : Holding → Bool
  | plugin p => p.factory.isSome
  | _ => false

end Holding

-- ============================================================= the counts

namespace Shares

/-- The counts of a module that has so many handles, copies of its plugin,
copies of its factory and clients. -/
def ought (handles plugins factories clients : Nat) : Shares :=
  ⟨handles + min plugins 1 + min factories 1 + clients, plugins, factories⟩

variable {n p f c : Nat}

theorem release_handle : (ought (n + 1) p f c).release = ought n p f c := by
  have holders : n + 1 + min p 1 + min f 1 + c - 1
      = n + min p 1 + min f 1 + c := by omega
  exact congrArg (Shares.mk · p f) holders

theorem copyFactory_ought (there : 0 < f) :
    (ought n p f c).copyFactory = ought n p (f + 1) c := by
  have holders : n + min p 1 + min f 1 + c
      = n + min p 1 + min (f + 1) 1 + c := by omega
  exact congrArg (Shares.mk · p (f + 1)) holders

theorem dropFactory_ought :
    (ought n p (f + 1) c).dropFactory = ought n p f c := by
  show (if f = 0 then _ else _) = _
  by_cases last : f = 0
  · subst last
    have holders : n + min p 1 + 1 + c - 1 = n + min p 1 + 0 + c := by omega
    exact congrArg (Shares.mk · p 0) holders
  · rw [if_neg last]
    have holders : n + min p 1 + min (f + 1) 1 + c
        = n + min p 1 + min f 1 + c := by omega
    exact congrArg (Shares.mk · p f) holders

theorem copyPlugin_ought (there : 0 < p) :
    (ought n p f c).copyPlugin = ought n (p + 1) f c := by
  have holders : n + min p 1 + min f 1 + c
      = n + min (p + 1) 1 + min f 1 + c := by omega
  exact congrArg (Shares.mk · (p + 1) f) holders

theorem dropPlugin_of_more (there : 0 < p) (hasFactory : Bool) :
    (ought n (p + 1) f c).dropPlugin hasFactory = ought n p f c := by
  show (if p = 0 then _ else _) = _
  rw [if_neg (Nat.ne_of_gt there)]
  have holders : n + min (p + 1) 1 + min f 1 + c
      = n + min p 1 + min f 1 + c := by omega
  exact congrArg (Shares.mk · p f) holders

/-- The last copy of a plugin takes its copy of the factory with it. -/
theorem dropPlugin_last (hasFactory : Bool) :
    (ought n 1 (f + hasFactory.toNat) c).dropPlugin hasFactory
      = ought n 0 f c := by
  cases hasFactory with
  | false =>
      have holders : n + 1 + min f 1 + c - 1 = n + 0 + min f 1 + c := by omega
      exact congrArg (Shares.mk · 0 f) holders
  | true =>
      -- the factory first: what is left of the plugin is one more handle
      have factory : (ought (n + 1) 0 (f + 1) c).dropFactory.release
          = ought n 0 f c := by
        rw [dropFactory_ought, release_handle]
      exact factory

-- ============================================================== the tally

/-- What the counts of a module ought to be, with so many handles and
these holdings. -/
def tally (handles : Nat) (group : List Holding) : Shares :=
  ought handles (group.countP Holding.isPlugin)
    (group.countP Holding.isFactory + (group.any Holding.owns).toNat)
    (group.countP Holding.isClient)

variable {group group' : List Holding} {plugin : LoadedPlugin}
  {factory : ClientFactory} {client : PluginClient}

theorem tally_perm (h : group.Perm group') :
    tally n group = tally n group' := by
  simp only [tally, h.countP_eq, h.any_eq]

theorem release_tally_handle :
    (tally (n + 1) group).release = tally n group := release_handle

theorem tally_cons (x : Holding) :
    tally n (x :: group)
      = ought n
          (group.countP Holding.isPlugin + if x.isPlugin then 1 else 0)
          ((group.countP Holding.isFactory + if x.isFactory then 1 else 0)
            + (x.owns || group.any Holding.owns).toNat)
          (group.countP Holding.isClient + if x.isClient then 1 else 0) := by
  rw [tally, List.countP_cons, List.countP_cons, List.countP_cons,
    List.any_cons]

theorem tally_client :
    tally n (.client client :: group) = (tally n group).hold := by
  rw [tally_cons]
  rfl

theorem release_tally_client :
    (tally n (.client client :: group)).release = tally n group := by
  rw [tally_client]
  rfl

theorem tally_factory_eq :
    tally n (.factory factory :: group)
      = ought n (group.countP Holding.isPlugin)
          (group.countP Holding.isFactory
            + (group.any Holding.owns).toNat + 1)
          (group.countP Holding.isClient) := by
  rw [tally_cons, Nat.add_right_comm]
  rfl

theorem tally_factory (there : ∃ x ∈ group, x.factory?.isSome = true) :
    tally n (.factory factory :: group) = (tally n group).copyFactory := by
  have some_left : 0 < group.countP Holding.isFactory
      + (group.any Holding.owns).toNat := by
    obtain ⟨x, hx, made⟩ := there
    cases x with
    | factory g =>
        exact Nat.add_pos_left (List.countP_pos_iff.mpr ⟨_, hx, rfl⟩) _
    | plugin p =>
        have owned : group.any Holding.owns = true :=
          List.any_eq_true.mpr ⟨_, hx, made⟩
        rw [owned]
        exact Nat.succ_pos _
    | client c => cases made
  rw [tally_factory_eq, tally, copyFactory_ought some_left]

theorem dropFactory_tally :
    (tally n (.factory factory :: group)).dropFactory = tally n group := by
  rw [tally_factory_eq, dropFactory_ought, tally]

/-- Beside another copy of it a plugin is one copy more. -/
theorem tally_plugin_eq (there : .plugin plugin ∈ group) :
    tally n (.plugin plugin :: group)
      = ought n (group.countP Holding.isPlugin + 1)
          (group.countP Holding.isFactory + (group.any Holding.owns).toNat)
          (group.countP Holding.isClient) := by
  have owned : (Holding.owns (.plugin plugin) || group.any Holding.owns)
      = group.any Holding.owns := by
    cases owns : Holding.owns (.plugin plugin) with
    | false => exact Bool.false_or _
    | true => exact (List.any_eq_true.mpr ⟨_, there, owns⟩).symm
  rw [tally_cons, owned]
  rfl

theorem countP_isPlugin_pos (there : .plugin plugin ∈ group) :
    0 < group.countP Holding.isPlugin :=
  List.countP_pos_iff.mpr ⟨_, there, rfl⟩

theorem tally_plugin (there : .plugin plugin ∈ group) :
    tally n (.plugin plugin :: group) = (tally n group).copyPlugin := by
  rw [tally_plugin_eq there, tally,
    copyPlugin_ought (countP_isPlugin_pos there)]

theorem dropPlugin_tally (kin : ∀ q, .plugin q ∈ group → q = plugin) :
    (tally n (.plugin plugin :: group)).dropPlugin plugin.factory.isSome
      = tally n group := by
  by_cases there : .plugin plugin ∈ group
  · rw [tally_plugin_eq there, tally,
      dropPlugin_of_more (countP_isPlugin_pos there)]
  · -- the last copy: nothing else in the group is a plugin
    have others : ∀ x ∈ group, x.isPlugin = false ∧ x.owns = false := by
      intro x hx
      cases x with
      | plugin q => exact absurd (kin q hx ▸ hx) there
      | factory _ | client _ => exact ⟨rfl, rfl⟩
    have plugins : group.countP Holding.isPlugin = 0 :=
      List.countP_eq_zero.mpr fun x hx =>
        Bool.eq_false_iff.mp (others x hx).1
    have owned : group.any Holding.owns = false :=
      List.any_eq_false.mpr fun x hx => Bool.eq_false_iff.mp (others x hx).2
    rw [tally_cons, tally, plugins, owned, Bool.or_false]
    show (ought n 1 (group.countP Holding.isFactory
        + plugin.factory.isSome.toNat) _).dropPlugin _ = _
    rw [dropPlugin_last]
    rfl

/-- A plugin of a module that has just been opened. -/
theorem tally_new :
    tally 1 [.plugin plugin]
      = if plugin.factory.isSome then ⟨3, 1, 1⟩ else ⟨2, 1, 0⟩ := by
  rw [tally_cons]
  show ought 1 1 (0 + (plugin.factory.isSome || false).toNat) 0 = _
  cases plugin.factory.isSome <;> rfl

-- --------------------------------------------------------------- readings

/-- A module has a holder if it has a handle or anything of it is left. -/
theorem holders_tally_pos :
    0 < (tally n group).holders ↔ 0 < n ∨ group ≠ [] := by
  show 0 < n + min (group.countP Holding.isPlugin) 1
    + min (group.countP Holding.isFactory
      + (group.any Holding.owns).toNat) 1
    + group.countP Holding.isClient ↔ _
  constructor
  · intro held
    cases group with
    | nil => exact .inl (by simpa using held)
    | cons x rest => exact .inr (List.cons_ne_nil x rest)
  · rintro (handle | some_left)
    · omega
    · obtain ⟨x, rest, rfl⟩ := List.exists_cons_of_ne_nil some_left
      cases x with
      | plugin p =>
          have := countP_isPlugin_pos (List.mem_cons_self (a := .plugin p)
            (l := rest))
          omega
      | factory f =>
          have : 0 < (Holding.factory f :: rest).countP Holding.isFactory :=
            List.countP_pos_iff.mpr ⟨_, List.mem_cons_self, rfl⟩
          omega
      | client c =>
          have : 0 < (Holding.client c :: rest).countP Holding.isClient :=
            List.countP_pos_iff.mpr ⟨_, List.mem_cons_self, rfl⟩
          omega

/-- The holders of a module whose plugin lives. -/
theorem holders_tally_of_plugin (there : .plugin plugin ∈ group)
    (kin : ∀ x ∈ group, x.factory?.isSome = true →
      plugin.factory.isSome = true) :
    (tally n group).holders
      = 1 + n + plugin.factory.isSome.toNat
        + group.countP Holding.isClient := by
  have lives := countP_isPlugin_pos there
  have factories : min (group.countP Holding.isFactory
      + (group.any Holding.owns).toNat) 1 = plugin.factory.isSome.toNat := by
    cases owned : plugin.factory.isSome with
    | true =>
        have any_owned : group.any Holding.owns = true :=
          List.any_eq_true.mpr ⟨_, there, owned⟩
        rw [any_owned]
        exact Nat.min_eq_right (Nat.le_add_left 1 _)
    | false =>
        have none_made : ∀ x ∈ group,
            x.isFactory = false ∧ x.owns = false := by
          intro x hx
          cases x with
          | plugin q =>
              refine ⟨rfl, Bool.eq_false_iff.mpr fun made => ?_⟩
              rw [kin _ hx made] at owned
              cases owned
          | factory f =>
              rw [kin _ hx rfl] at owned
              cases owned
          | client c => exact ⟨rfl, rfl⟩
        rw [List.countP_eq_zero.mpr fun x hx =>
            Bool.eq_false_iff.mp (none_made x hx).1,
          List.any_eq_false.mpr fun x hx =>
            Bool.eq_false_iff.mp (none_made x hx).2]
        rfl
  show n + min (group.countP Holding.isPlugin) 1 + min _ 1 + _ = _
  rw [factories]
  omega

end Shares

end PluginRpc
