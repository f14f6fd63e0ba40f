/-
What a history of registrations leaves behind.

A table is filled by offering it handlers, one after another, under keys
and under names, and nobody stops at a refusal. `plan` lists the
addresses in the order in which they were tried, and the handler of the
attempt `k` is `H k`; so a statement for every `plan` and every `H` is
about every history, with as many handlers as there were attempts.

# Which attempt counts

An attempt succeeds if its address leads to a key, the package has a
function there, and no earlier attempt succeeded for the same key. None
of the three looks at the handlers, which is why `served?` says which
attempt serves a key from the plan alone.
-/
import Mathlib.Data.List.Induction
import PluginRpc.Dispatch.Table
import PluginRpc.Proofs.OrderedMap

namespace PluginRpc

-- =================================================================== keys

/-- The order of keys tells any two of them apart. -/
theorem DispatchKey.order_eq_iff (a b : DispatchKey) :
    a.order b = .eq ↔ a = b := by
  obtain ⟨service, function⟩ := a
  obtain ⟨service', function'⟩ := b
  unfold DispatchKey.order
  rw [Ordering.then_eq_eq, Std.LawfulEqOrd.compare_eq_iff_eq,
    Std.LawfulEqOrd.compare_eq_iff_eq, DispatchKey.mk.injEq]

namespace DispatchTable

/-- The key that an address leads to in a package. -/
def Address.target (package : PackageDecl) : Address → Option DispatchKey
  | .key k => some k
  | .named service function => package.keyNamed? service function

/-- The route that a registration makes for a function. -/
def routeTo (package : PackageDecl) (handler : Handler)
    (place : ServiceDecl × FunctionDecl) : Route :=
  ⟨.of package.name place.1.name place.2.name, place.2, handler⟩

-- ============================================================ one attempt

variable (t : DispatchTable)

/-- The table with one more route. -/
def adding (key : DispatchKey) (r : Route) : DispatchTable :=
  { t with routes := t.routes.insert DispatchKey.order key r }

/-- A new route is the answer to its own key and to no other. -/
theorem route?_adding (key : DispatchKey) (r : Route) (key' : DispatchKey) :
    (t.adding key r).route? key'
      = if key' = key then some r else t.route? key' :=
  OrderedMap.get?_insert DispatchKey.order_eq_iff t.routes key r key'

/-- A registration under a key succeeds where there is a function that
nobody serves, and then it adds the route to this function. -/
theorem route_ok_iff (key : DispatchKey) (handler : Handler)
    (t' : DispatchTable) :
    t.route key handler = .ok t'
      ↔ ∃ place, t.package.resolve? key = some place
          ∧ t.route? key = none
          ∧ t' = t.adding key (routeTo t.package handler place) := by
  unfold route
  cases t.package.resolve? key with
  | none => simp
  | some place =>
      obtain ⟨service, function⟩ := place
      by_cases free : t.route? key = none
      · have unclaimed : t.routes.contains DispatchKey.order key = false := by
          unfold OrderedMap.contains
          rw [show t.routes.get? DispatchKey.order key = none from free]
          rfl
        simp only [unclaimed, free, true_and, Option.some.injEq,
          exists_eq_left', Bool.false_eq_true, if_false, Except.ok.injEq]
        exact eq_comm
      · have shut : t.routes.contains DispatchKey.order key = true :=
          Option.isSome_iff_ne_none.mpr free
        simp [shut, free]

/-- A registration succeeds where its address leads to such a key. -/
theorem register_ok_iff (handler : Handler) (a : Address)
    (t' : DispatchTable) :
    t.register handler a = .ok t'
      ↔ ∃ key, a.target t.package = some key
          ∧ t.route key handler = .ok t' := by
  cases a with
  | key key => simp [register, Address.target]
  | named service function =>
      cases named : t.package.keyNamed? service function with
      | none => simp [register, routeNamed, Address.target, named]
      | some key => simp [register, routeNamed, Address.target, named]

/-- Offers a handler for an address; where it is refused the table stays
as it is. -/
def offer (handler : Handler) (a : Address) : DispatchTable :=
  match t.register handler a with
  | .ok t' => t'
  | .error _ => t

theorem offer_package (handler : Handler) (a : Address) :
    (t.offer handler a).package = t.package := by
  unfold offer
  split
  · next t' h =>
    obtain ⟨key, -, h'⟩ := (register_ok_iff t handler a t').mp h
    obtain ⟨place, -, -, rfl⟩ := (route_ok_iff t key handler t').mp h'
    rfl
  · rfl

/-- What a key is answered with after an offer: as before if it was
served, else by the offer if the offer is for this key. -/
theorem route?_offer (handler : Handler) (a : Address) (key : DispatchKey) :
    (t.offer handler a).route? key
      = (t.route? key).or
          (if a.target t.package = some key then
            (t.package.resolve? key).map (routeTo t.package handler)
          else none) := by
  unfold offer
  split
  · next t' h =>
    obtain ⟨key', led, h'⟩ := (register_ok_iff t handler a t').mp h
    obtain ⟨place, found, free, rfl⟩ := (route_ok_iff t key' handler t').mp h'
    rw [led, route?_adding]
    by_cases same : key = key'
    · subst same
      rw [if_pos rfl, if_pos rfl, free, found]
      rfl
    · rw [if_neg same, if_neg fun h => same (Option.some.inj h).symm,
        Option.or_none]
  · next refusal h =>
    -- a refused offer for this very key finds it served or not declared
    by_cases led : a.target t.package = some key
    · rw [if_pos led]
      cases served : t.route? key with
      | some r => rfl
      | none =>
          cases found : t.package.resolve? key with
          | none => rfl
          | some place =>
              have taken := (route_ok_iff t key handler _).mpr
                ⟨place, found, served, rfl⟩
              have success := (register_ok_iff t handler a _).mpr
                ⟨key, led, taken⟩
              rw [h] at success
              cases success
    · rw [if_neg led, Option.or_none]

-- =========================================================== all attempts

variable (package : PackageDecl) (H : Nat → Handler)

/-- The table that a history of registrations leaves: the handler of the
attempt `k` is `H k`. -/
def ofHistory (plan : List Address) : DispatchTable :=
  plan.zipIdx.foldl (fun t (a, k) => t.offer (H k) a) (.ofPackage package)

theorem ofHistory_concat (plan : List Address) (a : Address) :
    ofHistory package H (plan ++ [a])
      = (ofHistory package H plan).offer (H plan.length) a := by
  unfold ofHistory
  rw [List.zipIdx_append, List.foldl_append, Nat.zero_add]
  rfl

theorem ofHistory_package (plan : List Address) :
    (ofHistory package H plan).package = package := by
  induction plan using List.reverseRecOn with
  | nil => rfl
  | append_singleton plan a ih => rw [ofHistory_concat, offer_package, ih]

/-- The attempt that serves a key: the first that leads to it, if there
is a function. -/
def served? (plan : List Address) (key : DispatchKey) : Option Nat :=
  if (package.resolve? key).isSome then
    plan.findIdx? fun a => a.target package == some key
  else none

/-- A key that is served is a function's. -/
theorem resolve?_of_served? {package : PackageDecl} {plan : List Address}
    {key : DispatchKey} {k : Nat} (h : served? package plan key = some k) :
    ∃ place, package.resolve? key = some place := by
  unfold served? at h
  split at h
  · next resolved => exact Option.isSome_iff_exists.mp resolved
  · cases h

/-- What a key is answered with by the table of a history. -/
theorem route?_ofHistory (plan : List Address) (key : DispatchKey) :
    (ofHistory package H plan).route? key
      = (served? package plan key).bind fun k =>
          (package.resolve? key).map (routeTo package (H k)) := by
  unfold served?
  induction plan using List.reverseRecOn with
  | nil =>
      rw [List.findIdx?_nil, ite_self]
      rfl
  | append_singleton plan a ih =>
      rw [ofHistory_concat, route?_offer, ofHistory_package, ih]
      cases found : package.resolve? key with
      | none => simp
      | some place =>
          simp only [Option.isSome_some, if_true, List.findIdx?_append]
          -- the last attempt counts only if no other was for this key
          cases plan.findIdx? fun a => a.target package == some key with
          | some k => rfl
          | none =>
              by_cases led : a.target package = some key
              · simp [led]
              · simp [led]

-- =================================================== the first to succeed

/-- The attempt `k` of a history was a registration for a key, and it
succeeded. -/
def Registers (plan : List Address) (key : DispatchKey) (k : Nat) : Prop :=
  ∃ a t', plan[k]? = some a ∧ a.target package = some key
    ∧ (ofHistory package H (plan.take k)).register (H k) a = .ok t'

/-- The first attempt of a history that succeeded for a key. -/
def RegistersFirst (plan : List Address) (key : DispatchKey) (k : Nat) :
    Prop :=
  Registers package H plan key k ∧ ∀ j < k, ¬ Registers package H plan key j

/-- An attempt for a key succeeds where the package has a function and no
earlier attempt was for the same key. -/
theorem registers_iff_earlier (plan : List Address) (key : DispatchKey)
    (k : Nat) :
    Registers package H plan key k
      ↔ (package.resolve? key).isSome
          ∧ served? package (plan.take k) key = none
          ∧ ∃ a, plan[k]? = some a ∧ a.target package = some key := by
  constructor
  · rintro ⟨a, t', listed, led, success⟩
    obtain ⟨key', led', taken⟩ := (register_ok_iff _ _ _ _).mp success
    obtain ⟨place, found, free, -⟩ := (route_ok_iff _ _ _ _).mp taken
    rw [ofHistory_package] at led' found
    obtain rfl : key = key' := Option.some.inj (led.symm.trans led')
    rw [route?_ofHistory, found] at free
    refine ⟨by rw [found]; rfl, ?_, a, listed, led⟩
    cases earlier : served? package (plan.take k) key with
    | none => rfl
    | some j =>
        rw [earlier] at free
        cases free
  · rintro ⟨resolved, earlier, a, listed, led⟩
    obtain ⟨place, found⟩ := Option.isSome_iff_exists.mp resolved
    refine ⟨a, _, listed, led, (register_ok_iff _ _ _ _).mpr
      ⟨key, ?_, (route_ok_iff _ _ _ _).mpr ⟨place, ?_, ?_, rfl⟩⟩⟩
    · rw [ofHistory_package]
      exact led
    · rw [ofHistory_package]
      exact found
    · rw [route?_ofHistory, earlier]
      rfl

/-- The attempt that succeeds for a key is the one that serves it; there
is at most one. -/
theorem registers_iff (plan : List Address) (key : DispatchKey) (k : Nat) :
    Registers package H plan key k ↔ served? package plan key = some k := by
  rw [registers_iff_earlier]
  unfold served?
  by_cases resolved : (package.resolve? key).isSome = true
  · rw [if_pos resolved, if_pos resolved, List.findIdx?_eq_none_iff,
      List.findIdx?_eq_some_iff_getElem]
    constructor
    · rintro ⟨-, earlier, a, listed, led⟩
      obtain ⟨inside, rfl⟩ := List.getElem?_eq_some_iff.mp listed
      refine ⟨inside, beq_iff_eq.mpr led, fun j before => ?_⟩
      have passed := earlier plan[j]
        (List.mem_take_iff_getElem.mpr ⟨j, by omega, rfl⟩)
      rw [passed]
      exact Bool.false_ne_true
    · rintro ⟨inside, led, earlier⟩
      refine ⟨resolved, fun a listed => ?_, plan[k],
        List.getElem?_eq_getElem inside, beq_iff_eq.mp led⟩
      obtain ⟨j, before, rfl⟩ := List.mem_take_iff_getElem.mp listed
      exact Bool.eq_false_iff.mpr (earlier j (by omega))
  · rw [if_neg resolved, if_neg resolved]
    constructor
    · rintro ⟨resolved', -⟩
      exact absurd resolved' resolved
    · intro h
      cases h

/-- So the attempt that succeeds is the first that does. -/
theorem registersFirst_iff (plan : List Address) (key : DispatchKey)
    (k : Nat) :
    RegistersFirst package H plan key k
      ↔ served? package plan key = some k := by
  unfold RegistersFirst
  rw [registers_iff]
  refine ⟨fun h => h.1, fun h => ⟨h, fun j before again => ?_⟩⟩
  rw [registers_iff, h] at again
  cases again
  exact Nat.lt_irrefl k before

end DispatchTable

end PluginRpc
