/-
What the attempts of a history come to.

An attempt finds the table that all attempts before it have left. Either
it adds the route of a key that has none, or it is refused and the table
is as it was: `Offered` says which, and everything here is read off it.
What an attempt is told depends on its key alone and on whether an
earlier attempt was successful for that key, under whatever address it
was made.

# Two ways of addressing

Names lead to a key first, and the key is then resolved like any other.
Where indices are given twice, that may well end at another function than
the one that was named; the names have no further part in it.

# Order

Attempts for different keys do not touch each other's routes, and a table
lists its routes by their keys. So a history may be told in any order, as
long as no two of its attempts are for one key.
-/
import Mathlib.Data.List.Pairwise
import PluginRpc.Proofs.Dispatch.Registration

namespace PluginRpc

instance : Std.TransCmp DispatchKey.order :=
  inferInstanceAs (Std.TransCmp
    (compareLex (compareOn DispatchKey.service) (compareOn DispatchKey.function)))

/-- The first member of a list that is as wanted. -/
def IsFirst {α : Type} (wanted : α → Prop) (l : List α) (a : α) : Prop :=
  wanted a ∧ ∃ before after, l = before ++ a :: after ∧ ∀ b ∈ before, ¬ wanted b

theorem find?_eq_some_iff_isFirst {α : Type} {p : α → Bool} {l : List α} {a : α} :
    l.find? p = some a ↔ IsFirst (fun b => p b = true) l a := by
  rw [List.find?_eq_some_iff_append]
  unfold IsFirst
  simp only [Bool.not_eq_true', Bool.not_eq_true]

namespace DispatchTable

-- ============================================================ one attempt

/-- What becomes of a table when a handler is offered for an address. -/
inductive Offered (t : DispatchTable) (handler : Handler) (a : Address) :
    DispatchTable → Prop
  | taken {key : DispatchKey} {place : ServiceDecl × FunctionDecl}
      (led : a.target t.package = some key)
      (found : t.package.resolve? key = some place)
      (free : t.route? key = none) :
      Offered t handler a (t.adding key (routeTo t.package handler place))
  | refused
      (shut : ∀ key, a.target t.package = some key →
        (t.package.resolve? key).isSome → (t.route? key).isSome) :
      Offered t handler a t

theorem offered (t : DispatchTable) (handler : Handler) (a : Address) :
    Offered t handler a (t.offer handler a) := by
  unfold offer
  split
  · next t' success =>
    obtain ⟨key, led, taken⟩ := (register_ok_iff ..).mp success
    obtain ⟨place, found, free, rfl⟩ := (route_ok_iff ..).mp taken
    exact .taken led found free
  · next refusal failure =>
    refine .refused fun key led resolved => Option.isSome_iff_ne_none.mpr ?_
    intro free
    obtain ⟨place, found⟩ := Option.isSome_iff_exists.mp resolved
    have taken := (route_ok_iff t key handler _).mpr ⟨place, found, free, rfl⟩
    have success := (register_ok_iff t handler a _).mpr ⟨key, led, taken⟩
    rw [failure] at success
    cases success

theorem Offered.eq {t t' : DispatchTable} {handler : Handler} {a : Address}
    (h : Offered t handler a t') : t.offer handler a = t' := by
  have h' := t.offered handler a
  generalize t.offer handler a = t'' at h'
  cases h with
  | @taken key place led found free =>
      cases h' with
      | @taken key' place' led' found' free' =>
          obtain rfl := Option.some.inj (led.symm.trans led')
          obtain rfl := Option.some.inj (found.symm.trans found')
          rfl
      | refused shut =>
          have served := shut key led (by rw [found]; rfl)
          rw [free] at served
          cases served
  | refused shut =>
      cases h' with
      | @taken key' place' led' found' free' =>
          have served := shut key' led' (by rw [found']; rfl)
          rw [free'] at served
          cases served
      | refused shut' => rfl

/-- A refusal with a code. -/
def RefusedWith (code : StatusCode) (result : Except RouteError DispatchTable) :
    Prop :=
  ∃ e, result = .error e ∧ e.toError.code = code

/-- What an attempt under a key is told. -/
theorem route_told (t : DispatchTable) (key : DispatchKey) (handler : Handler) :
    (RefusedWith .notFound (t.route key handler)
        ↔ t.package.resolve? key = none)
      ∧ (RefusedWith .alreadyExists (t.route key handler)
        ↔ (t.package.resolve? key).isSome ∧ (t.route? key).isSome)
      ∧ ((∃ t', t.route key handler = .ok t')
        ↔ (t.package.resolve? key).isSome ∧ t.route? key = none) := by
  unfold route RefusedWith
  cases found : t.package.resolve? key with
  | none => simp [RouteError.toError]
  | some place =>
      have served : t.routes.contains DispatchKey.order key = (t.route? key).isSome :=
        rfl
      cases free : t.route? key with
      | none => simp [served, free, RouteError.toError]
      | some r => simp [served, free, RouteError.toError]

/-- Names lead to the key of the first function of that name in the first
service of that name. -/
theorem keyNamed?_eq_some {p : PackageDecl} {service function : String}
    {key : DispatchKey} :
    p.keyNamed? service function = some key
      ↔ ∃ s f, IsFirst (fun s => s.name = service) p.services s
          ∧ IsFirst (fun f => f.name = function) s.functions f
          ∧ key = ⟨s.index, f.index⟩ := by
  unfold PackageDecl.keyNamed? PackageDecl.serviceNamed?
    ServiceDecl.functionNamed? ServiceDecl.keyOf
  simp only [Option.bind_eq_bind, Option.bind_eq_some_iff,
    find?_eq_some_iff_isFirst, beq_iff_eq, Option.pure_def, Option.some.injEq]
  exact ⟨fun ⟨s, hs, f, hf, same⟩ => ⟨s, f, hs, hf, same.symm⟩,
    fun ⟨s, f, hs, hf, same⟩ => ⟨s, hs, f, hf, same.symm⟩⟩

/-- An attempt under names is one under the key they lead to, or is told
that there is no such function. -/
theorem routeNamed_told (t : DispatchTable) (service function : String)
    (handler : Handler) :
    (∀ s f, IsFirst (fun s => s.name = service) t.package.services s →
        IsFirst (fun f => f.name = function) s.functions f →
        t.routeNamed service function handler
          = t.route ⟨s.index, f.index⟩ handler)
      ∧ ((∀ s, IsFirst (fun s => s.name = service) t.package.services s →
          ∀ f, ¬ IsFirst (fun f => f.name = function) s.functions f) →
        RefusedWith .notFound (t.routeNamed service function handler)) := by
  constructor
  · intro s f hs hf
    have led := keyNamed?_eq_some.mpr ⟨s, f, hs, hf, rfl⟩
    unfold routeNamed
    rw [led]
  · intro nobody
    have nowhere : t.package.keyNamed? service function = none := by
      refine Option.eq_none_iff_forall_ne_some.mpr fun key led => ?_
      obtain ⟨s, f, hs, hf, -⟩ := keyNamed?_eq_some.mp led
      exact nobody s hs f hf
    unfold routeNamed
    rw [nowhere]
    exact ⟨_, rfl, rfl⟩

-- =================================================== many, one by one

/-- A key that is served stays served as it is. -/
theorem Offered.keeps {t t' : DispatchTable} {handler : Handler} {a : Address}
    (h : Offered t handler a t') {key : DispatchKey} {r : Route}
    (served : t.route? key = some r) : t'.route? key = some r := by
  cases h with
  | refused shut => exact served
  | @taken key' place led found free =>
      have other : key ≠ key' := by
        rintro rfl
        rw [free] at served
        cases served
      rw [route?_adding, if_neg other]
      exact served

/-- A table grows by one with each success. -/
theorem Offered.size {t t' : DispatchTable} {handler : Handler} {a : Address}
    (h : Offered t handler a t') :
    t'.size = t.size + if (t.register handler a).isOk then 1 else 0 := by
  cases h with
  | @taken key place led found free =>
      have taken := (route_ok_iff t key handler _).mpr ⟨place, found, free, rfl⟩
      have success := (register_ok_iff t handler a _).mpr ⟨key, led, taken⟩
      rw [success]
      exact OrderedMap.size_insert_of_absent free _
  | refused shut =>
      cases told : t.register handler a with
      | error e => rfl
      | ok t' =>
          obtain ⟨key, led, taken⟩ := (register_ok_iff ..).mp told
          obtain ⟨place, found, free, -⟩ := (route_ok_iff ..).mp taken
          have served := shut key led (by rw [found]; rfl)
          rw [free] at served
          cases served

/-- A route of another key makes no difference to an offer. -/
theorem Offered.adding {t t' : DispatchTable} {handler : Handler} {a : Address}
    (h : Offered t handler a t') {key : DispatchKey}
    (other : a.target t.package ≠ some key) (r : Route) :
    (t.adding key r).offer handler a = t'.adding key r := by
  cases h with
  | refused shut =>
      refine Offered.eq (.refused fun key' led resolved => ?_)
      rw [route?_adding]
      split
      · rfl
      · exact shut key' led resolved
  | @taken key' place led found free =>
      have apart : key' ≠ key := by
        rintro rfl
        exact other led
      have free' : (t.adding key r).route? key' = none := by
        rw [route?_adding, if_neg apart]
        exact free
      have again : Offered (t.adding key r) handler a _ :=
        .taken led found free'
      refine again.eq.trans ?_
      exact congrArg (DispatchTable.mk t.package)
        (OrderedMap.insert_comm DispatchKey.order_eq_iff t.routes apart.symm ..)

/-- Offers for different keys can be made in either order. -/
theorem offer_comm (t : DispatchTable) {a a' : Address}
    (other : ∀ key, a.target t.package = some key →
      a'.target t.package ≠ some key) (handler handler' : Handler) :
    (t.offer handler a).offer handler' a'
      = (t.offer handler' a').offer handler a := by
  have second := t.offered handler' a'
  have owned := t.offer_package handler' a'
  have first := t.offered handler a
  generalize t.offer handler a = t₁ at first
  cases first with
  | @taken key place led found free =>
      have free' : (t.offer handler' a').route? key = none := by
        rw [route?_offer, free, if_neg (other key led)]
        rfl
      have again : Offered (t.offer handler' a') handler a _ :=
        .taken (owned ▸ led) (owned ▸ found) free'
      rw [second.adding (other key led), again.eq, owned]
  | refused shut =>
      refine (Offered.eq (.refused fun key led resolved => ?_)).symm
      rw [owned] at led resolved
      obtain ⟨r, served⟩ := Option.isSome_iff_exists.mp (shut key led resolved)
      rw [second.keeps served]
      rfl

-- ============================================================ all attempts

section

variable (package : PackageDecl) (H : Nat → Handler)

/-- Whether the attempt `k` of a history succeeds. -/
def succeeds (plan : List Address) (k : Nat) : Bool :=
  plan[k]?.any fun a =>
    ((ofHistory package H (plan.take k)).register (H k) a).isOk

/-- The table of a history has a route for each success. -/
theorem size_ofHistory (plan : List Address) :
    (ofHistory package H plan).size
      = (List.range plan.length).countP (succeeds package H plan) := by
  induction plan using List.reverseRecOn with
  | nil => rfl
  | append_singleton plan a ih =>
      have before : ∀ k ∈ List.range plan.length,
          succeeds package H (plan ++ [a]) k = true
            ↔ succeeds package H plan k = true := by
        intro k hk
        have inside : k < plan.length := List.mem_range.mp hk
        unfold succeeds
        rw [List.getElem?_append_left inside,
          List.take_append_of_le_length (Nat.le_of_lt inside)]
      have last : succeeds package H (plan ++ [a]) plan.length
          = ((ofHistory package H plan).register (H plan.length) a).isOk := by
        unfold succeeds
        rw [List.getElem?_concat_length, List.take_left]
        rfl
      have grown := ((ofHistory package H plan).offered (H plan.length) a).size
      rw [ofHistory_concat, grown, ih, List.length_append, List.length_singleton,
        List.range_succ, List.countP_append, List.countP_congr before,
        List.countP_singleton, last]

/-- What is kept, is kept through any further attempts. -/
theorem route?_ofHistory_append (plan more : List Address) {key : DispatchKey}
    {r : Route} (served : (ofHistory package H plan).route? key = some r) :
    (ofHistory package H (plan ++ more)).route? key = some r := by
  induction more using List.reverseRecOn with
  | nil =>
      rw [List.append_nil]
      exact served
  | append_singleton more a ih =>
      rw [← List.append_assoc, ofHistory_concat]
      exact (offered _ _ a).keeps ih

-- =============================================================== reordering

/-- The attempts of a history, each with its handler. -/
def offers (plan : List Address) : List (Address × Handler) :=
  plan.zipIdx.map fun (a, k) => (a, H k)

theorem foldl_offers (plan : List Address) :
    (offers H plan).foldl (fun t o => t.offer o.2 o.1) (ofPackage package)
      = ofHistory package H plan := by
  unfold offers ofHistory
  rw [List.foldl_map]

/-- The two addresses do not lead to the same key. -/
def Apart (a b : Address) : Prop :=
  ∀ key, a.target package = some key → b.target package ≠ some key

variable {package}

theorem Apart.symm {a b : Address} (h : Apart package a b) : Apart package b a :=
  fun key led led' => h key led' led

theorem pairwise_offers {plan : List Address}
    (distinct : plan.Pairwise (Apart package)) :
    (offers H plan).Pairwise fun o o' => Apart package o.1 o'.1 := by
  have addresses : (offers H plan).map Prod.fst = plan := by
    unfold offers
    rw [List.map_map]
    exact List.zipIdx_map_fst 0 plan
  rw [← addresses] at distinct
  exact List.pairwise_map.mp distinct

/-- Offers for different keys fill a table in any order alike. -/
theorem foldl_offer_perm {l l' : List (Address × Handler)} (perm : l.Perm l')
    (distinct : l.Pairwise fun o o' => Apart package o.1 o'.1)
    {t : DispatchTable} (own : t.package = package) :
    l.foldl (fun t o => t.offer o.2 o.1) t
      = l'.foldl (fun t o => t.offer o.2 o.1) t := by
  induction perm generalizing t with
  | nil => rfl
  | cons o perm ih =>
      exact ih distinct.of_cons ((t.offer_package o.2 o.1).trans own)
  | swap o o' l =>
      have apart := List.rel_of_pairwise_cons distinct List.mem_cons_self
      subst own
      rw [List.foldl_cons, List.foldl_cons, List.foldl_cons, List.foldl_cons,
        t.offer_comm apart]
  | trans first second ih ih' =>
      have distinct' := distinct.perm first Apart.symm
      exact (ih distinct own).trans (ih' distinct' own)

theorem ofHistory_perm {H H' : Nat → Handler} {plan plan' : List Address}
    (perm : (offers H plan).Perm (offers H' plan'))
    (distinct : plan.Pairwise (Apart package)) :
    ofHistory package H plan = ofHistory package H' plan' := by
  rw [← foldl_offers, ← foldl_offers]
  exact foldl_offer_perm perm (pairwise_offers H distinct) rfl

end

-- ============================================================= the whole

/-- What a table answers for a key is what the first successful attempt
for it made. -/
theorem route?_ofHistory_iff (package : PackageDecl) (H : Nat → Handler)
    (plan : List Address) (key : DispatchKey) (r : Route) :
    (ofHistory package H plan).route? key = some r
      ↔ ∃ k s f, RegistersFirst package H plan key k
          ∧ package.resolve? key = some (s, f)
          ∧ r = ⟨.of package.name s.name f.name, f, H k⟩ := by
  rw [route?_ofHistory]
  simp only [registersFirst_iff, Option.bind_eq_some_iff, Option.map_eq_some_iff]
  constructor
  · rintro ⟨k, served, ⟨s, f⟩, found, rfl⟩
    exact ⟨k, s, f, served, found, rfl⟩
  · rintro ⟨k, s, f, served, found, rfl⟩
    exact ⟨k, served, (s, f), found, rfl⟩

theorem isSome_route?_iff (package : PackageDecl) (H : Nat → Handler)
    (plan : List Address) (key : DispatchKey) :
    ((ofHistory package H plan).route? key).isSome
      ↔ ∃ k, Registers package H plan key k := by
  rw [route?_ofHistory]
  simp only [registers_iff]
  cases served : served? package plan key with
  | none => simp
  | some k =>
      obtain ⟨place, found⟩ := resolve?_of_served? served
      simp [found]

/-- What a history of attempts comes to, and what the next one is told. -/
structure Settled (package : PackageDecl) (H : Nat → Handler)
    (plan : List Address) (t : DispatchTable) : Prop where
  /-- A key without function is not found, one that was registered
  successfully before exists already, any other is registered. -/
  told : ∀ key handler,
    (RefusedWith .notFound (t.route key handler) ↔ package.resolve? key = none)
      ∧ (RefusedWith .alreadyExists (t.route key handler)
        ↔ (package.resolve? key).isSome ∧ ∃ k, Registers package H plan key k)
      ∧ ((∃ t', t.route key handler = .ok t')
        ↔ (package.resolve? key).isSome ∧ ¬ ∃ k, Registers package H plan key k)
  /-- Names stand for the key of the first function so named in the first
  service so named; where there is none nothing is found. -/
  told_by_name : ∀ service function handler,
    (∀ s f, IsFirst (fun s => s.name = service) package.services s →
        IsFirst (fun f => f.name = function) s.functions f →
        t.routeNamed service function handler
          = t.route ⟨s.index, f.index⟩ handler)
      ∧ ((∀ s, IsFirst (fun s => s.name = service) package.services s →
          ∀ f, ¬ IsFirst (fun f => f.name = function) s.functions f) →
        RefusedWith .notFound (t.routeNamed service function handler))
  /-- A refused attempt leaves the table as it was. -/
  unchanged : ∀ a e, t.register (H plan.length) a = .error e →
    ofHistory package H (plan ++ [a]) = t
  /-- A key is answered with the handler that was first registered for it
  and with what the package declares there. -/
  routed : ∀ key r, t.route? key = some r
    ↔ ∃ k s f, RegistersFirst package H plan key k
        ∧ package.resolve? key = some (s, f)
        ∧ r = ⟨.of package.name s.name f.name, f, H k⟩
  /-- It is answered so for ever. -/
  kept : ∀ key r, t.route? key = some r → ∀ more,
    (ofHistory package H (plan ++ more)).route? key = some r
  size : t.size = (List.range plan.length).countP (succeeds package H plan)
  /-- Attempts for different keys can be made in any order. -/
  reordered : plan.Pairwise (Apart package) → ∀ H' plan',
    (offers H plan).Perm (offers H' plan') → ofHistory package H' plan' = t

/-- Every history of registrations, of whatever package, is settled like
this. -/
theorem registrations_settle (package : PackageDecl) (H : Nat → Handler)
    (plan : List Address) :
    Settled package H plan (ofHistory package H plan) where
  told key handler := by
    have told := (ofHistory package H plan).route_told key handler
    have registered := isSome_route?_iff package H plan key
    have free := Option.not_isSome_iff_eq_none.symm.trans (not_congr registered)
    rw [ofHistory_package, registered, free] at told
    exact told
  told_by_name service function handler := by
    have told := (ofHistory package H plan).routeNamed_told service function handler
    rw [ofHistory_package] at told
    exact told
  unchanged a e refused := by
    rw [ofHistory_concat, offer, refused]
  routed := route?_ofHistory_iff package H plan
  kept key r served more := route?_ofHistory_append package H plan more served
  size := size_ofHistory package H plan
  reordered distinct H' plan' perm := (ofHistory_perm perm distinct).symm

end DispatchTable

end PluginRpc
