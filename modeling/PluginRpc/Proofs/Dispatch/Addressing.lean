/-
Which declared functions an address leads to.

A plugin promises that no two of its functions have the same address,
whichever services and packages they are in. An address is then the
function's own, and looking it up can find that function or nothing. It
finds nothing where the search gives up too early: packages are tried one
after another, but in a package only the first service with the wanted
index is asked, and a second one with the same index is never looked into.
So a function can be called by its address exactly if its service is the
first of its package with that index.

# Places

`places` lists the declared functions with where they are declared, one
entry for each declaration. Addresses are compared along this list, so a
function that is declared twice counts as two.
-/
import Mathlib.Data.List.Nodup
import PluginRpc.Plugin.Module
import PluginRpc.Proofs.Dispatch.Registration

namespace PluginRpc

-- ================================================================ places

/-- A declared function, with the package and the service it is in. -/
structure Place where
  package : PackageDecl
  service : ServiceDecl
  function : FunctionDecl

namespace Place

def address (a : Place) : DispatchKey := a.service.keyOf a.function

/-- The path of a function, by the names of its place. -/
def path (a : Place) : MethodPath :=
  .of a.package.name a.service.name a.function.name

/-- No service before the function's own has the same index. -/
def Foremost (a : Place) : Prop :=
  a.package.service? a.service.index = some a.service

end Place

namespace PluginApi

variable (api : PluginApi)

/-- Where the functions of a plugin are declared. -/
def places : List Place :=
  api.packages.flatMap fun p =>
    p.services.flatMap fun s => s.functions.map fun f => ⟨p, s, f⟩

/-- No two declared functions have the same address. -/
def Unambiguous : Prop := (api.places.map Place.address).Nodup

instance : Decidable api.Unambiguous :=
  inferInstanceAs (Decidable (List.Nodup _))

variable {api}

theorem mem_places {a : Place} :
    a ∈ api.places ↔ a.package ∈ api.packages
      ∧ a.service ∈ a.package.services
      ∧ a.function ∈ a.service.functions := by
  unfold places
  simp only [List.mem_flatMap, List.mem_map]
  constructor
  · rintro ⟨p, hp, s, hs, f, hf, rfl⟩
    exact ⟨hp, hs, hf⟩
  · rintro ⟨hp, hs, hf⟩
    exact ⟨_, hp, _, hs, _, hf, rfl⟩

/-- In such a plugin an address is that of one place. -/
theorem Unambiguous.eq_of_address (unambiguous : api.Unambiguous)
    {a b : Place} (ha : a ∈ api.places) (hb : b ∈ api.places)
    (same : a.address = b.address) : a = b :=
  List.inj_on_of_nodup_map unambiguous ha hb same

end PluginApi

-- ============================================================= the search

/-- What a package finds at an address is declared there, in the first
service with the index. -/
theorem PackageDecl.resolve?_eq_some {p : PackageDecl} {key : DispatchKey}
    {s : ServiceDecl} {f : FunctionDecl} (found : p.resolve? key = some (s, f)) :
    p.service? s.index = some s ∧ s ∈ p.services ∧ f ∈ s.functions
      ∧ s.keyOf f = key := by
  obtain ⟨s', first, asked⟩ := Option.bind_eq_some_iff.mp found
  obtain ⟨f', there, same⟩ := Option.bind_eq_some_iff.mp asked
  cases same
  have service_index : (s.index == key.service) = true :=
    List.find?_some (p := fun t : ServiceDecl => t.index == key.service) first
  have function_index : (f.index == key.function) = true :=
    List.find?_some (p := fun g : FunctionDecl => g.index == key.function) there
  refine ⟨?_, List.mem_of_find?_eq_some first, List.mem_of_find?_eq_some there,
    ?_⟩
  · rw [eq_of_beq service_index]
    exact first
  · unfold ServiceDecl.keyOf
    rw [eq_of_beq service_index, eq_of_beq function_index]

/-- The first service with an index is asked for the function, and has
one if it declares one. -/
theorem PackageDecl.resolve?_keyOf {p : PackageDecl} {s : ServiceDecl}
    {f : FunctionDecl} (first : p.service? s.index = some s)
    (declared : f ∈ s.functions) :
    ∃ f', p.resolve? (s.keyOf f) = some (s, f') := by
  have there : (s.function? f.index).isSome :=
    List.find?_isSome.mpr ⟨f, declared, beq_self_eq_true _⟩
  obtain ⟨f', asked⟩ := Option.isSome_iff_exists.mp there
  refine ⟨f', ?_⟩
  unfold resolve? ServiceDecl.keyOf
  rw [first]
  show (s.function? f.index).bind _ = _
  rw [asked]
  rfl

namespace PluginApi

variable {api : PluginApi}

/-- What a plugin finds at an address is a place with that address, in the
first service of its package with the index. -/
theorem resolve?_eq_some {key : DispatchKey} {a : Place}
    (found : api.resolve? key = some (a.package, a.service, a.function)) :
    a ∈ api.places ∧ a.address = key ∧ a.Foremost := by
  obtain ⟨p, hp, resolved⟩ := List.exists_of_findSome?_eq_some found
  obtain ⟨⟨s, f⟩, there, same⟩ := Option.map_eq_some_iff.mp resolved
  cases same
  obtain ⟨first, hs, hf, address⟩ := PackageDecl.resolve?_eq_some there
  exact ⟨mem_places.mpr ⟨hp, hs, hf⟩, address, first⟩

/-- A function in the first service with its index is found by its package
and so by the plugin. -/
theorem Unambiguous.resolve? (unambiguous : api.Unambiguous) {a : Place}
    (declared : a ∈ api.places) (foremost : a.Foremost) :
    a.package.resolve? a.address = some (a.service, a.function)
      ∧ api.resolve? a.address
        = some (a.package, a.service, a.function) := by
  obtain ⟨hp, hs, hf⟩ := mem_places.mp declared
  obtain ⟨f', there⟩ := PackageDecl.resolve?_keyOf foremost hf
  -- whatever is found at the address is at the place, as no other has it
  have only : ∀ b : Place, b ∈ api.places → b.address = a.address → b = a :=
    fun b hb same => unambiguous.eq_of_address hb declared same
  constructor
  · obtain ⟨-, -, hf', address⟩ := PackageDecl.resolve?_eq_some there
    have same := only ⟨a.package, a.service, f'⟩
      (mem_places.mpr ⟨hp, hs, hf'⟩) address
    have function : f' = a.function := congrArg Place.function same
    rw [function] at there
    exact there
  · have somewhere : (api.resolve? a.address).isSome := by
      unfold PluginApi.resolve?
      rw [List.findSome?_isSome_iff]
      refine ⟨a.package, hp, ?_⟩
      rw [show a.package.resolve? a.address = _ from there]
      rfl
    obtain ⟨⟨p, s, f⟩, found⟩ := Option.isSome_iff_exists.mp somewhere
    obtain ⟨hb, address, -⟩ := resolve?_eq_some (a := ⟨p, s, f⟩) found
    rw [found, ← only ⟨p, s, f⟩ hb address]

/-- A function in a later service with the same index is not found, and
nothing else is found in its stead. -/
theorem Unambiguous.resolve?_hidden (unambiguous : api.Unambiguous)
    {a : Place} (declared : a ∈ api.places) (hidden : ¬ a.Foremost) :
    a.package.resolve? a.address = none ∧ api.resolve? a.address = none := by
  obtain ⟨hp, -, -⟩ := mem_places.mp declared
  constructor
  · cases found : a.package.resolve? a.address with
    | none => rfl
    | some place =>
        obtain ⟨s, f⟩ := place
        obtain ⟨first, hs, hf, address⟩ := PackageDecl.resolve?_eq_some found
        have there : ⟨a.package, s, f⟩ ∈ api.places :=
          mem_places.mpr ⟨hp, hs, hf⟩
        have same := unambiguous.eq_of_address there declared address
        rw [← same] at hidden
        exact absurd first hidden
  · cases found : api.resolve? a.address with
    | none => rfl
    | some place =>
        obtain ⟨p, s, f⟩ := place
        obtain ⟨hb, address, first⟩ := resolve?_eq_some (a := ⟨p, s, f⟩) found
        have same := unambiguous.eq_of_address hb declared address
        rw [← same] at hidden
        exact absurd first hidden

end PluginApi

-- ================================================================ calling

/-- Where the services of a package have different indices, each is the
first with its own. -/
theorem PackageDecl.service?_of_nodup {p : PackageDecl}
    (distinct : (p.services.map ServiceDecl.index).Nodup) {s : ServiceDecl}
    (declared : s ∈ p.services) : p.service? s.index = some s := by
  have there : (p.service? s.index).isSome :=
    List.find?_isSome.mpr ⟨s, declared, beq_self_eq_true _⟩
  obtain ⟨s', first⟩ := Option.isSome_iff_exists.mp there
  have index : (s'.index == s.index) = true :=
    List.find?_some (p := fun t : ServiceDecl => t.index == s.index) first
  rw [first, List.inj_on_of_nodup_map distinct (List.mem_of_find?_eq_some first)
    declared (eq_of_beq index)]

/-- A registration for an address at which the package finds nothing. -/
theorem DispatchTable.route_of_unresolved {t : DispatchTable}
    {key : DispatchKey} (nothing : t.package.resolve? key = none)
    (handler : Handler) :
    t.route key handler = .error (.noFunctionAt t.package.name key) := by
  unfold route
  rw [nothing]

namespace PluginApi

/-- A function can be called by its address. -/
structure Addressable (api : PluginApi) (a : Place) : Prop where
  /-- The address leads to the function, in its service and package. -/
  found : api.resolve? a.address = some (a.package, a.service, a.function)
  /-- A table of its package that does not serve it takes a handler for
  it, and serves it under its own path from then on. -/
  routed : ∀ (t : DispatchTable) (handler : Handler),
    t.package = a.package → t.route? a.address = none →
      ∃ t', t.route a.address handler = .ok t'
        ∧ t'.route? a.address = some ⟨a.path, a.function, handler⟩

variable {api : PluginApi}

theorem Unambiguous.addressable (unambiguous : api.Unambiguous) {a : Place}
    (declared : a ∈ api.places) (foremost : a.Foremost) :
    api.Addressable a := by
  obtain ⟨here, found⟩ := unambiguous.resolve? declared foremost
  refine ⟨found, fun t handler own free => ?_⟩
  let r : Route := DispatchTable.routeTo t.package handler (a.service, a.function)
  have taken : t.route a.address handler = .ok (t.adding a.address r) :=
    (DispatchTable.route_ok_iff ..).mpr ⟨_, own ▸ here, free, rfl⟩
  refine ⟨_, taken, ?_⟩
  rw [t.route?_adding, if_pos rfl]
  show some (DispatchTable.routeTo t.package handler _) = _
  rw [own]
  rfl

/-- Where no two functions have the same address, an address leads to the
function that has it or to nothing: to the function exactly if no service
before it in its package has the same index, which is so for all functions
where the services of each package have different indices. A function
behind another service of its index is refused by the tables of its own
package, as is an address that no function has. -/
theorem addressable_iff_foremost (api : PluginApi)
    (unambiguous : api.Unambiguous) :
    (∀ a ∈ api.places,
      (api.Addressable a ↔ a.Foremost)
        ∧ (¬ a.Foremost → api.resolve? a.address = none
          ∧ ∀ (t : DispatchTable) (handler : Handler), t.package = a.package →
            t.route a.address handler
              = .error (.noFunctionAt a.package.name a.address)))
    ∧ ((∀ p ∈ api.packages, (p.services.map ServiceDecl.index).Nodup) →
        ∀ a ∈ api.places, api.Addressable a)
    ∧ ∀ key, (∀ a ∈ api.places, a.address ≠ key) → api.resolve? key = none := by
  refine ⟨fun a declared => ⟨⟨fun callable => ?_, ?_⟩, fun hidden => ?_⟩,
    fun distinct a declared => ?_, fun key nobody => ?_⟩
  · exact (resolve?_eq_some callable.found).2.2
  · exact unambiguous.addressable declared
  · obtain ⟨here, nothing⟩ := unambiguous.resolve?_hidden declared hidden
    refine ⟨nothing, fun t handler own => ?_⟩
    rw [← own] at here ⊢
    exact t.route_of_unresolved here handler
  · obtain ⟨hp, hs, -⟩ := mem_places.mp declared
    have foremost : a.Foremost :=
      PackageDecl.service?_of_nodup (distinct a.package hp) hs
    exact unambiguous.addressable declared foremost
  · cases found : api.resolve? key with
    | none => rfl
    | some place =>
        obtain ⟨p, s, f⟩ := place
        obtain ⟨there, address, -⟩ := resolve?_eq_some (a := ⟨p, s, f⟩) found
        exact absurd address (nobody ⟨p, s, f⟩ there)

/-- Services of one index in two packages do not hide each other, and in
one package the first hides the second. -/
theorem addressable_across_packages :
    let greet : FunctionDecl := ⟨0, "Greet", .unary, 0, 0⟩
    let count : FunctionDecl := ⟨1, "Count", .unary, 0, 0⟩
    let chat : FunctionDecl := ⟨2, "Chat", .bidirectional, 0, 0⟩
    let first : ServiceDecl := ⟨0, "Counter", [count]⟩
    let second : ServiceDecl := ⟨0, "Chatter", [chat]⟩
    let p : PackageDecl :=
      ⟨"p", "p.proto", ⟨1, 0, 0⟩, [⟨0, "Greeter", [greet]⟩], ⟨[]⟩⟩
    let q : PackageDecl :=
      ⟨"q", "q.proto", ⟨1, 0, 0⟩, [first, second], ⟨[]⟩⟩
    let api := ofPackages [p, q]
    api.Unambiguous
      ∧ api.Addressable ⟨q, first, count⟩
      ∧ ¬ api.Addressable ⟨q, second, chat⟩
      ∧ api.resolve? ⟨0, 3⟩ = none := by
  intro greet count chat first second p q api
  have unambiguous : api.Unambiguous := by decide
  have here : q ∈ api.packages := by simp [api, ofPackages]
  have counter : (⟨q, first, count⟩ : Place) ∈ api.places :=
    mem_places.mpr ⟨here, by simp [q], by simp [first]⟩
  have chatter : (⟨q, second, chat⟩ : Place) ∈ api.places :=
    mem_places.mpr ⟨here, by simp [q], by simp [second]⟩
  obtain ⟨each, -, nobody⟩ := addressable_iff_foremost api unambiguous
  refine ⟨unambiguous, ?_, ?_, nobody _ ?_⟩
  · exact (each _ counter).1.mpr rfl
  · have hidden : ¬ (⟨q, second, chat⟩ : Place).Foremost := by
      unfold Place.Foremost
      decide
    exact fun callable => hidden ((each _ chatter).1.mp callable)
  · decide

/-- A function whose address no other function has, and which cannot be
called by it: the address leads nowhere, and the table of the function's
own package refuses it, though it knows the function by its names. -/
theorem address_of_second_service_leads_nowhere :
    let greet : FunctionDecl := ⟨0, "Greet", .unary, 0, 0⟩
    let count : FunctionDecl := ⟨1, "Count", .unary, 0, 0⟩
    let second : ServiceDecl := ⟨0, "Counter", [count]⟩
    let p : PackageDecl := ⟨"p", "p.proto", ⟨1, 0, 0⟩,
      [⟨0, "Greeter", [greet]⟩, second], ⟨[⟨"Empty", []⟩]⟩⟩
    let api := ofPackages [p]
    api.Unambiguous
      ∧ (⟨p, second, count⟩ : Place) ∈ api.places
      ∧ api.resolve? (second.keyOf count) = none
      ∧ ¬ api.Addressable ⟨p, second, count⟩
      ∧ p.keyNamed? "Counter" "Count" = some (second.keyOf count)
      ∧ ∀ handler, (DispatchTable.ofPackage p).route (second.keyOf count) handler
          = .error (.noFunctionAt "p" ⟨0, 1⟩) := by
  intro greet count second p api
  have nothing : api.resolve? (second.keyOf count) = none := rfl
  refine ⟨by decide, mem_places.mpr ?_, nothing, fun callable => ?_, rfl,
    fun handler => rfl⟩
  · exact ⟨List.mem_singleton_self p, by simp [p], by simp [second]⟩
  · have found : api.resolve? (second.keyOf count) = _ := callable.found
    rw [nothing] at found
    cases found

end PluginApi

end PluginRpc
