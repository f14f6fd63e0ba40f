/-
Method paths do not collide.

A path is written without any escaping: a slash, the package's name and a
dot unless the package has no name, the service's name, a slash, the
function's name. It can be read back as long as the separators are found
again. The second slash ends what is said of package and service if
neither has a slash in its name. In front of it the last dot belongs to
the separator if the service has none in its name; and where there is no
dot at all there is no package name. The function's name may have
anything in it, and the package's may have dots.

# From names to keys

A table is asked for keys, not for names. Two keys that a package finds
functions at are different only if the functions are, and functions of
one package are told apart by their names if no two services share a name
and no two functions of one service do. So the table of any history of
registrations has a path of its own for every key that it serves.
-/
import Mathlib.Data.List.Nodup
import PluginRpc.Proofs.Call.Dialling
import PluginRpc.Proofs.Dispatch.Addressing
import PluginRpc.Proofs.Dispatch.Gates

namespace PluginRpc

-- ============================================================= separators

/-- The first separator of a text tells where its head ends. -/
theorem head_eq_of_separated {sep : Char} :
    ∀ {a b : List Char} {rest rest' : List Char}, sep ∉ a → sep ∉ b →
      a ++ sep :: rest = b ++ sep :: rest' → a = b ∧ rest = rest' := by
  intro a
  induction a with
  | nil =>
      intro b rest rest' _ plain same
      cases b with
      | nil => exact ⟨rfl, (List.cons.inj same).2⟩
      | cons c cs =>
          have first : sep = c := (List.cons.inj same).1
          exact absurd (first ▸ List.mem_cons_self ..) plain
  | cons c cs ih =>
      intro b rest rest' plain plain' same
      cases b with
      | nil =>
          have first : c = sep := (List.cons.inj same).1
          exact absurd (first ▸ List.mem_cons_self ..) plain
      | cons d ds =>
          obtain ⟨first, others⟩ := List.cons.inj same
          obtain ⟨heads, rests⟩ :=
            ih (fun h => plain (List.mem_cons_of_mem _ h))
              (fun h => plain' (List.mem_cons_of_mem _ h)) others
          exact ⟨by rw [first, heads], rests⟩

/-- The last separator of a text tells where its tail begins. -/
theorem tail_eq_of_separated {sep : Char} {a b rest rest' : List Char}
    (plain : sep ∉ rest) (plain' : sep ∉ rest')
    (same : a ++ sep :: rest = b ++ sep :: rest') :
    a = b ∧ rest = rest' := by
  -- read backwards, the tails are the heads
  have backwards : rest.reverse ++ sep :: a.reverse
      = rest'.reverse ++ sep :: b.reverse := by
    have flipped := congrArg List.reverse same
    simpa using flipped
  obtain ⟨tails, heads⟩ := head_eq_of_separated
    (fun h => plain (List.mem_reverse.mp h))
    (fun h => plain' (List.mem_reverse.mp h)) backwards
  exact ⟨List.reverse_inj.mp heads, List.reverse_inj.mp tails⟩

-- ================================================================== paths

namespace MethodPath

/-- Names of a package and a service that can be read off a path. The
package may have no name, or one with dots. -/
structure Readable (package service : String) : Prop where
  package_plain : '/' ∉ package.toList
  service_plain : '/' ∉ service.toList
  service_dotless : '.' ∉ service.toList

/-- What a path says of package and service, between its first two
slashes. -/
def qualified (package service : String) : List Char :=
  if package.isEmpty then service.toList
  else package.toList ++ '.' :: service.toList

variable {package service function package' service' function' : String}

theorem toList_of (package service function : String) :
    (MethodPath.of package service function).text.toList
      = '/' :: (qualified package service ++ '/' :: function.toList) := by
  unfold MethodPath.of qualified
  split <;> simp [String.toList_append]

theorem Readable.slash_notMem (readable : Readable package service) :
    '/' ∉ qualified package service := by
  unfold qualified
  split
  · exact readable.service_plain
  · intro h
    rcases List.mem_append.mp h with inside | inside
    · exact readable.package_plain inside
    · rcases List.mem_cons.mp inside with dot | inside
      · exact absurd dot (by decide)
      · exact readable.service_plain inside

/-- A dot is in a qualified name exactly if there is a package name. -/
theorem Readable.dot_mem_iff (readable : Readable package service) :
    '.' ∈ qualified package service ↔ package.isEmpty = false := by
  unfold qualified
  cases package.isEmpty with
  | true => simpa using readable.service_dotless
  | false => simp

theorem Readable.names_eq (readable : Readable package service)
    (readable' : Readable package' service')
    (same : qualified package service = qualified package' service') :
    package = package' ∧ service = service' := by
  have named : (package.isEmpty = false) ↔ (package'.isEmpty = false) := by
    rw [← readable.dot_mem_iff, ← readable'.dot_mem_iff, same]
  unfold qualified at same
  cases bare : package.isEmpty with
  | true =>
      have bare' : package'.isEmpty = true :=
        Bool.not_eq_false _ ▸ fun h => by
          rw [named.mpr h] at bare
          cases bare
      rw [if_pos bare, if_pos bare'] at same
      rw [String.isEmpty_iff.mp bare, String.isEmpty_iff.mp bare']
      exact ⟨rfl, String.toList_inj.mp same⟩
  | false =>
      have named' := named.mp bare
      rw [if_neg (Bool.eq_false_iff.mp bare),
        if_neg (Bool.eq_false_iff.mp named')] at same
      obtain ⟨packages, services⟩ := tail_eq_of_separated
        readable.service_dotless readable'.service_dotless same
      exact ⟨String.toList_inj.mp packages, String.toList_inj.mp services⟩

/-- A path can be read back. -/
theorem of_inj_of_readable (readable : Readable package service)
    (readable' : Readable package' service') :
    MethodPath.of package service function
        = .of package' service' function'
      ↔ package = package' ∧ service = service' ∧ function = function' := by
  constructor
  · intro same
    have texts := congrArg (fun path => path.text.toList) same
    simp only [toList_of, List.cons.injEq, true_and] at texts
    obtain ⟨names, functions⟩ := head_eq_of_separated
      readable.slash_notMem readable'.slash_notMem texts
    obtain ⟨packages, services⟩ := readable.names_eq readable' names
    exact ⟨packages, services, String.toList_inj.mp functions⟩
  · rintro ⟨rfl, rfl, rfl⟩
    rfl

end MethodPath

-- =============================================================== handing on

/-- Handing a call to the channel under another path. -/
def CallOp.Strays (method : MethodPath) : CallOp → Prop
  | .dial c => c.method ≠ method
  | _ => False

namespace CallProgram

variable {α : Type} {method : MethodPath} {x : CallProgram α}

/-- Hands calls to the channel under one path only. -/
def KeepsTo (x : CallProgram α) (method : MethodPath) : Prop :=
  x.Without (CallOp.Strays method)

theorem run?_keeps {st st' : CallState} {op : CallOp} {answer : op.Answer}
    (keeps : ¬ op.Strays method)
    (answered : CallOp.run? st op = some (answer, st')) :
    ∃ sent, st'.dialled = st.dialled ++ sent
      ∧ ∀ c ∈ sent, c.method = method := by
  by_cases dials : op.Dials
  · cases op with
    | dial c =>
        cases answered
        refine ⟨[c], rfl, fun c' inside => ?_⟩
        rw [List.mem_singleton.mp inside]
        exact Classical.not_not.mp keeps
    | _ => exact absurd dials id
  · refine ⟨[], ?_, fun c inside => absurd inside List.not_mem_nil⟩
    rw [CallOp.run?_dialled dials answered, List.append_nil]

/-- All that such a program hands over is under the path. -/
theorem KeepsTo.run (keeps : x.KeepsTo method) (st : CallState) :
    ∃ sent, (run st x).2.dialled = st.dialled ++ sent
      ∧ ∀ c ∈ sent, c.method = method := by
  induction x generalizing st with
  | done a =>
      exact ⟨[], (List.append_nil _).symm,
        fun c inside => absurd inside List.not_mem_nil⟩
  | panic p =>
      exact ⟨[], (List.append_nil _).symm,
        fun c inside => absurd inside List.not_mem_nil⟩
  | perform op next ih =>
      rw [run_perform]
      cases answered : CallOp.run? st op with
      | none =>
          exact ⟨[], (List.append_nil _).symm,
            fun c inside => absurd inside List.not_mem_nil⟩
      | some result =>
          obtain ⟨first, added, under⟩ := run?_keeps keeps.1 answered
          obtain ⟨later, added', under'⟩ :=
            ih result.1 (keeps.2 result.1) result.2
          refine ⟨first ++ later, ?_, fun c inside => ?_⟩
          · rw [← List.append_assoc, ← added]
            exact added'
          · exact (List.mem_append.mp inside).elim (under c) (under' c)

end CallProgram

/-- An invocation's own ways of calling keep to its path, as long as the
receivers of replies do. -/
theorem Invocation.ways_keep (i : Invocation) :
    (∀ payload, (i.unary payload).KeepsTo i.method)
      ∧ (∀ payloads, (i.clientStreaming payloads).KeepsTo i.method)
      ∧ ∀ {σ : Type} (receiver : Receiver σ) (s : σ),
        (∀ s message, (receiver s message).KeepsTo i.method) →
          (∀ payload, (i.serverStreaming payload receiver s).KeepsTo i.method)
            ∧ ∀ payloads,
              (i.bidirectional payloads receiver s).KeepsTo i.method := by
  -- each of them dials under the path, and what follows does not dial
  have own : ∀ kind payloads,
      ¬ (CallOp.dial (i.callOf kind payloads)).Strays i.method :=
    fun _ _ strays => strays rfl
  have wires : ∀ op, ¬ (CallOp.wire op).Strays i.method := fun _ => id
  refine ⟨fun payload => ⟨own _ _, fun _ => ?_⟩,
    fun payloads => ⟨own _ _, fun _ => ?_⟩, fun receiver s keeps =>
      ⟨fun payload => ⟨own _ _, fun _ => ?_⟩,
        fun payloads => ⟨own _ _, fun _ => ?_⟩⟩⟩
  · exact Program.without_within wires _
  · exact Program.without_within wires _
  · exact Program.without_receive wires keeps s _
  · exact Program.without_receive wires keeps s _

-- ================================================================= tables

/-- A package whose functions are told apart by their names. -/
structure PackageDecl.TellsApart (p : PackageDecl) : Prop where
  readable : ∀ s ∈ p.services, MethodPath.Readable p.name s.name
  services : (p.services.map ServiceDecl.name).Nodup
  functions : ∀ s ∈ p.services, (s.functions.map FunctionDecl.name).Nodup

/-- In such a package the path of a function leads back to its key. -/
theorem PackageDecl.TellsApart.key_eq {p : PackageDecl}
    (apart : p.TellsApart) {key key' : DispatchKey}
    {s s' : ServiceDecl} {f f' : FunctionDecl}
    (found : p.resolve? key = some (s, f))
    (found' : p.resolve? key' = some (s', f'))
    (same : MethodPath.of p.name s.name f.name
      = .of p.name s'.name f'.name) : key = key' := by
  obtain ⟨-, there, declared, rfl⟩ := p.resolve?_eq_some found
  obtain ⟨-, there', declared', rfl⟩ := p.resolve?_eq_some found'
  obtain ⟨-, services, functions⟩ := (MethodPath.of_inj_of_readable
    (apart.readable s there) (apart.readable s' there')).mp same
  obtain rfl : s = s' :=
    List.inj_on_of_nodup_map apart.services there there' services
  obtain rfl : f = f' :=
    List.inj_on_of_nodup_map (apart.functions s there) declared declared'
      functions
  rfl

namespace DispatchTable

variable {package : PackageDecl} {H : Nat → Handler} {plan : List Address}

/-- The path that the table of a history has for a key is that of the
function which the package has there. -/
theorem method?_ofHistory {key : DispatchKey} {method : MethodPath}
    (h : (ofHistory package H plan).method? key = some method) :
    ∃ s f, package.resolve? key = some (s, f)
      ∧ method = .of package.name s.name f.name := by
  unfold method? at h
  rw [route?_ofHistory] at h
  obtain ⟨r, routed, rfl⟩ := Option.map_eq_some_iff.mp h
  obtain ⟨k, -, resolved⟩ := Option.bind_eq_some_iff.mp routed
  obtain ⟨⟨s, f⟩, found, rfl⟩ := Option.map_eq_some_iff.mp resolved
  exact ⟨s, f, found, rfl⟩

/-- The path that a handler is given is the one that the table has for the
key of the call. -/
theorem Decides.method?_eq {channel : Channel} {context : CallContext}
    {key : DispatchKey} {request : Record} {shape : ResponseShape}
    {w : Surroundings} {k : Nat} {i : Invocation}
    (h : Decides package H plan channel context key request shape w
      (.ok (k, i))) :
    (ofHistory package H plan).method? key = some i.method := by
  cases h with
  | handled first found _ _ _ =>
      have serves := (registersFirst_iff package H plan key k).mp first
      unfold method?
      rw [route?_ofHistory, serves, found]
      rfl

/-- Where handlers keep to the path that they are given, a call hands on
to the transport under the path of its key only. -/
theorem run_client_keeps
    (keeps : ∀ k i shape, (H k i shape).KeepsTo i.method)
    (channel : Channel) (context : CallContext) (key : DispatchKey)
    (request : Record) (st : CallState) :
    ∃ sent,
      (CallProgram.run st ((ofHistory package H plan).client channel context
          key request st.response.shape)).2.dialled = st.dialled ++ sent
        ∧ ∀ c ∈ sent,
          (ofHistory package H plan).method? key = some c.method := by
  rw [run_client_ofHistory]
  have decided := decides_decision channel context key request
    st.response.shape package H plan st.line.surroundings
  cases verdict : decision channel context key request st.response.shape
    package plan st.line.surroundings with
  | error e =>
      refine ⟨[], ?_, fun c inside => absurd inside List.not_mem_nil⟩
      rw [List.append_nil, ← st.cleared_dialled]
      exact CallProgram.run_dialled (CallProgram.without_fail ..) st.cleared
  | ok handling =>
      obtain ⟨k, i⟩ := handling
      rw [verdict] at decided
      obtain ⟨sent, added, under⟩ :=
        (keeps k i st.response.shape).run st.cleared
      refine ⟨sent, ?_, fun c inside => ?_⟩
      · rw [carryOut, conclude_dialled, added, st.cleared_dialled]
      · rw [under c inside]
        exact decided.method?_eq

/-- Paths do not collide. They can be read back into the three names. So
in the table of any history of registrations, over a package that tells
its functions apart, different keys that are served have different paths.
And as long as handlers keep to the path that they are given, everything
that a call hands on to the transport goes under the path of its own key,
which is no other key's. -/
theorem paths_do_not_collide (package : PackageDecl)
    (apart : package.TellsApart) (H : Nat → Handler)
    (plan : List Address) :
    (∀ p s f p' s' f', MethodPath.Readable p s →
        MethodPath.Readable p' s' →
        (MethodPath.of p s f = .of p' s' f'
          ↔ p = p' ∧ s = s' ∧ f = f'))
      ∧ (∀ key key' method method',
        (ofHistory package H plan).method? key = some method →
        (ofHistory package H plan).method? key' = some method' →
        (method = method' ↔ key = key'))
      ∧ ((∀ k i shape, (H k i shape).KeepsTo i.method) →
        ∀ channel context key request st, ∃ sent,
          (CallProgram.run st ((ofHistory package H plan).client channel
              context key request st.response.shape)).2.dialled
            = st.dialled ++ sent
          ∧ ∀ c ∈ sent, ∀ key',
            (ofHistory package H plan).method? key' = some c.method
              ↔ key' = key) := by
  have distinct : ∀ key key' method method',
      (ofHistory package H plan).method? key = some method →
      (ofHistory package H plan).method? key' = some method' →
      (method = method' ↔ key = key') := by
    intro key key' method method' served served'
    obtain ⟨s, f, found, rfl⟩ := method?_ofHistory served
    obtain ⟨s', f', found', rfl⟩ := method?_ofHistory served'
    refine ⟨apart.key_eq found found', ?_⟩
    rintro rfl
    cases found.symm.trans found'
    rfl
  refine ⟨fun p s f p' s' f' readable readable' =>
    MethodPath.of_inj_of_readable readable readable', distinct, ?_⟩
  intro keeps channel context key request st
  obtain ⟨sent, added, under⟩ :=
    run_client_keeps keeps channel context key request st
  refine ⟨sent, added, fun c inside key' => ⟨fun served => ?_, ?_⟩⟩
  · exact (distinct _ _ _ _ served (under c inside)).mp rfl
  · rintro rfl
    exact under c inside

/-- Hands a greeting on, and tells of no reply. -/
def greeting : Handler := fun i _ =>
  (i.unary (.ofText "hello")).bind fun
    | .ok _ => .done (.ok ())
    | .error e => .done (.error e)

theorem greeting_keeps (i : Invocation) (shape : ResponseShape) :
    (greeting i shape).KeepsTo i.method := by
  refine (i.ways_keep.1 _).bind fun reply => ?_
  cases reply <;> exact trivial

/-- Two services whose functions have the same name, in a package with a
dot in its name, routed by key and by name: the paths are different, and a
call of the one is never heard of under the path of the other. A package
without a name is told from one with a name, too. -/
theorem paths_of_two_services :
    let say : FunctionDecl := ⟨0, "Say", .unary, 0, 0⟩
    let p : PackageDecl := ⟨"net.echo", "echo.proto", ⟨1, 0, 0⟩,
      [⟨0, "Echo", [say]⟩, ⟨1, "Log", [say]⟩], ⟨[⟨"Empty", []⟩]⟩⟩
    let t := ofHistory p (fun _ => greeting)
      [.key ⟨0, 0⟩, .named "Log" "Say"]
    p.TellsApart
      ∧ MethodPath.of "" "Echo" "Say" ≠ .of "net" "Echo" "Say"
      ∧ t.method? ⟨0, 0⟩ = some ⟨"/net.echo.Echo/Say"⟩
      ∧ t.method? ⟨1, 0⟩ = some ⟨"/net.echo.Log/Say"⟩
      ∧ ∀ channel context request st, ∃ sent,
        (CallProgram.run st (t.client channel context ⟨1, 0⟩ request
            st.response.shape)).2.dialled = st.dialled ++ sent
          ∧ ∀ c ∈ sent, t.method? ⟨0, 0⟩ ≠ some c.method := by
  intro say p t
  have apart : p.TellsApart := by
    refine ⟨fun s declared => ?_, by decide, fun s declared => ?_⟩
    · simp only [p, List.mem_cons, List.not_mem_nil, or_false] at declared
      rcases declared with rfl | rfl <;>
        exact ⟨by decide, by decide, by decide⟩
    · simp only [p, List.mem_cons, List.not_mem_nil, or_false] at declared
      rcases declared with rfl | rfl <;> decide
  obtain ⟨readBack, -, handedOn⟩ := paths_do_not_collide p apart
    (fun _ => greeting) [.key ⟨0, 0⟩, .named "Log" "Say"]
  refine ⟨apart, fun same => ?_, by decide, by decide,
    fun channel context request st => ?_⟩
  · have names := (readBack "" "Echo" "Say" "net" "Echo" "Say"
      ⟨by decide, by decide, by decide⟩
      ⟨by decide, by decide, by decide⟩).mp same
    exact absurd names.1 (by decide)
  · obtain ⟨sent, added, under⟩ := handedOn (fun _ => greeting_keeps)
      channel context ⟨1, 0⟩ request st
    refine ⟨sent, added, fun c inside other => ?_⟩
    exact absurd ((under c inside ⟨0, 0⟩).mp other) (by decide)

end DispatchTable

end PluginRpc
