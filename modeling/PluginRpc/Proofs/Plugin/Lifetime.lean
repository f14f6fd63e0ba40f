/-
How long a module is open.

A caller loads and unloads, takes copies of plugins and factories, has
clients made, and drops what it has, in any order and any number of times.
Each of these is a number of deals with the estate of the host, so what
deals keep is kept in every run: a module is open exactly as long as
anything of it is left, with the loader or with a caller, and once it is
closed it stays closed.
-/
import PluginRpc.Proofs.Plugin.Course
import PluginRpc.Proofs.Plugin.Estate

namespace PluginRpc

open Estate

-- =================================================================== runs

def Holding.plugin? : Holding → Option LoadedPlugin
  | plugin p => some p
  | _ => none

namespace Host

/-- One thing that is done with a host, and where it is done: what is
found at paths then, and in what surroundings. -/
structure Occasion where
  files : Files
  backend : Backend
  surroundings : Surroundings
  op : Op

/-- The host behind one occasion. A panic leaves it as it was. -/
def after (h : Host) (o : Occasion) : Host :=
  match ((h.step o.files o.backend o.op).runAmbient o.surroundings).1 with
  | .returned h' => h'
  | .panicked _ => h

-- ============================================================= what lives

variable (h : Host)

/-- What the callers hold. -/
def outside : List Holding := h.held.filterMap id

/-- What the loader has a copy of, and what the callers hold. -/
def living : List Holding := h.loader.plugins.map .plugin ++ h.outside

def livingPlugins : List LoadedPlugin := h.living.filterMap Holding.plugin?

/-- The factories, those inside of plugins among them. -/
def livingFactories : List ClientFactory :=
  h.living.filterMap Holding.factory?

def livingClients : List PluginClient := h.living.filterMap Holding.client?

/-- Whether anything holds a module. -/
def hasHolder (id : ModuleId) : Bool :=
  h.loader.handles.contains id
    || h.livingPlugins.any (·.moduleId == id)
    || h.livingFactories.any (·.moduleId == id)
    || h.livingClients.any (·.moduleId == id)

/-- How many modules were ever opened. -/
def opened : Nat := h.loader.custody.modules.length

def isOpen (id : ModuleId) : Bool := 0 < h.loader.custody.holders id

def estate : Estate := ⟨h.loader.custody, h.loader.handles, h.living⟩

-- ============================================================== the deals

variable {h}

/-- What is taken comes last among what is held. -/
theorem take_deals {x : Holding} {f : Shares → Shares}
    (deal : Deal h.estate ⟨h.loader.custody.change x.moduleId f,
      h.loader.handles, x :: h.living⟩) :
    Deals h.estate (h.take x f).estate := by
  have behind : (h.take x f).living = h.living ++ [x] := by
    unfold living outside take
    rw [List.filterMap_append, List.append_assoc]
    rfl
  refine .more deal.single ?_
  unfold estate
  rw [behind]
  exact .reorder (List.perm_append_singleton x h.living).symm

theorem plugin_mem_living {p : LoadedPlugin} (listed : p ∈ h.loader.plugins) :
    .plugin p ∈ h.living :=
  List.mem_append_left _ (List.mem_map_of_mem listed)

theorem mem_living_of_outside {x : Holding} (held : x ∈ h.outside) :
    x ∈ h.living :=
  List.mem_append_right _ held

theorem held_eq_of_holding? {n : Nat} {x : Holding}
    (found : h.holding? n = some x) : h.held[n]? = some (some x) := by
  unfold holding? at found
  cases place : h.held[n]? with
  | none => rw [place] at found; cases found
  | some content =>
      rw [place] at found
      exact congrArg some found

theorem mem_outside_of_holding? {n : Nat} {x : Holding}
    (found : h.holding? n = some x) : x ∈ h.outside :=
  List.mem_filterMap.mpr
    ⟨some x, List.mem_of_getElem? (held_eq_of_holding? found), rfl⟩

theorem takePlugin_deals (n : Nat) :
    Deals h.estate (h.takePlugin n).estate := by
  unfold takePlugin
  cases listed : h.loader.plugins[n]? with
  | none => exact .none
  | some p =>
      exact take_deals (x := .plugin p)
        (.copyPlugin (plugin_mem_living (List.mem_of_getElem? listed)))

theorem takeFactory_deals (n : Nat) :
    Deals h.estate (h.takeFactory n).2.estate := by
  unfold takeFactory
  cases found : (h.holding? n).bind Holding.factory? with
  | none => exact .none
  | some f =>
      obtain ⟨x, held, made⟩ := Option.bind_eq_some_iff.mp found
      exact take_deals (x := .factory f)
        (.copyFactory (mem_living_of_outside (mem_outside_of_holding? held))
          made)

theorem takeFactoryOf_deals (n : Nat) :
    Deals h.estate (h.takeFactoryOf n).estate := by
  unfold takeFactoryOf
  cases found : h.loader.plugins[n]?.bind LoadedPlugin.factory with
  | none => exact .none
  | some f =>
      obtain ⟨p, listed, made⟩ := Option.bind_eq_some_iff.mp found
      have lives := plugin_mem_living (List.mem_of_getElem? listed)
      exact take_deals (x := .factory f) (.copyFactory lives made)

/-- A place that is cleared. -/
theorem perm_of_cleared {held : List (Option Holding)} {n : Nat}
    {x : Holding} (there : held[n]? = some (some x)) :
    (held.filterMap id).Perm (x :: (held.set n none).filterMap id) := by
  induction held generalizing n with
  | nil => cases there
  | cons first rest ih =>
      cases n with
      | zero =>
          cases there
          exact .refl _
      | succ n =>
          cases first with
          | none => exact ih there
          | some y =>
              exact ((ih there).cons y).trans (.swap x y _)

theorem drop_deals (n : Nat) : Deals h.estate (h.drop n).estate := by
  unfold drop
  cases found : h.holding? n with
  | none => exact .none
  | some x =>
      have perm : h.living.Perm (x :: (h.loader.plugins.map .plugin
          ++ (h.held.set n none).filterMap id)) := by
        have cleared := perm_of_cleared (held_eq_of_holding? found)
        exact (cleared.append_left _).trans List.perm_middle
      exact .more (Deal.reorder perm).single (.drop rfl)

-- -------------------------------------------------------------- unloading

theorem dropPlugins_deals (plugins : List LoadedPlugin) (c : Custody)
    (handles : List ModuleId) (others : List Holding) :
    Deals ⟨c, handles, plugins.map .plugin ++ others⟩
      ⟨plugins.foldl (fun (c : Custody) p =>
          c.change p.moduleId fun s => s.dropPlugin p.factory.isSome) c,
        handles, others⟩ := by
  induction plugins generalizing c with
  | nil => exact .none
  | cons p rest ih =>
      have first : Deal ⟨c, handles, (p :: rest).map .plugin ++ others⟩
          ⟨c.change p.moduleId fun s => s.dropPlugin p.factory.isSome,
            handles, rest.map .plugin ++ others⟩ :=
        Deal.drop (x := .plugin p) rfl
      exact first.single.trans (ih _)

theorem releaseAll_deals (handles : List ModuleId) (c : Custody)
    (living : List Holding) :
    Deals ⟨c, handles, living⟩
      ⟨handles.foldl (fun (c : Custody) id => c.change id Shares.release) c,
        [], living⟩ := by
  induction handles generalizing c with
  | nil => exact .none
  | cons id rest ih =>
      have first : Deal ⟨c, id :: rest, living⟩
          ⟨c.change id Shares.release, rest, living⟩ := .release rfl
      exact first.single.trans (ih _)

theorem unload_deals : Deals h.estate h.unload.estate :=
  (dropPlugins_deals h.loader.plugins h.loader.custody h.loader.handles
    h.outside).trans (releaseAll_deals h.loader.handles _ h.outside)

-- ---------------------------------------------------------------- loading

theorem grown_deals {l l' : Loader} (held : List (Option Holding))
    (grown : l.Grown l') :
    Deals (Host.mk l held).estate (Host.mk l' held).estate := by
  cases grown with
  | same => exact .none
  | handle => exact Deal.handle.single
  | plugin path settings api factory =>
      let p : LoadedPlugin := ⟨path, l.custody.modules.length, api,
        factory.map fun f => ⟨path, l.custody.modules.length, f.maker⟩,
        settings⟩
      have own : ∀ f, p.factory = some f → f.moduleId = p.moduleId := by
        intro f made
        obtain ⟨_, _, rfl⟩ := Option.map_eq_some_iff.mp made
        rfl
      have isSome : p.factory.isSome = factory.isSome := Option.isSome_map
      have deal := Deal.plugin (e := (Host.mk l held).estate) p rfl own
      rw [isSome] at deal
      -- the plugin is listed behind those that were there
      refine .more deal.single (.reorder ?_)
      unfold living Loader.withPlugin
      rw [List.map_append, List.append_assoc]
      exact List.perm_middle.symm

theorem load_deals {files : Files} {backend : Backend} {l l' : Loader}
    {w w' : Surroundings} {cs : List Path} {statuses : List LoadStatus}
    (held : List (Option Holding))
    (course : l.Course files backend w cs statuses l' w') :
    Deals (Host.mk l held).estate (Host.mk l' held).estate :=
  course.induction
    (P := fun l₁ => Deals (Host.mk l held).estate (Host.mk l₁ held).estate)
    .none fun before grown => before.trans (grown_deals held grown)

-- ----------------------------------------------------------- any occasion

theorem runAmbient_load (h : Host) (files : Files) (backend : Backend)
    (path : Path) (w : Surroundings) :
    (h.step files backend (.load path)).runAmbient w
      = match (h.loader.load files backend path).runAmbient w with
        | (.returned (_, l'), w') => (.returned ⟨l', h.held⟩, w')
        | (.panicked p, w') => (.panicked p, w') := by
  unfold step load
  dsimp only
  rw [Program.bind_eq, Program.runAmbient_bind, Program.bind_eq,
    Program.runAmbient_bind]
  obtain ⟨ending, w'⟩ := (h.loader.load files backend path).runAmbient w
  cases ending <;> rfl

theorem runAmbient_takeClient {files : Files} {backend : Backend}
    {f : ClientFactory} {n : Nat}
    (found : (h.holding? n).bind Holding.factory? = some f)
    (channel : Channel) (w : Surroundings) :
    (h.step files backend (.takeClient n channel)).runAmbient w
      = match (f.create channel).runAmbient w with
        | (.returned (.ok c), w') =>
            (.returned (h.take (.client c) Shares.hold), w')
        | (.returned (.error _), w') => (.returned h, w')
        | (.panicked p, w') => (.panicked p, w') := by
  unfold step takeClient
  dsimp only
  rw [found]
  dsimp only
  rw [Program.bind_eq, Program.runAmbient_bind, Program.bind_eq,
    Program.runAmbient_bind]
  obtain ⟨ending, w'⟩ := (f.create channel).runAmbient w
  cases ending with
  | returned made => cases made <;> rfl
  | panicked p => rfl

/-- Whatever is done with a host, it is deals. -/
theorem after_deals (h : Host) (o : Occasion) :
    Deals h.estate (h.after o).estate := by
  obtain ⟨files, backend, w, op⟩ := o
  cases op with
  | load path =>
      unfold after
      rw [runAmbient_load]
      obtain ⟨result, cs, statuses, l', w', course, run⟩ | ⟨p, run⟩ :=
        h.loader.load_cases files backend path w
      · rw [run]
        exact load_deals h.held course
      · rw [run]
        exact .none
  | unload => exact unload_deals
  | takePlugin n => exact takePlugin_deals n
  | takeFactory n => exact takeFactory_deals n
  | takeFactoryOf n => exact takeFactoryOf_deals n
  | takeClient n channel =>
      unfold after
      cases found : (h.holding? n).bind Holding.factory? with
      | none =>
          have stays : h.step files backend (.takeClient n channel)
              = .done h := by
            unfold step takeClient
            dsimp only
            rw [found]
            rfl
          rw [stays]
          exact .none
      | some f =>
          obtain ⟨x, held, made⟩ := Option.bind_eq_some_iff.mp found
          have lives := mem_living_of_outside (mem_outside_of_holding? held)
          rw [runAmbient_takeClient found]
          rcases run : (f.create channel).runAmbient w with ⟨_ | p, w'⟩
          · next outcome =>
            cases outcome with
            | error e => exact .none
            | ok c =>
                have makes : f.Makes c := ⟨channel, w, w', run⟩
                exact take_deals (x := .client c)
                  (.client lives made makes)
          · exact .none
  | drop n => exact drop_deals n

theorem foldl_after_deals (occasions : List Occasion) (h : Host) :
    Deals h.estate (occasions.foldl after h).estate := by
  induction occasions generalizing h with
  | nil => exact .none
  | cons o rest ih => exact (h.after_deals o).trans (ih _)

/-- What is kept is kept in every run from the beginning. -/
theorem kept_foldl_after (config : LoaderConfig)
    (occasions : List Occasion) :
    (occasions.foldl after (ofLoader (.ofConfig config))).estate.Kept :=
  have start : (ofLoader (.ofConfig config)).estate.Kept := kept_empty
  start.deals (foldl_after_deals occasions _)

-- =========================================================== what is open

theorem hasHolder_iff (kept : h.estate.Kept) (id : ModuleId) :
    h.hasHolder id = true ↔ h.estate.Mentions id := by
  simp only [hasHolder, Bool.or_eq_true, List.any_eq_true, beq_iff_eq,
    List.contains_iff_mem, livingPlugins, livingFactories, livingClients,
    List.mem_filterMap]
  constructor
  · rintro (((handle | ⟨p, ⟨x, lives, of_x⟩, rfl⟩)
      | ⟨f, ⟨x, lives, of_x⟩, rfl⟩) | ⟨c, ⟨x, lives, of_x⟩, rfl⟩)
    · exact .inl handle
    · cases x with
      | plugin q => cases of_x; exact .inr ⟨_, lives, rfl⟩
      | factory _ | client _ => cases of_x
    · exact .inr ⟨x, lives, (kept.kin.own x lives f of_x).symm⟩
    · cases x with
      | client d => cases of_x; exact .inr ⟨_, lives, rfl⟩
      | plugin _ | factory _ => cases of_x
  · rintro (handle | ⟨x, lives, rfl⟩)
    · exact .inl (.inl (.inl handle))
    · cases x with
      | plugin p => exact .inl (.inl (.inr ⟨p, ⟨_, lives, rfl⟩, rfl⟩))
      | factory f => exact .inl (.inr ⟨f, ⟨_, lives, rfl⟩, rfl⟩)
      | client c => exact .inr ⟨c, ⟨_, lives, rfl⟩, rfl⟩

theorem isOpen_iff (kept : h.estate.Kept) (id : ModuleId) :
    h.isOpen id = true ↔ h.estate.Mentions id :=
  decide_eq_true_iff.trans (kept.holders_pos_iff id)

theorem isOpen_eq (kept : h.estate.Kept) (id : ModuleId) :
    h.isOpen id = h.hasHolder id := by
  rw [Bool.eq_iff_iff, hasHolder_iff kept, isOpen_iff kept]

theorem countP_eq_range {α : Type} (p : α → Bool) (l : List α) :
    l.countP p = (List.range l.length).countP fun i => l[i]?.any p := by
  induction l with
  | nil => rfl
  | cons a rest ih =>
      rw [List.length_cons, List.range_succ_eq_map, List.countP_cons,
        List.countP_cons, List.countP_map, ih]
      rfl

/-- The open modules are counted one by one. -/
theorem live_eq (h : Host) :
    h.loader.custody.live = (List.range h.opened).countP h.isOpen := by
  rw [Custody.live, countP_eq_range]
  refine List.countP_congr fun id _ => ?_
  unfold isOpen Custody.holders
  cases h.loader.custody.modules[id]? with
  | none => exact Iff.rfl
  | some s => exact Iff.rfl

/-- Behind an unloading there is what the callers hold. -/
theorem mentions_unload (id : ModuleId) :
    h.unload.estate.Mentions id ↔ ∃ x ∈ h.outside, x.moduleId = id := by
  constructor
  · rintro (handle | held)
    · cases handle
    · exact held
  · exact .inr

theorem countP_livingClients (id : ModuleId) :
    h.livingClients.countP (·.moduleId == id)
      = h.living.countP fun x => x.isClient && x.moduleId == id := by
  rw [livingClients, List.countP_filterMap]
  refine List.countP_congr fun x _ => ?_
  cases x <;> exact Iff.rfl

-- ========================================================== the lifetimes

/-- How long modules are open, and how often they are held. -/
structure Lifetimes (h : Host) : Prop where
  /-- A module is open as long as something holds it. -/
  open_while_held : ∀ id, h.isOpen id = h.hasHolder id
  live : h.loader.custody.live = (List.range h.opened).countP h.hasHolder
  /-- What is closed stays closed, whatever is done. -/
  closed_once : ∀ id, id < h.opened → h.isOpen id = false →
    ∀ later : List Occasion, (later.foldl after h).isOpen id = false
  clients : ∀ c ∈ h.livingClients, h.isOpen c.moduleId = true
  /-- Unloading closes what nobody else holds. -/
  unloading : ∀ id, h.isOpen id = true →
    (h.unload.isOpen id = false ↔ ∀ x ∈ h.outside, x.moduleId ≠ id)
  /-- A module is held by its living plugin, by the loader if it has the
  handle, by the plugin's factory if it has one, and by clients. -/
  refs : ∀ p ∈ h.livingPlugins,
    h.loader.custody.holders p.moduleId
      = 1 + (if p.moduleId ∈ h.loader.handles then 1 else 0)
        + (if p.factory.isSome then 1 else 0)
        + h.livingClients.countP (·.moduleId == p.moduleId)
  /-- The clients of a plugin's module were made by the plugin's
  factory. -/
  created : ∀ p ∈ h.livingPlugins, ∀ c ∈ h.livingClients,
    c.moduleId = p.moduleId → ∃ f, p.factory = some f ∧ f.Makes c

theorem mem_living_of_livingPlugins {p : LoadedPlugin}
    (lives : p ∈ h.livingPlugins) : .plugin p ∈ h.living := by
  obtain ⟨x, lives, of_x⟩ := List.mem_filterMap.mp lives
  cases x with
  | plugin q => cases of_x; exact lives
  | factory _ | client _ => cases of_x

theorem mem_living_of_livingClients {c : PluginClient}
    (lives : c ∈ h.livingClients) : .client c ∈ h.living := by
  obtain ⟨x, lives, of_x⟩ := List.mem_filterMap.mp lives
  cases x with
  | client d => cases of_x; exact lives
  | plugin _ | factory _ => cases of_x

/-- In every run, from a loader that has nothing, and at every time in it,
modules are open exactly as long as they are held. -/
theorem lifetimes (config : LoaderConfig) (occasions : List Occasion) :
    (occasions.foldl after (ofLoader (.ofConfig config))).Lifetimes := by
  have kept := kept_foldl_after config occasions
  generalize occasions.foldl after (ofLoader (.ofConfig config)) = h at kept
  have opens := isOpen_eq kept
  exact
    { open_while_held := opens
      live := by
        rw [live_eq]
        exact List.countP_congr fun id _ => by rw [opens]
      closed_once := by
        intro id old closed later
        have deals := foldl_after_deals later h
        refine Bool.eq_false_iff.mpr fun reopened => ?_
        have mentioned := (isOpen_iff (kept.deals deals) id).mp reopened
        have was_open :=
          (isOpen_iff kept id).mpr (deals.mentions kept old mentioned)
        rw [closed] at was_open
        cases was_open
      clients := fun c lives =>
        (isOpen_iff kept _).mpr
          (.inr ⟨_, mem_living_of_livingClients lives, rfl⟩)
      unloading := by
        intro id _
        rw [Bool.eq_false_iff, Ne, isOpen_iff (kept.deals unload_deals),
          mentions_unload]
        exact ⟨fun none x held same => none ⟨x, held, same⟩,
          fun others ⟨x, held, same⟩ => others x held same⟩
      refs := fun p lives => by
        rw [countP_livingClients]
        exact kept.holders_of_plugin (mem_living_of_livingPlugins lives)
      created := fun p plugin c client same =>
        kept.kin.stem p (mem_living_of_livingPlugins plugin) (.client c)
          (mem_living_of_livingClients client) same }

/-- A host that has loaded a module, taken its plugin and had a client
made, and what is done with it then. -/
def withClient (rest : List Op) : Host :=
  let client : Client := fun _ _ _ _ => .done ()
  let m : Module :=
    ⟨some (.done (.ofPackages [])),
      some fun _ => .done (.ok (.ofMaker fun _ => .done (.ok client)))⟩
  let channel : Channel :=
    { target := "here"
      credentials := .insecure
      outline := .word "here"
      unary := fun _ _ _ => .panic .nonText }
  let files : Files := fun p =>
    if p = ⟨"lib/a.so"⟩ then .file none else .nothing
  let ops :=
    .load ⟨"lib/a.so"⟩ :: .takePlugin 0 :: .takeClient 0 channel :: rest
  (ops.map fun op => ⟨files, fun _ => .ok m, .start, op⟩).foldl after
    (ofLoader (.ofConfig .default))

-- the handle, the plugin, its factory and the client
example : (withClient []).loader.custody.holders 0 = 4 := rfl

/-- The client alone keeps the module open. When it is gone the module is
closed, and never open again. -/
theorem lifetimes_of_client :
    (withClient [.unload, .drop 0]).isOpen 0 = true
      ∧ (withClient [.unload, .drop 0, .drop 1]).isOpen 0 = false
      ∧ ∀ later : List Occasion,
        (later.foldl after (withClient [.unload, .drop 0, .drop 1])).isOpen 0
          = false := by
  have closed : (withClient [.unload, .drop 0, .drop 1]).Lifetimes :=
    lifetimes _ _
  exact ⟨rfl, rfl, closed.closed_once 0 Nat.one_pos rfl⟩

end Host

end PluginRpc
