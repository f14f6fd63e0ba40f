/-
Sessions with a loader, from a script.

A session has a file tree, the modules of the script, a host with its
loader, and the reports of what was loaded so far. Its backend either
opens the modules that were registered under a path, whatever is in the
file, or the images that lie in the tree. A bare name is no path to an
image: it would be looked for elsewhere.

Each step shows something, and after each step it is told how many
plugins and handles the loader has, how many modules are open, and what
the step's parties noted.
-/
import PluginRpc.Greeter.Plugin
import PluginRpc.Plugin.Export
import PluginRpc.Plugin.Host
import PluginRpc.Rehearsal.FileTree
import PluginRpc.Rehearsal.Module

namespace PluginRpc.Rehearsal

/-- Where modules are opened. -/
inductive BackendScript where
  /-- The modules registered under paths, the latest first, by number. -/
  | registered (modules : List ModuleScript) (paths : List (Path × Nat))
  /-- The images in the tree. -/
  | images

/-- In a rehearsal the wording of others is left out. -/
instance : Greeter.Wording := ⟨fun _ _ => foreignDetail⟩

namespace BackendScript

/-- A module of the script is registered under a path. -/
def register (path : Path) (number : Nat) : BackendScript → BackendScript
  | registered modules paths => registered modules ((path, number) :: paths)
  | images => images

/-- The module of an image. -/
def moduleOf : Image → Module
  | .greeter => Greeter.plugin
  | .empty => .empty

/-- Opens modules. -/
def backend (t : FileTree) : BackendScript → Backend
  | registered modules paths => fun path =>
      let found := (paths.find? fun (p, _) => p.same path).bind fun (_, n) =>
        (modules[n]?).map fun m => m.opened n
      match found with
      | some m => .ok m
      | none => .error "no static module registered at this path"
  | images => fun path =>
      match t.image? path with
      | some image =>
          if path.segments.length < 2 then .error foreignDetail
          else .ok (moduleOf image)
      | none => .error foreignDetail

end BackendScript

-- ============================================================== sessions

/-- A session between two steps. -/
structure Session where
  host : Host
  tree : FileTree
  backend : BackendScript
  /-- The reports so far. -/
  reports : List LoadReport
  surroundings : Surroundings
  /-- The calls on the channels of held clients, by the client's number;
  only a loopback channel has a list of them. -/
  calls : List (Nat × List MethodPath)

/-- One step. -/
inductive SessionStep where
  | load (path : Path)
  | inspect (path : Path)
  | outcome (report : Nat) (path : Path)
  | exportAll
  | factories
  | config
  | unload
  | plugins
  | hold (plugin : Nat)
  | factory (held : Nat)
  | client (held : Nat) (channel : ChannelScript)
  | call (held : Nat) (script : CallScript)
  | calls (held : Nat)
  | shares (held : Nat)
  | drop (held : Nat)
  | showPlugin (plugin : Nat)
  | showLoader
  | write (path : Path) (node : Node)
  | remove (path : Path)
  | register (path : Path) (module : Nat)
  | configFile (path : Path)
  | settingsFile (path : Path)

/-- What a step shows. -/
inductive Shown where
  | nothing
  | report (r : Except LoadError LoadReport)
  | inspection (r : Except LoadError (LoadReport × Json))
  | outcome (o : Option LoadOutcome)
  | json (j : Json)
  | paths (paths : List Path)
  | config (c : Except ConfigError LoaderConfig)
  | settings (s : Except ConfigError (Option PluginSettings))
  /-- Plugins, each with the number of objects that hold its module. -/
  | plugins (plugins : List (LoadedPlugin × Nat))
  | outline (o : Outline)
  | refusal (e : ErrorInfo)
  | call (r : CallReport)
  | calls (calls : List MethodPath)
  | count (n : Nat)
  | panic (p : Panic)

namespace Session

/-- A session at its start. -/
def start (config : LoaderConfig) (tree : FileTree) (backend : BackendScript) :
    Session :=
  ⟨.ofLoader (.ofConfig config), tree, backend, [], .start, []⟩

variable (s : Session)

def loader : Loader := s.host.loader

/-- Runs a program; what is to be done with its answer, unless it
panics. -/
def perform {α : Type} (x : Program ambient α)
    (next : Session → α → Shown × Session) : Shown × Session :=
  let (ending, w) := x.runAmbient s.surroundings
  let s := { s with surroundings := w }
  match ending with
  | .returned a => next s a
  | .panicked p => (.panic p, s)

/-- A report is kept under the next number. -/
def keep (r : LoadReport) : Session := { s with reports := s.reports ++ [r] }

/-- The session with another loader. -/
def withLoader (l : Loader) : Session :=
  { s with host := { s.host with loader := l } }

/-- The calls on the channel of a held client, if it has a list of
them. -/
def callsOf (held : Nat) : Option (List MethodPath) :=
  ((s.host.holding? held).bind Holding.client?).bind fun _ => s.calls.lookup held

/-- A client on a channel is held under a number. -/
def connect (held : Nat) (channel : ChannelScript) : Session :=
  if channel.loopback?.isSome then { s with calls := s.calls ++ [(held, [])] }
  else s

/-- Makes a call through a held client. -/
def makeCall (held : Nat) (script : CallScript) : Shown × Session :=
  match (s.host.holding? held).bind Holding.client? with
  | none => (.nothing, s)
  | some c =>
      let (report, l) :=
        script.run c.client ⟨s.surroundings, (s.callsOf held).getD []⟩
      (.call report,
       { s with
         surroundings := l.surroundings
         calls := s.calls.map fun (n, calls) =>
           (n, if n = held then l.calls else calls) })

/-- How many objects hold the module of a held plugin. -/
def sharesOf (held : Nat) : Shown :=
  match s.host.holding? held with
  | some (.plugin p) => .count (s.loader.custody.holders p.moduleId)
  | _ => .nothing

/-- Does a step. -/
def run : SessionStep → Shown × Session
  | .load path =>
      s.perform (s.host.load s.tree.files (s.backend.backend s.tree) path)
        fun s (result, host) =>
          let s := { s with host := host }
          match result with
          | .ok r => (.report (.ok r), s.keep r)
          | .error e => (.report (.error e), s)
  | .inspect path =>
      s.perform
        (s.loader.inspect s.tree.files (s.backend.backend s.tree) path)
        fun s (result, l) =>
          let s := s.withLoader l
          match result with
          | .ok (r, j) => (.inspection (.ok (r, j)), s.keep r)
          | .error e => (.inspection (.error e), s)
  | .outcome report path =>
      (.outcome (s.reports[report]?.bind fun r => r.outcome? path), s)
  | .exportAll => (.json (exportPlugins s.loader.plugins), s)
  | .factories =>
      (.paths (s.loader.clientFactories.map ClientFactory.path), s)
  | .config => (.config (.ok s.loader.config), s)
  | .unload => (.nothing, { s with host := s.host.unload })
  | .plugins =>
      (.plugins (s.loader.plugins.map fun p =>
        (p, s.loader.custody.holders p.moduleId)), s)
  | .hold plugin => (.nothing, { s with host := s.host.takePlugin plugin })
  | .factory held =>
      match s.host.takeFactory held with
      | (some f, host) => (.outline f.outline, { s with host := host })
      | (none, host) => (.nothing, { s with host := host })
  | .client held channel =>
      let number := s.host.held.length
      s.perform (s.host.takeClient held channel.channel)
        fun s (result, host) =>
          let s := { s with host := host }
          match result with
          | some (.ok c) => (.outline c.outline, s.connect number channel)
          | some (.error e) => (.refusal e, s)
          | none => (.nothing, s)
  | .call held script => s.makeCall held script
  | .calls held =>
      match s.callsOf held with
      | some calls => (.calls calls, s)
      | none => (.nothing, s)
  | .shares held => (s.sharesOf held, s)
  | .drop held => (.nothing, { s with host := s.host.drop held })
  | .showPlugin plugin =>
      match s.loader.plugins[plugin]? with
      | some p => (.outline p.outline, s)
      | none => (.nothing, s)
  | .showLoader =>
      match s.backend with
      | .images => (.outline (s.loader.outline "LibloadingBackend"), s)
      | .registered .. => (.nothing, s)
  | .write path node => (.nothing, { s with tree := s.tree.write path node })
  | .remove path => (.nothing, { s with tree := s.tree.remove path })
  | .register path number =>
      (.nothing, { s with backend := s.backend.register path number })
  | .configFile path => (.config (LoaderConfig.ofFile s.tree.files path), s)
  | .settingsFile path => (.settings (PluginSettings.ofFile? s.tree.files path), s)

/-- How many modules are open, where that is known. -/
def live : Option Nat :=
  match s.backend with
  | .registered .. => some s.loader.custody.live
  | .images => none

end Session

/-- What a step showed, and what is to be known after it. -/
structure StepReport where
  shown : Shown
  plugins : Nat
  handles : Nat
  live : Option Nat
  notes : List Note

/-- Does one step after another. -/
def runSession (s : Session) : List SessionStep → List StepReport × Session
  | [] => ([], s)
  | step :: rest =>
      let (shown, s) := s.run step
      let (notes, w) := s.surroundings.takeJournal
      let s := { s with surroundings := w }
      let report : StepReport :=
        ⟨shown, s.loader.plugins.length, s.loader.handles.length, s.live, notes⟩
      let (reports, last) := runSession s rest
      (report :: reports, last)

/-- How many modules are open once everything is dropped, where that is
known. -/
def Session.liveAtEnd (s : Session) : Option Nat :=
  { s with host := s.host.dropAll }.live

end PluginRpc.Rehearsal
