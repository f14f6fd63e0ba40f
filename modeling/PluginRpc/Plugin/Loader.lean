/-
The loader: from a path to plugins.

A path names one module file or a directory of them. Each candidate is
taken for itself, and whatever goes wrong with one is its own outcome and
stops none of the others. A candidate's settings come first: a module
that is not enabled is not opened. An opened module must have a schema
entry that returns a schema of this build. A client factory is wanted but
not needed: without one the plugin offers its schema only, unless the
configuration asks for more; one of another build is an error all the
same.

A module that was opened stays open as long as the loader has its handle,
whether or not a plugin came of it. `unload` gives up everything that the
loader has, and nothing that others hold.

Loading is a program: it runs the entries of modules, and they may do
what any party may do with its surroundings.
-/
import PluginRpc.Plugin.Custody
import PluginRpc.Plugin.Module

namespace PluginRpc

-- =============================================================== plugins

/-- A module's client factory. -/
structure ClientFactory where
  path : Path
  moduleId : ModuleId
  maker : ClientMaker

def ClientFactory.outline (f : ClientFactory) : Outline :=
  .fields "ClientFactory" [("module", f.path.outline)] false

/-- What came of a module. -/
structure LoadedPlugin where
  path : Path
  moduleId : ModuleId
  api : PluginApi
  factory : Option ClientFactory
  settings : PluginSettings

namespace LoadedPlugin

variable (p : LoadedPlugin)

def packages : List PackageDecl := p.api.packages

def outline : Outline :=
  .record "LoadedPlugin"
    [("path", p.path.outline),
     ("packages", .list (p.packages.map fun d => .quoted d.name)),
     ("client_factory", .ofBool p.factory.isSome),
     ("settings", p.settings.outline)]

end LoadedPlugin

-- =============================================================== reports

/-- What became of a candidate. -/
inductive LoadStatus where
  | loaded
  /-- There is no client factory, and why. -/
  | schemaOnly (reason : String)
  /-- The settings say that the module is not enabled. -/
  | disabled
  | failed (e : LoadError)
deriving DecidableEq, Repr

/-- Whether a plugin came of it. -/
def LoadStatus.isRegistered : LoadStatus → Bool
  | loaded => true
  | schemaOnly _ => true
  | _ => false

/-- A candidate and what became of it. -/
structure LoadOutcome where
  path : Path
  status : LoadStatus
deriving DecidableEq, Repr

/-- The line of a report about a candidate. -/
def LoadOutcome.describe (o : LoadOutcome) : String :=
  match o.status with
  | .loaded => "[loaded] " ++ o.path.text ++ "\n"
  | .schemaOnly reason =>
      "[schema-only] " ++ o.path.text ++ ": " ++ reason ++ "\n"
  | .disabled => "[disabled] " ++ o.path.text ++ "\n"
  | .failed e => "[failed] " ++ o.path.text ++ ": " ++ e.message ++ "\n"

/-- The outcomes of the candidates of one path, in order. -/
structure LoadReport where
  outcomes : List LoadOutcome
deriving DecidableEq, Repr

namespace LoadReport

variable (r : LoadReport)

/-- How many plugins came of it. -/
def registered : Nat := r.outcomes.countP fun o => o.status.isRegistered

/-- The candidates that failed. -/
def failures : List (Path × LoadError) :=
  r.outcomes.filterMap fun o =>
    match o.status with
    | .failed e => some (o.path, e)
    | _ => none

/-- The first outcome of a path. -/
def outcome? (path : Path) : Option LoadOutcome :=
  r.outcomes.find? fun o => o.path.same path

def describe : String := String.join (r.outcomes.map LoadOutcome.describe)

end LoadReport

-- ================================================================ loader

/-- Opens the module at a path, or says why that cannot be. -/
abbrev Backend := Path → Except String Module

/-- A loader and what it has. -/
structure Loader where
  config : LoaderConfig
  /-- In the order in which they were registered. -/
  plugins : List LoadedPlugin
  /-- The opened modules, in the order in which they were opened. -/
  handles : List ModuleId
  custody : Custody

namespace Loader

/-- A loader that has nothing. -/
def ofConfig (config : LoaderConfig) : Loader := ⟨config, [], [], .empty⟩

variable (l : Loader)

-- ------------------------------------------------------- one candidate

/-- The hint for a module's client factory, as bytes that end at the
first zero: a hint with a zero in it is none. -/
def hint? (settings : PluginSettings) : Option Payload :=
  (settings.service.or l.config.defaultServiceHint).bind fun hint =>
    if hint.toList.contains '\x00' then none else some (.ofText hint)

/-- The absence of a client factory: an error, or the reason for offering
a schema only. -/
def degrade (e : LoadError) : Except LoadError (Except String FactoryExport) :=
  if l.config.requireClientFactory then .error e else .ok (.error e.message)

/-- The client factory of an opened module, or the reason for having
none. -/
def resolveFactory (path : Path) (m : Module) (settings : PluginSettings) :
    Program ambient (Except LoadError (Except String FactoryExport)) := do
  match m.factoryEntry? with
  | none => return l.degrade ⟨path, .missingEntry .clientFactory⟩
  | some entry =>
    match ← entry (l.hint? settings) with
    | none => return l.degrade ⟨path, .nullEntry .clientFactory⟩
    | some factory =>
      match factory.stamp.verify path with
      | .error e => return .error e
      | .ok () => return .ok (.ok factory)

/-- The schema of an opened module. -/
def resolveSchema (path : Path) (m : Module) :
    Program ambient (Except LoadError PluginApi) := do
  match m.schemaEntry? with
  | none => return .error ⟨path, .missingEntry .schema⟩
  | some entry =>
    match ← entry with
    | none => return .error ⟨path, .nullEntry .schema⟩
    | some api =>
      match api.stamp.verify path with
      | .error e => return .error e
      | .ok () => return .ok api

/-- A plugin is registered, with the shares that it and its factory have
in the module. -/
def register (path : Path) (id : ModuleId) (settings : PluginSettings)
    (api : PluginApi) (factory : Option FactoryExport) : Loader :=
  let plugin : LoadedPlugin :=
    ⟨path, id, api, factory.map fun f => ⟨path, id, f.maker⟩, settings⟩
  let shares := fun (s : Shares) =>
    if factory.isSome then s.makeFactory.makePlugin else s.makePlugin
  { l with
    plugins := l.plugins ++ [plugin]
    custody := l.custody.change id shares }

/-- What comes of a module that has been opened. -/
def enroll (path : Path) (id : ModuleId) (m : Module)
    (settings : PluginSettings) : Program ambient (LoadStatus × Loader) := do
  match ← resolveSchema path m with
  | .error e => return (.failed e, l)
  | .ok api =>
    match ← l.resolveFactory path m settings with
    | .error e => return (.failed e, l)
    | .ok (.error reason) =>
      return (.schemaOnly reason, l.register path id settings api none)
    | .ok (.ok factory) =>
      return (.loaded, l.register path id settings api (some factory))

/-- The loader with the handle of a module that is opened now. -/
def acquire : ModuleId × Loader :=
  let (id, custody) := l.custody.openModule
  (id, { l with handles := l.handles ++ [id], custody := custody })

/-- A configured extension that is none stops every loading. -/
def noExtension (extension : String) : Panic :=
  .message ("extension cannot contain path separators: "
    ++ Outline.quote extension)

/-- Loads the module file at a path. -/
def loadOne (files : Files) (backend : Backend) (path : Path) :
    Program ambient (LoadStatus × Loader) :=
  match l.config.settingsPath? path with
  | none => .panic (noExtension l.config.settingsExtension)
  | some settingsPath =>
    match PluginSettings.ofFile? files settingsPath with
    | .error e => return (.failed ⟨path, .settings e⟩, l)
    | .ok found =>
      let settings := found.getD .default
      if settings.enabled then
        match backend path with
        | .error detail =>
          return (.failed ⟨path, .unopened (.file detail)⟩, l)
        | .ok m =>
          let (id, l) := l.acquire
          l.enroll path id m settings
      else return (.disabled, l)

-- ------------------------------------------------------ all candidates

/-- The extension of module files. -/
def moduleExtension : Path.Segment := "so".toList

/-- The module files in a directory, in the order of their paths. -/
def candidates (files : Files) (directory : Path) (names : List String) :
    List Path :=
  let modules := (names.map directory.child).filter fun path =>
    (files path).isFile && path.extension? == some moduleExtension
  modules.mergeSort fun a b => a.order b != .gt

/-- Loads modules one after another. -/
def loadAll (files : Files) (backend : Backend) (l : Loader) :
    List Path → Program ambient (List LoadOutcome × Loader)
  | [] => return ([], l)
  | path :: rest => do
      let (status, l) ← l.loadOne files backend path
      let (outcomes, l) ← loadAll files backend l rest
      return (⟨path, status⟩ :: outcomes, l)

/-- Loads the module file or the directory at a path. -/
def load (files : Files) (backend : Backend) (path : Path) :
    Program ambient (Except LoadError LoadReport × Loader) := do
  match files path with
  | .nothing => return (.error ⟨path, .invalidPath⟩, l)
  | .file _ =>
    let (outcomes, l) ← l.loadAll files backend [path]
    return (.ok ⟨outcomes⟩, l)
  | .unlisted detail =>
    return (.error ⟨path, .unopened (.directory detail)⟩, l)
  | .directory names =>
    let (outcomes, l) ← l.loadAll files backend (candidates files path names)
    return (.ok ⟨outcomes⟩, l)

-- -------------------------------------------------------- what it has

/-- The client factories of the plugins, in their order. -/
def clientFactories : List ClientFactory := l.plugins.filterMap LoadedPlugin.factory

/-- Gives up everything that the loader has. -/
def unload : Loader :=
  let withoutPlugins := l.plugins.foldl (fun (c : Custody) p =>
    c.change p.moduleId fun s => s.dropPlugin p.factory.isSome) l.custody
  let custody := l.handles.foldl (fun (c : Custody) id =>
    c.change id Shares.release) withoutPlugins
  { l with plugins := [], handles := [], custody := custody }

/-- What is shown of a loader whose backend is shown as so. -/
def outline (backend : String) : Outline :=
  .record "PluginLoader"
    [("config", l.config.outline),
     ("backend", .word backend),
     ("plugins", .ofNat l.plugins.length),
     ("handles", .ofNat l.handles.length)]

end Loader

end PluginRpc
