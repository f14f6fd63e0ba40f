/-
A client on its way through the boundary of a module.

A host does not call a plugin's client itself: there is a fence around
it, put there when the client was made. Behind that fence a table's
client has one of its own around the handler. Nothing of this may show in
a call that goes as it should, and a call that goes wrong must not be
reported twice.

# One fence at work

The outer fence acts on a panic only, and then fails the response where
the client has left it. The client of a table never panics, whatever its
handlers do: what is behind its own fence cannot, and failing a response
does not. So the outer fence finds nothing to do, and the call is the very
call that the host would have made on the table.
-/
import PluginRpc.Plugin.Client
import PluginRpc.Greeter.Plugin
import PluginRpc.Proofs.Call.Failure
import PluginRpc.Proofs.Dispatch.Gates
import PluginRpc.Proofs.Plugin.Candidate

namespace PluginRpc

open CallProgram

-- ======================================================= the outer fence

namespace PluginClient

variable (p : PluginClient) (context : CallContext) (key : DispatchKey)
  (request : Record) (shape : ResponseShape) (st : CallState)

/-- A call through the fence is the call behind it; only a panic is made
into a failure of the response. -/
theorem run_client :
    run st (p.client context key request shape)
      = match run st (p.inner context key request shape) with
        | (.returned (), st') => (.returned (), st')
        | (.panicked q, st') =>
            run st' (fail shape (q.toError "plugin client"))
        | (.stalled, st') => (.stalled, st') := by
  unfold client
  rw [Program.bind_eq, run_bind, run_guard]
  rcases run st (p.inner context key request shape) with ⟨outcome, st'⟩
  cases outcome with
  | returned u => rfl
  | panicked q => rfl
  | stalled => rfl

theorem run_client_ne_panicked (q : Panic) :
    (run st (p.client context key request shape)).1 ≠ .panicked q := by
  rw [run_client]
  rcases run st (p.inner context key request shape) with ⟨outcome, st'⟩
  cases outcome with
  | returned u => nofun
  | panicked q' => exact run_fail_ne_panicked st' shape _ q
  | stalled => nofun

/-- Where there is no panic the fence is not there. -/
theorem run_client_of_calm
    (calm : ∀ q, (run st (p.inner context key request shape)).1
      ≠ .panicked q) :
    run st (p.client context key request shape)
      = run st (p.inner context key request shape) := by
  rw [run_client]
  rcases ran : run st (p.inner context key request shape) with ⟨outcome, st'⟩
  cases outcome with
  | returned u => rfl
  | panicked q => exact absurd (by rw [ran]) (calm q)
  | stalled => rfl

end PluginClient

-- ======================================================= the inner fence

namespace DispatchTable

variable (t : DispatchTable) (channel : Channel) (context : CallContext)
  (key : DispatchKey) (request : Record) (shape : ResponseShape)

theorem conclude_ne_panicked
    (ran : Outcome (Except ErrorInfo Unit) × CallState) (p : Panic) :
    (conclude shape ran).1 ≠ .panicked p := by
  obtain ⟨outcome, st⟩ := ran
  cases outcome with
  | returned result =>
      cases result with
      | ok u => exact run_ask_ne_panicked st .endStream p
      | error e => exact run_fail_ne_panicked st shape e p
  | panicked q => exact run_fail_ne_panicked st shape _ p
  | stalled => nofun

/-- A table's client lets no panic out. -/
theorem run_client_ne_panicked (st : CallState) (p : Panic) :
    (run st (t.client channel context key request shape)).1
      ≠ .panicked p := by
  rw [run_client]
  cases t.gate context key shape st.line.surroundings with
  | error e => exact run_fail_ne_panicked st.cleared shape e p
  | ok r => exact conclude_ne_panicked shape _ p

/-- A factory that exports a table makes clients whose calls are the
table's own. -/
theorem create_of_maker {f : ClientFactory} (exported : f.maker = t.maker)
    (w : Surroundings) :
    ∃ c : PluginClient, (f.create channel).runAmbient w = (.returned (.ok c), w)
      ∧ ∀ context key request shape st,
        run st (c.client context key request shape)
          = run st (t.client channel context key request shape) := by
  refine ⟨⟨f.path, f.moduleId, t.client channel⟩, ?_, ?_⟩
  · unfold ClientFactory.create
    rw [exported]
    rfl
  · intro context key request shape st
    exact PluginClient.run_client_of_calm _ _ _ _ _ _
      (t.run_client_ne_panicked channel context key request shape st)

end DispatchTable

-- ============================================================ the passage

/-- What a call through the fence comes to, given what the call behind it
comes to in the state `st`. -/
structure PluginClient.Passes (st : CallState)
    (inner outer : Outcome Unit × CallState) : Prop where
  /-- Nothing is thrown across the boundary. -/
  contained : ∀ q, outer.1 ≠ .panicked q
  /-- A call that does not panic is left alone. -/
  untouched : (∀ q, inner.1 ≠ .panicked q) → outer = inner
  /-- A call that panics fails the response, in the state in which the
  client has left everything. -/
  failed : ∀ q, inner.1 = .panicked q →
    outer = run inner.2 (fail st.response.shape
      (.internal ("plugin client panicked: " ++ q.detail)))
  /-- Where nobody has to wait, that is one failure more at the end of a
  stream that is live, none at the end of one that is not, and the error
  of a record. -/
  reported : ∀ q left, inner.1 = .panicked q →
    inner.2.response.Fails
      (.internal ("plugin client panicked: " ++ q.detail)) left →
    outer = (.returned (), { inner.2 with response := left })

theorem PluginClient.run_client_of_panicked (p : PluginClient)
    (context : CallContext) (key : DispatchKey) (request : Record)
    {shape : ResponseShape} {st : CallState} {q : Panic}
    (panicked : (run st (p.inner context key request shape)).1
      = .panicked q) :
    run st (p.client context key request shape)
      = run (run st (p.inner context key request shape)).2
          (fail shape (.internal ("plugin client panicked: " ++ q.detail))) := by
  rw [run_client]
  rcases ran : run st (p.inner context key request shape) with ⟨outcome, st'⟩
  rw [ran] at panicked
  cases panicked
  rfl

theorem PluginClient.passes (p : PluginClient) (context : CallContext)
    (key : DispatchKey) (request : Record) (st : CallState) :
    Passes st (run st (p.inner context key request st.response.shape))
      (run st (p.client context key request st.response.shape)) where
  contained := p.run_client_ne_panicked context key request _ st
  untouched := p.run_client_of_calm context key request _ st
  failed q panicked := p.run_client_of_panicked context key request panicked
  reported q left panicked fails := by
    -- the response has the shape that it had when the call began
    have shape := shape_run st (p.inner context key request st.response.shape)
    have failed := fails.run
    rw [shape] at failed
    exact (p.run_client_of_panicked context key request panicked).trans failed

/-- A client is the same on both sides of a module's boundary but for its
panics, whatever it does; and a client that comes of a table has none. So
where a module that exports a table is loaded, calls through the clients
of its plugin are the calls on the table itself. -/
theorem client_crosses_boundary :
    (∀ (p : PluginClient) (context : CallContext) (key : DispatchKey)
        (request : Record) (st : CallState),
      PluginClient.Passes st
        (run st (p.inner context key request st.response.shape))
        (run st (p.client context key request st.response.shape)))
      ∧ ∀ (t : DispatchTable) {l : Loader} {files : Files}
          {backend : Backend} {path : Path} {settings : PluginSettings}
          {m : Module} {api : PluginApi} {w w' w'' : Surroundings},
        l.Opens files backend path settings m →
        m.YieldsSchema w (.ours api) w' →
        m.YieldsFactory (l.config.hintFor settings) w'
          (.ours (.ofMaker t.maker)) w'' →
        ∃ l' plugin f,
          (l.loadOne files backend path).runAmbient w
              = (.returned (.loaded, l'), w'')
            ∧ l'.plugins = l.plugins ++ [plugin]
            ∧ plugin.factory = some f
            ∧ ∀ channel now, ∃ c : PluginClient,
              (f.create channel).runAmbient now = (.returned (.ok c), now)
                ∧ ∀ context key request shape st,
                  run st (c.client context key request shape)
                    = run st (t.client channel context key request shape) := by
  refine ⟨fun p => p.passes, ?_⟩
  intro t l files backend path settings m api w w' w'' opens schema factory
  have fate := Loader.Fate.loaded opens schema factory
  refine ⟨_, _, _, fate.run, rfl, rfl, fun channel now => ?_⟩
  exact t.create_of_maker channel rfl now

/-- The greeter, loaded from a file beside which there is nothing: its
plugin's clients make the calls of the greeter's table. -/
theorem client_crosses_boundary_of_greeter :
    let _ : Greeter.Wording := ⟨fun _ _ => "expected value at line 1 column 1"⟩
    ∃ t l' plugin f,
      Greeter.table = .ok t
        ∧ ((Loader.ofConfig .default).loadOne (fun _ => .nothing)
            (fun _ => .ok Greeter.plugin) ⟨"lib/a.so"⟩).runAmbient .start
          = (.returned (.loaded, l'), .start)
        ∧ l'.plugins = [plugin] ∧ plugin.factory = some f
        ∧ ∀ channel now, ∃ c : PluginClient,
          (f.create channel).runAmbient now = (.returned (.ok c), now)
            ∧ ∀ context key request shape st,
              run st (c.client context key request shape)
                = run st (t.client channel context key request shape) := by
  intro _
  have served : Greeter.table.isOk = true := by decide +kernel
  cases table : Greeter.table with
  | error e =>
      rw [table] at served
      cases served
  | ok t =>
      have made : Greeter.factory none = .ok t := by
        show Greeter.table.mapError RouteError.toError = .ok t
        rw [table]
        rfl
      have exported : Greeter.plugin.YieldsFactory
          (LoaderConfig.default.hintFor .default) .start
          (.ours (.ofMaker t.maker)) .start := by
        refine .ours rfl ?_ rfl
        show (Program.done ((Greeter.factory none).map fun t =>
          FactoryExport.ofMaker t.maker)).runAmbient .start = _
        rw [made]
        rfl
      have opens : (Loader.ofConfig .default).Opens (fun _ => .nothing)
          (fun _ => .ok Greeter.plugin) ⟨"lib/a.so"⟩ .default
          Greeter.plugin := ⟨.absent rfl rfl, rfl, rfl⟩
      obtain ⟨l', plugin, f, loaded, plugins, factory, calls⟩ :=
        client_crosses_boundary.2 t opens (.ours rfl rfl rfl) exported
      exact ⟨t, l', plugin, f, rfl, loaded, plugins, factory, calls⟩

end PluginRpc
