import AppManager.ProjectInvariant
import AppManager.FailureDetector
import Mathlib.Algebra.BigOperators.Group.List

namespace AppManager

/-!
# AppManager — the coroutines of the event loop, interleaved

Tornado runs every coroutine of the instance manager on one thread, without interruption
from one `yield` on an unfinished future to the next.  A `World` is the node together with
the coroutines suspended at such a `yield` and the projects model; an `Event` is a request
arriving, an awaited future resolving (a fetch finishing, Monit answering, a probe
answering), a suspended coroutine being resumed, the projects model changing, or the
`PeriodicCallback` of `stop_failed_instances` firing.  Between two events a coroutine runs one
of the segments of `AppManager.Handlers`.  The failure detector's ticks are coroutines of the
same loop: a tick waits on HAProxy, then iterates `running_instances` and yields on the
`stop_app_instance` of each failed instance, which runs as a request's stop does and resumes
the tick when it ends; the callback fires again without waiting for a tick to end.

* `step` and `run` — one event, and a list of them; `serial` — requests handled alone, one
  after another;
* `Retracts` and `Keeps` — what every segment but `ensure_source`, `clean_old_sources` and
  `add_routing` may do to the node: drop instances, delete registry children, and change
  Monit, `api_servers` and the version nodes;
* `step_node_cases` — what one event can do to the node; `step_addRouting_mem` — a pending
  probe was pending before, or was spawned by the `start_app` that started its watch;
* `run_drains` — from every world, some run ends every suspended coroutine;
* `serial_is_run` — the handlers of `AppManager.Handlers` run one after another are runs of
  the event loop in which no two requests interleave;
* `run_tick_alone` — a tick of the failure detector with nothing interleaved, as
  `AppManager.FailureDetector` models it, is a run of the event loop too.
-/

/-- A stop request, by what it selects. -/
inductive StopOp
  | app (versionKey : Str)
  | appInstance (versionKey : Str) (port : Int)
deriving DecidableEq, Repr

/-- Who waits for a stop to end: the request's handler, which replies, or the failure
    detector's loop, which goes on with its next instance. -/
inductive Caller
  | request
  /-- `stop_failed_instances`, in its loop over a set of `size` instances with the failed
      pairs `failed`. -/
  | tick (failed : List (Str × Int)) (size : Nat)
deriving DecidableEq, Repr

/-- A coroutine suspended at a `yield`, with the locals it holds.  A task waiting on Monit
    holds Monit's answer once it has come (`some`), and is resumed after that. -/
inductive Task
  /-- `start_app` waiting on `source_manager.ensure_source`. -/
  | startFetching (l : StartLocals)
  /-- `start_app` whose `ensure_source` has finished, not yet resumed. -/
  | startFetched (l : StartLocals)
  /-- `add_routing(instance)` waiting on `wait_on_app`. -/
  | addRouting (i : Instance)
  /-- `stop_app` or `stop_app_instance` waiting on `monit_operator.get_entries()`. -/
  | stopListing (op : StopOp) (entries : Option (List Str)) (caller : Caller)
  /-- A stop waiting on `monit_operator.reload()`. -/
  | stopReloading (reloaded : Bool) (caller : Caller)
  /-- The `clean_old_sources` of a stop, waiting on its `get_entries()`. -/
  | cleanListing (entries : Option (List Str)) (caller : Caller)
  /-- `populate_api_servers` waiting on its `get_entries()`. -/
  | populateListing (entries : Option (List Str))
  /-- `stop_failed_instances` waiting on the HAProxy stats `get_failed_instances` fetches. -/
  | tickFetching
  /-- `stop_failed_instances` whose `get_failed_instances` has returned `failed`, not yet
      resumed: its loop has not begun. -/
  | tickFetched (failed : List (Str × Int))
  /-- `stop_failed_instances` whose `stop_app_instance` has ended, not yet resumed, in its
      loop over a set of `size` instances. -/
  | tickStopped (failed : List (Str × Int)) (size : Nat)
deriving DecidableEq, Repr

/-- The node, the suspended coroutines, and the projects model the handlers read. -/
structure World where
  node : Node
  tasks : List Task
  /-- `projects_manager`, which ZooKeeper keeps up to date. -/
  projects : Projects
deriving DecidableEq, Repr

/-- A request of the HTTP surface. -/
inductive Request
  /-- `POST /versions/{version_key}`. -/
  | startApp (versionKey : Str) (config : StartConfig)
  /-- `DELETE /versions/{version_key}`. -/
  | stopApp (versionKey : Str)
  /-- `DELETE /versions/{version_key}/{port}`. -/
  | stopAppInstance (versionKey : Str) (port : Int)
deriving DecidableEq, Repr

/-- What happens next on the event loop. -/
inductive Event
  /-- A request arrives; its handler runs to its first `yield`. -/
  | arrive (r : Request)
  /-- The `ensure_source` of a `start_app` finishes: the source is on disk, or the fetch
      failed. -/
  | sourceFetched (l : StartLocals) (ok : Bool)
  /-- Monit answers the request a task waits on. -/
  | monitAnswered (t : Task)
  /-- A task whose future has resolved runs to its next `yield` or its end. -/
  | resume (t : Task)
  /-- The probe of `add_routing(i)` answers, and `add_routing` runs to its end. -/
  | probeAnswered (i : Instance) (ready : Bool)
  /-- The projects model changes, for instance on a redeploy. -/
  | projectsChanged (projects : Projects)
  /-- The `PeriodicCallback` runs `stop_failed_instances` up to the `yield` on HAProxy's stats
      in `get_failed_instances`, whether or not an earlier tick has ended. -/
  | tick
  /-- HAProxy answers a tick's request: `none` when the fetch or the decoding of its body
      raises, which ends the tick; otherwise `get_failed_instances` returns the failed pairs
      of the stats. -/
  | statsAnswered (stats : Option (List ProxyStats))
  /-- A tick whose future has resolved is resumed in its `for` loop, which passes over the
      instances that are not failed and yields on the `stop_app_instance` of the next failed
      one, `next`, or ends (`none`).  Which instance comes next, in a set that may have
      changed while the tick was suspended, is CPython's hash-table order, which the model
      leaves open: any live failed instance. -/
  | resumeLoop (t : Task) (next : Option Instance)
deriving DecidableEq, Repr

variable (D : Deployment) (ext : Ext)

/-! ### The step function -/

/-- The version key a stop request names. -/
def StopOp.versionKey : StopOp → Str
  | .app vk => vk
  | .appInstance vk _ => vk

/-- The stop request itself. -/
def StopOp.request : StopOp → Request
  | .app vk => .stopApp vk
  | .appInstance vk port => .stopAppInstance vk port

/-- A stop handler on the entries `get_entries` returned, up to its `yield` on `reload`. -/
def StopOp.onEntries (op : StopOp) (entries : List Str) : Py Unit :=
  match op with
  | .app vk => stopAppEntries D ext vk entries
  | .appInstance vk port => stopAppInstanceEntries D ext vk port entries

/-- A stop handler past its first `yield`, with nothing interleaved: the entries
    `get_entries` returns, `reload`, and `clean_old_sources`. -/
def StopOp.afterBegin (op : StopOp) (projects : Projects) : Py Unit := do
  op.onEntries D ext (← get).monit.watches
  modify (·.withMonit Monit.reload)
  cleanOldSources D projects (← get).monit.watches

/-- The world after a segment that ran on its node: the segment's continuation joins the
    other tasks when it returned, and the coroutine is over when it raised. -/
def World.continueWith {α : Type} (w : World) (rest : List Task) (r : EStateM.Result Err Node α)
    (k : α → List Task) : World :=
  match r with
  | .ok a s => { w with node := s, tasks := rest ++ k a }
  | .error _ s => { w with node := s, tasks := rest }

/-- A request's handler up to its first `yield`. -/
def arrive (w : World) : Request → World
  | .startApp vk config =>
    w.continueWith w.tasks (startAppBegin D ext w.projects vk config w.node) fun l => [.startFetching l]
  | .stopApp vk =>
    w.continueWith w.tasks (stopAppBegin D vk w.node) fun _ => [.stopListing (.app vk) none .request]
  | .stopAppInstance vk port =>
    w.continueWith w.tasks (stopAppBegin D vk w.node) fun _ =>
      [.stopListing (.appInstance vk port) none .request]

/-- Monit's answer to a waiting task: `get_entries` lists the watches as they are when Monit
    answers, and `reload` takes effect. -/
def answer (s : Node) : Task → Option (Node × Task)
  | .stopListing op none c => some (s, .stopListing op (some s.monit.watches) c)
  | .stopReloading false c => some (s.withMonit Monit.reload, .stopReloading true c)
  | .cleanListing none c => some (s, .cleanListing (some s.monit.watches) c)
  | .populateListing none => some (s, .populateListing (some s.monit.watches))
  | _ => none

/-- The tasks a stop's caller goes on with once the stop has ended: none for a request,
    whose handler replies, and the failure detector's loop, to be resumed. -/
def Caller.resumes : Caller → List Task
  | .request => []
  | .tick failed size => [.tickStopped failed size]

/-- A task whose future has resolved, resumed; `none` when it is still waiting. -/
def resume (w : World) (rest : List Task) : Task → Option World
  | .startFetched l => some (w.continueWith rest (startAppFinish D ext l w.node) fun _ => [.addRouting l.instance])
  | .stopListing op (some entries) c =>
    some (w.continueWith rest (op.onEntries D ext entries w.node) fun _ => [.stopReloading false c])
  | .stopReloading true c => some { w with tasks := rest ++ [.cleanListing none c] }
  | .cleanListing (some entries) c =>
    some (w.continueWith rest (cleanOldSources D w.projects entries w.node) fun _ => c.resumes)
  | .populateListing (some entries) =>
    some (w.continueWith rest (populateApiServers entries w.node) fun _ => [])
  | _ => none

/-- The failure detector's loop, resumed, up to its next `yield` or its end: the set
    iterator's size check (`setIterNext`), then the end of the iteration (`none`), or the
    first segment of `stop_app_instance` for the live failed instance `i`, which the tick
    waits on.  An exception ends the tick. -/
def loopNext (w : World) (rest : List Task) (failed : List (Str × Int)) (size : Nat) :
    Option Instance → Option World
  | none => some (w.continueWith rest (setIterNext size w.node) fun _ => [])
  | some i =>
    if i ∈ w.node.runningInstances ∧ (i.versionKey D, i.port) ∈ failed then
      some (w.continueWith rest ((setIterNext size >>= fun _ => stopAppBegin D (i.versionKey D)) w.node)
        fun _ => [.stopListing (.appInstance (i.versionKey D) i.port) none (.tick failed size)])
    else none

/-- A tick resumed in its loop: the loop begins, over the set's size at that moment, once
    `get_failed_instances` has returned, and goes on once a `stop_app_instance` has ended. -/
def resumeLoop (w : World) (rest : List Task) (next : Option Instance) : Task → Option World
  | .tickFetched failed => loopNext D w rest failed w.node.runningInstances.length next
  | .tickStopped failed size => loopNext D w rest failed size next
  | _ => none

/-- One event; `none` when it cannot happen (no task waits for it). -/
def step (w : World) : Event → Option World
  | .arrive r => some (arrive D ext w r)
  | .sourceFetched l ok =>
    if Task.startFetching l ∈ w.tasks then
      some (w.continueWith (w.tasks.erase (.startFetching l)) (fetchSource ok l.revisionKey w.node)
        fun _ => [.startFetched l])
    else none
  | .monitAnswered t =>
    if t ∈ w.tasks then
      (answer w.node t).map fun a => { w with node := a.1, tasks := w.tasks.erase t ++ [a.2] }
    else none
  | .resume t => if t ∈ w.tasks then resume D ext w (w.tasks.erase t) t else none
  | .probeAnswered i ready =>
    if Task.addRouting i ∈ w.tasks then
      some (w.continueWith (w.tasks.erase (.addRouting i)) (addRouting D ready i w.node) fun _ => [])
    else none
  | .projectsChanged p => some { w with projects := p }
  | .tick => some { w with tasks := w.tasks ++ [.tickFetching] }
  | .statsAnswered stats =>
    if Task.tickFetching ∈ w.tasks then
      some { w with tasks := w.tasks.erase .tickFetching ++
        stats.toList.map fun st => .tickFetched (getFailedInstances D st) }
    else none
  | .resumeLoop t next => if t ∈ w.tasks then resumeLoop D w (w.tasks.erase t) next t else none

/-- A run: the events one after another. -/
def run : World → List Event → Option World
  | w, [] => some w
  | w, e :: es => (step D ext w e).bind fun w' => run w' es

@[simp] theorem run_nil (w : World) : run D ext w [] = some w := rfl

theorem run_cons_eq_some {w w' : World} {e : Event} {es : List Event}
    (h : run D ext w (e :: es) = some w') : ∃ w₁, step D ext w e = some w₁ ∧ run D ext w₁ es = some w' :=
  Option.bind_eq_some.1 h

/-- A run of two lists of events: the first, then the second from where it ended. -/
theorem run_append {w : World} (es es' : List Event) :
    run D ext w (es ++ es') = (run D ext w es).bind fun w' => run D ext w' es' := by
  induction es generalizing w with
  | nil => rfl
  | cons e es ih =>
    simp only [List.cons_append, run]
    cases step D ext w e with
    | none => rfl
    | some w₁ => exact ih

@[simp] theorem projects_continueWith {α : Type} (w : World) (rest : List Task)
    (r : EStateM.Result Err Node α) (k : α → List Task) : (w.continueWith rest r k).projects = w.projects := by
  cases r <;> rfl

@[simp] theorem node_continueWith {α : Type} (w : World) (rest : List Task)
    (r : EStateM.Result Err Node α) (k : α → List Task) : (w.continueWith rest r k).node = Py.after r := by
  cases r <;> rfl

theorem mem_tasks_continueWith {α : Type} {w : World} {rest : List Task}
    {r : EStateM.Result Err Node α} {k : α → List Task} {t : Task}
    (h : t ∈ (w.continueWith rest r k).tasks) : t ∈ rest ∨ ∃ a, t ∈ k a := by
  cases r with
  | ok a s => exact (List.mem_append.1 h).imp_right fun h => ⟨a, h⟩
  | error e s => exact .inl h

/-- A request handled alone, every awaited call completing at once: `ensure_source`
    succeeding when `fetchOk`, and the probe of the spawned `add_routing` answering `ready`. -/
def Request.handle (projects : Projects) (fetchOk ready : Bool) : Request → Py Unit
  | .startApp vk config => AppManager.startApp D ext projects fetchOk ready vk config
  | .stopApp vk => AppManager.stopApp D ext projects vk
  | .stopAppInstance vk port => AppManager.stopAppInstance D ext projects vk port

/-- A serial execution: the requests handled one after another, in list order, with the
    outcomes `fetchOk` and `ready` of each request's fetch and probe. -/
def serial (projects : Projects) (fetchOk ready : Request → Bool) (rs : List Request) (s : Node) : Node :=
  rs.foldl (fun s r => Py.after (r.handle D ext projects (fetchOk r) (ready r) s)) s

/-! ### What the segments change -/

/-- What a segment that neither registers an instance nor touches the sources on disk may do:
    drop instances from `running_instances`, delete registry children, and change Monit,
    `api_servers` and the version nodes. -/
structure Retracts (s s' : Node) : Prop where
  running : ∀ j ∈ s'.runningInstances, j ∈ s.runningInstances
  registry : ∀ v e, s.registry.get v e = none → s'.registry.get v e = none
  sources : s'.sources = s.sources

theorem Retracts.refl (s : Node) : Retracts s s := ⟨fun _ h => h, fun _ _ h => h, rfl⟩

theorem Retracts.trans {a b c : Node} (h₁ : Retracts a b) (h₂ : Retracts b c) : Retracts a c :=
  ⟨fun j h => h₁.running j (h₂.running j h), fun v e h => h₂.registry v e (h₁.registry v e h),
    h₂.sources.trans h₁.sources⟩

/-- A segment that leaves `running_instances`, the registry children and the sources alone
    retracts. -/
theorem Retracts.of_eq {s s' : Node} (h₁ : s'.runningInstances = s.runningInstances)
    (h₂ : s'.registry.nodes = s.registry.nodes) (h₃ : s'.sources = s.sources) : Retracts s s' :=
  ⟨fun j h => h₁ ▸ h, fun v e h => by rwa [Registry.get, h₂], h₃⟩

/-- Every run of the segment, returning or raising, retracts. -/
def Keeps {α : Type} (x : Py α) : Prop := ∀ s, Retracts s (Py.after (x s))

theorem keeps_pure {α : Type} (a : α) : Keeps (pure a : Py α) := Retracts.refl

theorem keeps_throw {α : Type} (e : Err) : Keeps (throw e : Py α) := Retracts.refl

theorem keeps_modify {f : Node → Node} (h : ∀ s, Retracts s (f s)) : Keeps (modify f : Py Unit) := h

theorem keeps_bind {α β : Type} {x : Py α} {f : α → Py β} (hx : Keeps x) (hf : ∀ a, Keeps (f a)) :
    Keeps (x >>= f) := by
  intro s
  have hs := hx s
  cases h : x s with
  | ok a s' => rw [h] at hs; rw [Py.bind_ok h]; exact hs.trans (hf a s')
  | error e s' => rw [h] at hs; rw [Py.bind_error h]; exact hs

theorem keeps_unmonitorAndTerminate (w : Str) : Keeps (unmonitorAndTerminate ext w) := by
  intro s
  rcases unmonitorAndTerminate_cases ext w s with h | h | ⟨e, h⟩ <;> rw [h] <;>
    exact .of_eq rfl rfl rfl

theorem keeps_ensureApiServer (P : Str) : Keeps (ensureApiServer ext P) := by
  intro s
  unfold ensureApiServer
  split
  · exact Retracts.refl s
  · dsimp only
    split <;> exact .of_eq rfl rfl rfl

theorem keeps_stopApiServer (P : Str) : Keeps (stopApiServer ext P) := by
  intro s
  unfold stopApiServer
  split
  · exact Retracts.refl s
  · rcases unmonitorAndTerminate_cases ext (apiServerWatch P _) s with h | h | ⟨e, h⟩ <;>
      rw [h] <;> exact .of_eq rfl rfl rfl

/-- `unregister_instance` retracts. -/
theorem Retracts.unregister (s : Node) (i : Instance) : Retracts s (s.unregister D i) where
  running j h := List.mem_of_mem_erase h
  registry v e h := by
    simp only [Node.unregister, Registry.get_delete]
    split <;> simp [h]
  sources := rfl

theorem keeps_stopEntries (entries : List Str) : Keeps (stopEntries D ext entries) := by
  induction entries with
  | nil => exact keeps_pure ()
  | cons entry entries ih =>
    unfold stopEntries
    split
    · exact keeps_bind (keeps_modify (Retracts.unregister D · _)) fun _ =>
        keeps_bind (keeps_unmonitorAndTerminate ext entry) fun _ => ih
    · exact keeps_throw _

theorem keeps_stopAppEntries (vk : Str) (entries : List Str) :
    Keeps (stopAppEntries D ext vk entries) := by
  unfold stopAppEntries
  refine keeps_bind (keeps_stopEntries D ext _) fun _ => ?_
  dsimp only
  split
  · exact keeps_stopApiServer ext _
  · exact keeps_pure _

theorem keeps_stopAppInstanceEntries (vk : Str) (port : Int) (entries : List Str) :
    Keeps (stopAppInstanceEntries D ext vk port entries) := by
  unfold stopAppInstanceEntries
  split
  · split
    · refine keeps_bind (keeps_modify (Retracts.unregister D · _)) fun _ =>
        keeps_bind (keeps_unmonitorAndTerminate ext _) fun _ => ?_
      dsimp only
      split
      · exact keeps_stopApiServer ext _
      · exact keeps_pure _
    · exact keeps_throw _
  · exact keeps_throw _

theorem keeps_onEntries (op : StopOp) (entries : List Str) : Keeps (op.onEntries D ext entries) := by
  cases op
  · exact keeps_stopAppEntries D ext _ _
  · exact keeps_stopAppInstanceEntries D ext _ _ _

theorem keeps_stopAppBegin (vk : Str) : Keeps (stopAppBegin D vk) := by
  unfold stopAppBegin
  split
  · exact keeps_throw _
  · exact keeps_pure _

theorem keeps_populateApiServers (entries : List Str) : Keeps (populateApiServers entries) := by
  unfold populateApiServers
  split
  · exact keeps_modify fun s => .of_eq rfl rfl rfl
  · exact keeps_throw _

theorem keeps_startAppBegin (projects : Projects) (vk : Str) (config : StartConfig) :
    Keeps (startAppBegin D ext projects vk config) := fun s => by
  rcases startAppBegin_spec D ext projects vk config s with ⟨_, h⟩ | ⟨_, h⟩ | ⟨_, h, -⟩ <;> rw [h]
  · exact Retracts.refl s
  all_goals exact keeps_ensureApiServer ext _ s

theorem keeps_startAppFinish (l : StartLocals) : Keeps (startAppFinish D ext l) := fun s => by
  rcases startAppFinish_cases D ext l s with ⟨_, h⟩ | ⟨_, h⟩ | h <;> rw [h] <;> exact .of_eq rfl rfl rfl

/-! ### What one event does -/

/-- `ensure_source` finishing adds the source when the fetch succeeded. -/
theorem fetchSource_after (ok : Bool) (rk : Str) (s : Node) :
    Py.after (fetchSource ok rk s) = if ok then { s with sources := s.sources.insert rk } else s := by
  cases ok <;> rfl

/-- `add_routing` registers the instance when the probe reported ready and the version node
    exists, and changes nothing otherwise. -/
theorem addRouting_after (ready : Bool) (i : Instance) (s : Node) :
    Py.after (addRouting D ready i s) =
      if ready ∧ i.versionKey D ∈ s.registry.versions then s.register D i else s := by
  by_cases h : i.versionKey D ∈ s.registry.versions <;> cases ready <;>
    simp [addRouting, registerInstance, h] <;> rfl

theorem answer_retracts {s s' : Node} {t t' : Task} (h : answer s t = some (s', t')) : Retracts s s' := by
  unfold answer at h
  split at h <;> cases h
  all_goals exact .of_eq rfl rfl rfl

/-- The failure detector's loop changes nothing on the node: the size check and the checks of
    `stop_app_instance`'s first segment only read it. -/
theorem loopSegment_after (size : Nat) (vk : Str) (s : Node) :
    Py.after ((setIterNext size >>= fun _ => stopAppBegin D vk) s) = s := by
  by_cases hs : s.runningInstances.length = size
  · rw [Py.bind_ok (setIterNext_of_size hs)]
    rcases stopAppBegin_cases D vk s with h | ⟨_, h⟩ <;> rw [h] <;> rfl
  · rw [Py.bind_error (show setIterNext size s = _ from if_neg hs)]
    rfl

theorem setIterNext_after (size : Nat) (s : Node) : Py.after (setIterNext size s) = s := by
  unfold setIterNext
  split <;> rfl

@[simp] theorem addRouting_not_mem_resumes (c : Caller) (j : Instance) :
    Task.addRouting j ∉ c.resumes := by
  cases c <;> simp [Caller.resumes]

section Events

variable {D ext} {w w' : World} {e : Event}

section Loop

variable {rest : List Task} {failed : List (Str × Int)} {size : Nat} {next : Option Instance}
  {t : Task}

theorem loopNext_node (h : loopNext D w rest failed size next = some w') :
    w'.node = w.node ∧ w'.projects = w.projects := by
  cases next with
  | none =>
    cases h
    exact ⟨by simp [setIterNext_after], by simp⟩
  | some i =>
    simp only [loopNext] at h
    split at h <;> cases h
    exact ⟨by simp [loopSegment_after], by simp⟩

/-- What the loop leaves pending: the tasks it did not resume, and the stop it started. -/
theorem loopNext_tasks {t' : Task} (h : loopNext D w rest failed size next = some w')
    (ht : t' ∈ w'.tasks) : t' ∈ rest ∨ ∃ op c, t' = .stopListing op none c := by
  cases next with
  | none =>
    cases h
    exact .inl ((mem_tasks_continueWith ht).resolve_right (by simp))
  | some i =>
    simp only [loopNext] at h
    split at h <;> cases h
    rcases mem_tasks_continueWith ht with ht | ⟨_, ht⟩
    · exact .inl ht
    · exact .inr ⟨_, _, List.mem_singleton.1 ht⟩

theorem resumeLoop_node (h : resumeLoop D w rest next t = some w') :
    w'.node = w.node ∧ w'.projects = w.projects := by
  unfold resumeLoop at h
  split at h
  all_goals first | exact loopNext_node h | cases h

theorem resumeLoop_tasks {t' : Task} (h : resumeLoop D w rest next t = some w')
    (ht : t' ∈ w'.tasks) : t' ∈ rest ∨ ∃ op c, t' = .stopListing op none c := by
  unfold resumeLoop at h
  split at h
  all_goals first | exact loopNext_tasks h ht | cases h

end Loop

theorem resume_node_cases {rest : List Task} {t : Task} (h : resume D ext w rest t = some w') :
    (Retracts w.node w'.node ∧ w'.projects = w.projects) ∨
      ∃ entries c, t = .cleanListing (some entries) c ∧
        w'.node = Py.after (cleanOldSources D w.projects entries w.node) ∧ w'.projects = w.projects := by
  unfold resume at h
  split at h <;> cases h
  · exact .inl ⟨by simpa using keeps_startAppFinish D ext _ w.node, by simp⟩
  · exact .inl ⟨by simpa using keeps_onEntries D ext _ _ w.node, by simp⟩
  · exact .inl ⟨Retracts.refl _, rfl⟩
  · exact .inr ⟨_, _, rfl, node_continueWith _ _ _ _, by simp⟩
  · exact .inl ⟨by simpa using keeps_populateApiServers _ w.node, by simp⟩

/-- **What one event does to the node.**  It retracts, or it is a fetch finishing, a
    `clean_old_sources` deleting inactive sources, a pending probe answering, or the projects
    model changing.  The failure detector's events retract: its stops run as a request's. -/
theorem step_node_cases (h : step D ext w e = some w') :
    (Retracts w.node w'.node ∧ w'.projects = w.projects) ∨
    (∃ l ok, e = .sourceFetched l ok ∧
      w'.node = Py.after (fetchSource ok l.revisionKey w.node) ∧ w'.projects = w.projects) ∨
    (∃ entries c, e = .resume (.cleanListing (some entries) c) ∧
      w'.node = Py.after (cleanOldSources D w.projects entries w.node) ∧ w'.projects = w.projects) ∨
    (∃ i ready, e = .probeAnswered i ready ∧ Task.addRouting i ∈ w.tasks ∧
      w'.node = Py.after (addRouting D ready i w.node) ∧ w'.projects = w.projects) ∨
    (∃ p, e = .projectsChanged p ∧ w'.node = w.node) := by
  cases e with
  | arrive r =>
    cases h
    refine .inl ⟨?_, by cases r <;> simp [arrive]⟩
    cases r
    · simpa [arrive] using keeps_startAppBegin D ext _ _ _ w.node
    · simpa [arrive] using keeps_stopAppBegin D _ w.node
    · simpa [arrive] using keeps_stopAppBegin D _ w.node
  | sourceFetched l ok =>
    simp only [step] at h
    split at h <;> cases h
    exact .inr (.inl ⟨l, ok, rfl, by simp, by simp⟩)
  | monitAnswered t =>
    simp only [step] at h
    split at h
    · obtain ⟨a, ha, rfl⟩ := Option.map_eq_some'.1 h
      exact .inl ⟨answer_retracts ha, rfl⟩
    · cases h
  | resume t =>
    simp only [step] at h
    split at h
    · rcases resume_node_cases h with hn | ⟨entries, c, rfl, hn⟩
      · exact .inl hn
      · exact .inr (.inr (.inl ⟨entries, c, rfl, hn⟩))
    · cases h
  | probeAnswered i ready =>
    simp only [step] at h
    split at h <;> cases h
    exact .inr (.inr (.inr (.inl ⟨i, ready, rfl, ‹_›, by simp, by simp⟩)))
  | projectsChanged p =>
    cases h
    exact .inr (.inr (.inr (.inr ⟨p, rfl, rfl⟩)))
  | tick =>
    cases h
    exact .inl ⟨Retracts.refl _, rfl⟩
  | statsAnswered stats =>
    simp only [step] at h
    split at h <;> cases h
    exact .inl ⟨Retracts.refl _, rfl⟩
  | resumeLoop t next =>
    simp only [step] at h
    split at h
    · obtain ⟨hn, hp⟩ := resumeLoop_node h
      exact .inl ⟨hn ▸ Retracts.refl _, hp⟩
    · cases h

theorem resume_addRouting_mem {rest : List Task} {t : Task} {j : Instance}
    (h : resume D ext w rest t = some w') (hj : Task.addRouting j ∈ w'.tasks) :
    Task.addRouting j ∈ rest ∨ ∃ l, t = .startFetched l ∧ j = l.instance := by
  unfold resume at h
  split at h <;> cases h
  · rcases mem_tasks_continueWith hj with hj | ⟨_, hj⟩
    · exact .inl hj
    · exact .inr ⟨_, rfl, by simpa using hj⟩
  all_goals left
  · exact (mem_tasks_continueWith hj).resolve_right (by simp)
  · simpa using hj
  · exact (mem_tasks_continueWith hj).resolve_right (by simp)
  · exact (mem_tasks_continueWith hj).resolve_right (by simp)

/-- **Where pending probes come from.**  Every `add_routing` task after an event was pending
    before it, or was spawned by it: a `start_app` resumed after its fetch, for the instance
    whose watch it has just started. -/
theorem step_addRouting_mem {j : Instance} (h : step D ext w e = some w')
    (hj : Task.addRouting j ∈ w'.tasks) :
    Task.addRouting j ∈ w.tasks ∨ ∃ l, e = .resume (.startFetched l) ∧ j = l.instance := by
  cases e with
  | arrive r =>
    cases h
    left
    cases r <;> simpa [arrive] using mem_tasks_continueWith hj
  | sourceFetched l ok =>
    simp only [step] at h
    split at h <;> cases h
    exact .inl (List.mem_of_mem_erase ((mem_tasks_continueWith hj).resolve_right (by simp)))
  | monitAnswered t =>
    simp only [step] at h
    split at h
    · obtain ⟨⟨s', t'⟩, ha, rfl⟩ := Option.map_eq_some'.1 h
      unfold answer at ha
      split at ha <;> cases ha <;>
        simpa using (List.mem_append.1 hj).imp_left List.mem_of_mem_erase
    · cases h
  | resume t =>
    simp only [step] at h
    split at h
    · rcases resume_addRouting_mem h hj with hj | ⟨l, rfl, rfl⟩
      · exact .inl (List.mem_of_mem_erase hj)
      · exact .inr ⟨l, rfl, rfl⟩
    · cases h
  | probeAnswered i ready =>
    simp only [step] at h
    split at h <;> cases h
    exact .inl (List.mem_of_mem_erase ((mem_tasks_continueWith hj).resolve_right (by simp)))
  | projectsChanged p =>
    cases h
    exact .inl hj
  | tick =>
    cases h
    simpa using hj
  | statsAnswered stats =>
    simp only [step] at h
    split at h <;> cases h
    rcases List.mem_append.1 hj with hj | hj
    · exact .inl (List.mem_of_mem_erase hj)
    · simp at hj
  | resumeLoop t next =>
    simp only [step] at h
    split at h
    · rcases resumeLoop_tasks h hj with hj | ⟨_, _, hj⟩
      · exact .inl (List.mem_of_mem_erase hj)
      · cases hj
    · cases h

end Events

/-! ### Every coroutine can run to its end -/

/-- The events a stop's caller waits for once the stop has ended: a tick's loop is resumed
    once more, at least to end. -/
def Caller.pending : Caller → Nat
  | .request => 0
  | .tick _ _ => 1

/-- How many more events a suspended coroutine waits for before it ends, when each of its
    futures resolves and it is resumed, and a tick's loop then ends. -/
def Task.remaining : Task → Nat
  | .startFetching _ => 3
  | .startFetched _ => 2
  | .addRouting _ => 1
  | .stopListing _ none c => c.pending + 6
  | .stopListing _ (some _) c => c.pending + 5
  | .stopReloading false c => c.pending + 4
  | .stopReloading true c => c.pending + 3
  | .cleanListing none c => c.pending + 2
  | .cleanListing (some _) c => c.pending + 1
  | .populateListing none => 2
  | .populateListing (some _) => 1
  | .tickFetching => 2
  | .tickFetched _ => 1
  | .tickStopped _ _ => 1

/-- The event that moves a task on: the fetch succeeding, Monit answering, the probe
    reporting ready, HAProxy answering with no proxy, a tick's loop ending, or the task being
    resumed once its future has resolved. -/
def Task.next : Task → Event
  | .startFetching l => .sourceFetched l true
  | .addRouting i => .probeAnswered i true
  | .stopListing op none c => .monitAnswered (.stopListing op none c)
  | .stopReloading false c => .monitAnswered (.stopReloading false c)
  | .cleanListing none c => .monitAnswered (.cleanListing none c)
  | .populateListing none => .monitAnswered (.populateListing none)
  | .tickFetching => .statsAnswered (some [])
  | .tickFetched failed => .resumeLoop (.tickFetched failed) none
  | .tickStopped failed size => .resumeLoop (.tickStopped failed size) none
  | t => .resume t

/-- The events all suspended coroutines of a world still wait for. -/
def World.backlog (w : World) : Nat := (w.tasks.map Task.remaining).sum

/-- A segment's continuation joins the other tasks, or the coroutine is over. -/
theorem tasks_continueWith {α : Type} (w : World) (rest : List Task) (r : EStateM.Result Err Node α)
    (k : List Task) :
    (w.continueWith rest r fun _ => k).tasks = rest ++ k ∨
      (w.continueWith rest r fun _ => k).tasks = rest := by
  cases r
  · exact .inl rfl
  · exact .inr rfl

/-- Replacing a task by a continuation that waits for fewer events shrinks the backlog. -/
theorem backlog_lt {w w' : World} {t : Task} (ht : t ∈ w.tasks) {k : List Task}
    (hw' : w'.tasks = w.tasks.erase t ++ k ∨ w'.tasks = w.tasks.erase t)
    (hk : (k.map Task.remaining).sum < t.remaining) : w'.backlog < w.backlog := by
  have hsum := List.sum_map_erase Task.remaining ht
  rcases hw' with h | h <;> simp only [World.backlog, h, List.map_append, List.sum_append] <;> omega

/-- Monit answering a task that waits on it. -/
theorem step_monitAnswered {w : World} {t t' : Task} {s : Node} (ht : t ∈ w.tasks)
    (h : answer w.node t = some (s, t')) :
    step D ext w (.monitAnswered t) = some { w with node := s, tasks := w.tasks.erase t ++ [t'] } := by
  simp [step, ht, h]

/-- **One event moves any task on**, and shrinks the backlog. -/
theorem step_next {w : World} {t : Task} (ht : t ∈ w.tasks) :
    ∃ w', step D ext w t.next = some w' ∧ w'.backlog < w.backlog := by
  cases t with
  | startFetching l =>
    exact ⟨_, if_pos ht, backlog_lt ht (tasks_continueWith _ _ _ _) (by simp [Task.remaining])⟩
  | startFetched l =>
    exact ⟨_, if_pos ht, backlog_lt ht (tasks_continueWith _ _ _ _) (by simp [Task.remaining])⟩
  | addRouting i =>
    exact ⟨_, if_pos ht, backlog_lt ht (tasks_continueWith _ _ _ _) (by simp [Task.remaining])⟩
  | stopListing op entries c =>
    cases entries with
    | none =>
      exact ⟨_, step_monitAnswered D ext ht rfl, backlog_lt ht (.inl rfl) (by simp [Task.remaining])⟩
    | some entries =>
      exact ⟨_, if_pos ht, backlog_lt ht (tasks_continueWith _ _ _ _) (by simp [Task.remaining])⟩
  | stopReloading reloaded c =>
    cases reloaded with
    | false =>
      exact ⟨_, step_monitAnswered D ext ht rfl, backlog_lt ht (.inl rfl) (by simp [Task.remaining])⟩
    | true => exact ⟨_, if_pos ht, backlog_lt ht (.inl rfl) (by simp [Task.remaining])⟩
  | cleanListing entries c =>
    cases entries with
    | none =>
      exact ⟨_, step_monitAnswered D ext ht rfl, backlog_lt ht (.inl rfl) (by simp [Task.remaining])⟩
    | some entries =>
      exact ⟨_, if_pos ht, backlog_lt ht (tasks_continueWith _ _ _ _)
        (by cases c <;> simp [Task.remaining, Caller.pending, Caller.resumes])⟩
  | populateListing entries =>
    cases entries with
    | none =>
      exact ⟨_, step_monitAnswered D ext ht rfl, backlog_lt ht (.inl rfl) (by simp [Task.remaining])⟩
    | some entries =>
      exact ⟨_, if_pos ht, backlog_lt ht (tasks_continueWith _ _ _ _) (by simp [Task.remaining])⟩
  | tickFetching => exact ⟨_, if_pos ht, backlog_lt ht (.inl rfl) (by simp [Task.remaining])⟩
  | tickFetched failed =>
    exact ⟨_, if_pos ht, backlog_lt ht (tasks_continueWith _ _ _ _) (by simp [Task.remaining])⟩
  | tickStopped failed size =>
    exact ⟨_, if_pos ht, backlog_lt ht (tasks_continueWith _ _ _ _) (by simp [Task.remaining])⟩

/-- **No coroutine waits forever.**  From every world, some run ends every suspended
    coroutine: each handler passes a bounded number of `yield`s, and each awaited future can
    resolve. -/
theorem run_drains (w : World) : ∃ es w', run D ext w es = some w' ∧ w'.tasks = [] := by
  suffices h : ∀ n, ∀ w : World, w.backlog < n → ∃ es w', run D ext w es = some w' ∧ w'.tasks = [] from
    h _ w (Nat.lt_succ_self _)
  intro n
  induction n with
  | zero => exact fun w h => absurd h (Nat.not_lt_zero _)
  | succ n ih =>
    intro w hw
    match hts : w.tasks with
    | [] => exact ⟨[], w, rfl, hts⟩
    | t :: _ =>
      obtain ⟨w₁, h₁, hlt⟩ := step_next D ext (hts ▸ List.mem_cons_self t _ : t ∈ w.tasks)
      obtain ⟨es, w', hrun, hdone⟩ := ih w₁ (by omega)
      exact ⟨t.next :: es, w', by rw [run, h₁, Option.some_bind, hrun], hdone⟩

/-! ### A request handled alone is a run -/

/-- A stop handler run alone: the checks, the entries, `reload`, and `clean_old_sources`. -/
theorem handle_stopOp (projects : Projects) (fetchOk ready : Bool) (op : StopOp) :
    op.request.handle D ext projects fetchOk ready = (do
      stopAppBegin D op.versionKey
      op.afterBegin D ext projects) := by
  cases op <;> rfl

theorem stopAppInstance_eq_afterBegin (projects : Projects) (vk : Str) (port : Int) :
    stopAppInstance D ext projects vk port =
      (do stopAppBegin D vk; (StopOp.appInstance vk port).afterBegin D ext projects) :=
  handle_stopOp D ext projects true true (.appInstance vk port)

/-- A stop past its first segment runs to its end in the loop, Monit answering each request
    at once; when it returns, its caller goes on. -/
theorem run_stopChain (projects : Projects) (op : StopOp) (c : Caller) (s : Node) :
    ∃ es, run D ext ⟨s, [.stopListing op none c], projects⟩ es =
      some (World.continueWith ⟨s, [], projects⟩ [] (op.afterBegin D ext projects s)
        fun _ => c.resumes) := by
  cases he : op.onEntries D ext s.monit.watches s with
  | error e s₂ =>
    refine ⟨[.monitAnswered (.stopListing op none c), .resume (.stopListing op (some s.monit.watches) c)], ?_⟩
    simp [run, step, answer, resume, World.continueWith, StopOp.afterBegin, he,
      Py.bind_ok (Py.get_apply _), Py.bind_error he]
  | ok _ s₂ =>
    refine ⟨[.monitAnswered (.stopListing op none c), .resume (.stopListing op (some s.monit.watches) c),
      .monitAnswered (.stopReloading false c), .resume (.stopReloading true c),
      .monitAnswered (.cleanListing none c),
      .resume (.cleanListing (some (s₂.withMonit Monit.reload).monit.watches) c)], ?_⟩
    simp [run, step, answer, resume, World.continueWith, StopOp.afterBegin, he,
      Py.bind_ok (Py.get_apply _), Py.bind_ok he, Py.bind_ok (Py.modify_apply _ _)]

theorem continueWith_nil {α : Type} (w : World) (r : EStateM.Result Err Node α) :
    w.continueWith [] r (fun _ => []) = ⟨Py.after r, [], w.projects⟩ := by
  cases r <;> rfl

/-- A stop request handled alone is a run of the event loop, with Monit answering each
    request at once. -/
theorem run_stop_alone (projects : Projects) (fetchOk ready : Bool) (op : StopOp) (s : Node) :
    ∃ es, run D ext ⟨s, [], projects⟩ es =
      some ⟨Py.after (op.request.handle D ext projects fetchOk ready s), [], projects⟩ := by
  have harrive : ∀ w, arrive D ext w op.request =
      w.continueWith w.tasks (stopAppBegin D op.versionKey w.node) fun _ =>
        [.stopListing op none .request] := by
    cases op <;> intro w <;> rfl
  rw [handle_stopOp]
  rcases stopAppBegin_cases D op.versionKey s with hb | ⟨e, hb⟩
  · obtain ⟨es, hes⟩ := run_stopChain D ext projects op .request s
    have h₁ : step D ext ⟨s, [], projects⟩ (.arrive op.request) =
        some ⟨s, [.stopListing op none .request], projects⟩ := by
      simp [step, harrive, World.continueWith, hb]
    refine ⟨.arrive op.request :: es, ?_⟩
    rw [run, h₁, Option.some_bind, hes, Py.bind_ok hb]
    exact congrArg some (continueWith_nil _ _)
  · refine ⟨[.arrive op.request], ?_⟩
    simp [run, step, harrive, World.continueWith, hb, Py.after, Py.bind_error hb]

/-- A start request handled alone is a run of the event loop: it arrives, its fetch finishes,
    it is resumed, and the probe of the `add_routing` it spawned answers. -/
theorem run_start_alone (projects : Projects) (fetchOk ready : Bool) (vk : Str) (config : StartConfig)
    (s : Node) :
    ∃ es, run D ext ⟨s, [], projects⟩ es =
      some ⟨Py.after ((Request.startApp vk config).handle D ext projects fetchOk ready s), [], projects⟩ := by
  show ∃ es, run D ext ⟨s, [], projects⟩ es =
    some ⟨Py.after (AppManager.startApp D ext projects fetchOk ready vk config s), [], projects⟩
  unfold AppManager.startApp
  cases hb : startAppBegin D ext projects vk config s with
  | error e s₁ =>
    exact ⟨[.arrive (.startApp vk config)],
      by simp [run, step, arrive, World.continueWith, hb, Py.after, Py.bind_error hb]⟩
  | ok l s₁ =>
    cases hf : fetchSource fetchOk l.revisionKey s₁ with
    | error e s₂ =>
      exact ⟨[.arrive (.startApp vk config), .sourceFetched l fetchOk],
        by simp [run, step, arrive, World.continueWith, hb, hf, Py.after, Py.bind_ok hb, Py.bind_error hf]⟩
    | ok _ s₂ =>
      cases hs : startAppFinish D ext l s₂ with
      | error e s₃ =>
        exact ⟨[.arrive (.startApp vk config), .sourceFetched l fetchOk, .resume (.startFetched l)],
          by simp [run, step, arrive, resume, World.continueWith, hb, hf, hs, Py.after, Py.bind_ok hb,
            Py.bind_ok hf, Py.bind_error hs]⟩
      | ok _ s₃ =>
        refine ⟨[.arrive (.startApp vk config), .sourceFetched l fetchOk, .resume (.startFetched l),
          .probeAnswered l.instance ready], ?_⟩
        simp [run, step, arrive, resume, World.continueWith, hb, hf, hs, Py.after, Py.bind_ok hb,
          Py.bind_ok hf, Py.bind_ok hs]
        cases addRouting D ready l.instance s₃ <;> rfl

/-- Every request handled alone is a run of the event loop that ends with no task pending. -/
theorem run_handle_alone (projects : Projects) (fetchOk ready : Bool) (r : Request) (s : Node) :
    ∃ es, run D ext ⟨s, [], projects⟩ es =
      some ⟨Py.after (r.handle D ext projects fetchOk ready s), [], projects⟩ := by
  cases r with
  | startApp vk config => exact run_start_alone D ext projects fetchOk ready vk config s
  | stopApp vk => exact run_stop_alone D ext projects fetchOk ready (.app vk) s
  | stopAppInstance vk port => exact run_stop_alone D ext projects fetchOk ready (.appInstance vk port) s

/-- **A serial execution is a run.**  The handlers of `AppManager.Handlers`, run one after
    another, are the event loop with no two requests interleaved: every outcome `serial`
    reaches, `run` reaches too. -/
theorem serial_is_run (projects : Projects) (fetchOk ready : Request → Bool) (rs : List Request)
    (s : Node) :
    ∃ es, run D ext ⟨s, [], projects⟩ es = some ⟨serial D ext projects fetchOk ready rs s, [], projects⟩ := by
  induction rs generalizing s with
  | nil => exact ⟨[], rfl⟩
  | cons r rs ih =>
    obtain ⟨es₁, h₁⟩ := run_handle_alone D ext projects (fetchOk r) (ready r) r s
    obtain ⟨es₂, h₂⟩ := ih (Py.after (r.handle D ext projects (fetchOk r) (ready r) s))
    exact ⟨es₁ ++ es₂, by rw [run_append, h₁, Option.some_bind]; exact h₂⟩

/-! ### A tick run alone is a run -/

section TickAlone

variable (projects : Projects) (failed : List (Str × Int)) (size : Nat)

theorem step_resumeLoop_single {t₀ : Task} {s : Node} {next : Option Instance}
    (ht₀ : resumeLoop D ⟨s, [t₀], projects⟩ [] next t₀ =
      loopNext D ⟨s, [t₀], projects⟩ [] failed size next) :
    step D ext ⟨s, [t₀], projects⟩ (.resumeLoop t₀ next) =
      loopNext D ⟨s, [t₀], projects⟩ [] failed size next := by
  simp only [step]
  rw [if_pos (List.mem_singleton_self t₀), List.erase_cons_head, ht₀]

theorem loopNext_stop {w : World} {rest : List Task} {i : Instance}
    (hlive : i ∈ w.node.runningInstances) (hi : (i.versionKey D, i.port) ∈ failed) :
    loopNext D w rest failed size (some i) =
      some (w.continueWith rest ((setIterNext size >>= fun _ => stopAppBegin D (i.versionKey D)) w.node)
        fun _ => [.stopListing (.appInstance (i.versionKey D) i.port) none (.tick failed size)]) :=
  if_pos ⟨hlive, hi⟩

/-- The failure detector's loop over the set `σ`, run alone: a stop only removes instances
    (`shrinks_stopAppInstance`), so an instance of `σ` the loop reaches with the set's size
    unchanged is still running, and the loop's run-alone model is a run of the event loop,
    each stop running to its end before the loop goes on. -/
theorem run_loop_alone (σ : List Instance) :
    ∀ (rest : List Instance) (t₀ : Task) (s : Node), (∀ i ∈ rest, i ∈ σ) →
      s.runningInstances.Sublist σ →
      (∀ next, resumeLoop D ⟨s, [t₀], projects⟩ [] next t₀ =
        loopNext D ⟨s, [t₀], projects⟩ [] failed σ.length next) →
      ∃ es, run D ext ⟨s, [t₀], projects⟩ es =
        some ⟨Py.after (stopFailedLoop D ext projects failed σ.length rest s), [], projects⟩ := by
  intro rest
  induction rest with
  | nil =>
    intro t₀ s _ _ ht₀
    refine ⟨[.resumeLoop t₀ none], ?_⟩
    rw [run, step_resumeLoop_single D ext projects failed σ.length (ht₀ none), loopNext,
      Option.some_bind, run_nil]
    exact congrArg some (continueWith_nil _ _)
  | cons i rest ih =>
    intro t₀ s hrest hs ht₀
    have hstep := fun next => step_resumeLoop_single D ext projects failed σ.length (ht₀ next)
    by_cases hsz : s.runningInstances.length = σ.length
    swap
    · -- the set has changed size: `next()` raises `RuntimeError`
      refine ⟨[.resumeLoop t₀ none], ?_⟩
      rw [stopFailedLoop_resized hsz, run, hstep, loopNext, Option.some_bind, run_nil]
      exact congrArg some ((continueWith_nil _ _).trans (by rw [show setIterNext σ.length s = _ from if_neg hsz]))
    by_cases hi : (i.versionKey D, i.port) ∈ failed
    swap
    · rw [stopFailedLoop_skip hsz hi]
      exact ih t₀ s (fun j hj => hrest j (.tail _ hj)) hs ht₀
    -- `i` is failed, and still running: the set is the one the iteration began on
    have hlive : i ∈ s.runningInstances := (hs.eq_of_length hsz) ▸ hrest i (.head _)
    rw [stopFailedLoop_stop hsz hi, stopAppInstance_eq_afterBegin]
    -- the loop resumes on `i` and runs the first segment of its `stop_app_instance`
    have hstart : ∀ r, stopAppBegin D (i.versionKey D) s = r →
        step D ext ⟨s, [t₀], projects⟩ (.resumeLoop t₀ (some i)) = some (World.continueWith
          ⟨s, [t₀], projects⟩ [] r fun _ =>
            [.stopListing (.appInstance (i.versionKey D) i.port) none (.tick failed σ.length)]) := by
      rintro r rfl
      rw [hstep, loopNext_stop D failed σ.length hlive hi]
      show some (World.continueWith _ [] ((setIterNext σ.length >>= fun _ => _) s) _) = _
      rw [Py.bind_ok (setIterNext_of_size hsz)]
    rcases stopAppBegin_cases D (i.versionKey D) s with hb | ⟨e, hb⟩
    · have h₁ : step D ext ⟨s, [t₀], projects⟩ (.resumeLoop t₀ (some i)) =
          some ⟨s, [.stopListing (.appInstance (i.versionKey D) i.port) none (.tick failed σ.length)],
            projects⟩ := hstart _ hb
      obtain ⟨es₁, hes₁⟩ := run_stopChain D ext projects (.appInstance (i.versionKey D) i.port)
        (.tick failed σ.length) s
      cases hc : (StopOp.appInstance (i.versionKey D) i.port).afterBegin D ext projects s with
      | error e s₂ =>
        refine ⟨.resumeLoop t₀ (some i) :: es₁, ?_⟩
        rw [run, h₁, Option.some_bind, hes₁, hc, Py.bind_error ((Py.bind_ok hb).trans hc)]
        rfl
      | ok _ s₂ =>
        have hs₂ : s₂.runningInstances.Sublist σ := by
          have h : (Py.after (stopAppInstance D ext projects (i.versionKey D) i.port s)).runningInstances.Sublist
              s.runningInstances := shrinks_stopAppInstance _ _ s
          rw [stopAppInstance_eq_afterBegin, Py.bind_ok hb, hc] at h
          exact h.trans hs
        obtain ⟨es₂, hes₂⟩ := ih (.tickStopped failed σ.length) s₂ (fun j hj => hrest j (.tail _ hj))
          hs₂ fun _ => rfl
        refine ⟨.resumeLoop t₀ (some i) :: (es₁ ++ es₂), ?_⟩
        rw [run, h₁, Option.some_bind, run_append, hes₁, hc, Option.some_bind,
          Py.bind_ok ((Py.bind_ok hb).trans hc)]
        exact hes₂
    · -- `stop_app_instance` raises before its first `yield`, and the tick with it
      refine ⟨[.resumeLoop t₀ (some i)], ?_⟩
      rw [run, hstart _ hb, Option.some_bind, run_nil, Py.bind_error (Py.bind_error hb)]
      rfl

/-- **A tick run alone is a run.**  `stop_failed_instances` with nothing interleaved, its
    model `stopFailedInstances` over the set's iteration order, is a run of the event loop:
    the `PeriodicCallback` fires, HAProxy answers, and the loop and its stops run to their
    end. -/
theorem run_tick_alone (stats : List ProxyStats) (s : Node) :
    ∃ es, run D ext ⟨s, [], projects⟩ (.tick :: .statsAnswered (some stats) :: es) =
      some ⟨Py.after (stopFailedInstances D ext projects stats s), [], projects⟩ := by
  have h₂ : run D ext ⟨s, [], projects⟩ [.tick, .statsAnswered (some stats)] =
      some ⟨s, [.tickFetched (getFailedInstances D stats)], projects⟩ := by
    simp [run, step]
  obtain ⟨es, hes⟩ := run_loop_alone D ext projects (getFailedInstances D stats) s.runningInstances
    s.runningInstances (.tickFetched (getFailedInstances D stats)) s (fun _ h => h)
    (List.Sublist.refl _) fun _ => rfl
  refine ⟨es, ?_⟩
  rw [show Event.tick :: .statsAnswered (some stats) :: es = [.tick, .statsAnswered (some stats)] ++ es
    from rfl, run_append, h₂, Option.some_bind]
  exact hes

end TickAlone

end AppManager
