import Mathlib.Logic.Relation
import AppManager.Tasks

namespace AppManager

/-!
# AppManager — what the event loop does to the node, move by move

Every change the instance manager makes to its node is one of a dozen moves, each the
effect of one call of the code: `ensure_api_server` and `stop_api_server`,
`unmonitor_and_terminate` of an instance watch, the three writes of `start_app` (the
configuration, `monit_interface.start`, `ensure_path` of the version node), the two writes
of `register_instance` and `unregister_instance`, the source manager fetching or deleting
sources, Monit's `reload`, and the assignments of `populate_api_servers`.  A move records
what the code has checked before it: the project id of a new API server is valid, the watch
torn down is an instance watch, an instance is registered only by the `add_routing` of a
pending probe and under an existing version node.

* `Move` — the moves, for a world whose suspended coroutines are `ts`;
* `MovesBy` — a handler segment changes the node by moves only, with `movesBy_bind` and the
  other combinators to follow the code's `do` blocks;
* `step_moves` — **every event changes the node by a sequence of moves**, the failure
  detector's included, so an invariant of the node that every move keeps holds along every
  run (`run_preserves`).
-/

variable (D : Deployment) (ext : Ext)

/-! ### The moves -/

/-- One change the instance manager makes to its node, in a world whose suspended coroutines
    are `ts`. -/
inductive Move (ts : List Task) : Node → Node → Prop
  /-- `ensure_api_server(project_id)`, called by `start_app` once the id is valid. -/
  | ensureApiServer {s : Node} (P : Str) (hP : D.isAppNameValid P = true) :
      Move ts s (Py.after (ensureApiServer ext P s))
  /-- `stop_api_server(project_id)`. -/
  | stopApiServer {s : Node} (P : Str) : Move ts s (Py.after (stopApiServer ext P s))
  /-- `unmonitor_and_terminate(watch)` of a watch named under `MONIT_INSTANCE_PREFIX`. -/
  | unmonitorAndTerminate {s : Node} (w : Str) (hw : startswith w D.monitInstancePrefix = true) :
      Move ts s (Py.after (unmonitorAndTerminate ext w s))
  /-- `create_config_file` of `start_app`. -/
  | createConfig {s : Node} (name : Str) : Move ts s (s.withMonit (·.createConfig name))
  /-- A successful `monit_interface.start(name)`. -/
  | start {s : Node} (name : Str) : Move ts s (s.withMonit (·.start name))
  /-- `zk_client.ensure_path` of a version node. -/
  | ensurePath {s : Node} (v : Str) : Move ts s { s with registry := s.registry.ensurePath v }
  /-- `register_instance(instance)` in the `add_routing` of a pending probe, under an
      existing version node. -/
  | register {s : Node} (i : Instance) (hi : Task.addRouting i ∈ ts)
      (hv : i.versionKey D ∈ s.registry.versions) : Move ts s (s.register D i)
  /-- `unregister_instance(instance)`. -/
  | unregister {s : Node} (i : Instance) : Move ts s (s.unregister D i)
  /-- `source_manager.ensure_source` putting a revision's source on disk. -/
  | fetch {s : Node} (rk : Str) : Move ts s { s with sources := s.sources.insert rk }
  /-- `clean_old_revisions`, keeping the sources of `active`. -/
  | cleanSources {s : Node} (active : List Str) :
      Move ts s { s with sources := s.sources.filter (· ∈ active) }
  /-- Monit's `reload`. -/
  | reload {s : Node} : Move ts s (s.withMonit Monit.reload)
  /-- `populate_api_servers` on the entries its pending `get_entries` returned. -/
  | populate {s : Node} (entries : List Str) (h : Task.populateListing (some entries) ∈ ts) :
      Move ts s (Py.after (populateApiServers entries s))

/-! ### What the calls of a move leave alone -/

/-- `unmonitor_and_terminate` changes Monit only: it tears down a watch Monit lists, or
    changes nothing. -/
theorem unmonitorAndTerminate_after (w : Str) (s : Node) :
    w ∈ s.monit.watches ∧ Py.after (unmonitorAndTerminate ext w s) =
        s.withMonit (fun m => (m.unmonitor w).removeConfiguration w) ∨
      Py.after (unmonitorAndTerminate ext w s) = s := by
  rcases unmonitor_cases ext w 5 s with h | ⟨e, h⟩
  · exact .inl ⟨unmonitor_ok_listed h, by simp only [unmonitorAndTerminate, h]; rfl⟩
  · refine .inr ?_
    simp only [unmonitorAndTerminate, h]
    cases e <;> rfl

/-- `stop_api_server` changes nothing, or it forgets a project it had recorded, after
    tearing down the project's watch, which Monit lists, or finding Monit does not know it. -/
theorem stopApiServer_after (P : Str) (s : Node) :
    Py.after (stopApiServer ext P s) = s ∨ ∃ port, dictGet P s.apiServers = some port ∧
      (apiServerWatch P port ∈ s.monit.watches ∧ Py.after (stopApiServer ext P s) =
        { s.withMonit (fun m => (m.unmonitor (apiServerWatch P port)).removeConfiguration
            (apiServerWatch P port)) with apiServers := dictDel P s.apiServers } ∨
      Py.after (stopApiServer ext P s) = { s with apiServers := dictDel P s.apiServers }) := by
  unfold stopApiServer
  split
  · exact .inl rfl
  · rename_i port hport
    rcases unmonitor_cases ext (apiServerWatch P port) 5 s with h | ⟨e, h⟩
    · refine .inr ⟨port, hport, .inl ⟨unmonitor_ok_listed h, ?_⟩⟩
      simp only [unmonitorAndTerminate, h]
      rfl
    · cases e
      case processNotFound => exact .inr ⟨port, hport, .inr (by simp only [unmonitorAndTerminate, h]; rfl)⟩
      all_goals exact .inl (by simp only [unmonitorAndTerminate, h]; rfl)

/-- `populate_api_servers` changes `api_servers` only. -/
theorem populateApiServers_after (entries : List Str) (s : Node) :
    ∃ d, Py.after (populateApiServers entries s) = { s with apiServers := d } := by
  unfold populateApiServers
  cases h : (entries.filter (startswith · apiServerPrefix)).mapM apiServerInfo with
  | none => exact ⟨s.apiServers, by simp only [h]; rfl⟩
  | some l => exact ⟨_, by simp only [h]; rfl⟩

section Frame

variable (P w : Str) (entries : List Str) (s : Node)

@[simp] theorem runningInstances_after_ensureApiServer :
    (Py.after (ensureApiServer ext P s)).runningInstances = s.runningInstances :=
  (ensureApiServer_frame ext P s).1
@[simp] theorem registry_after_ensureApiServer :
    (Py.after (ensureApiServer ext P s)).registry = s.registry := (ensureApiServer_frame ext P s).2.1
@[simp] theorem sources_after_ensureApiServer :
    (Py.after (ensureApiServer ext P s)).sources = s.sources := (ensureApiServer_frame ext P s).2.2

@[simp] theorem runningInstances_after_unmonitorAndTerminate :
    (Py.after (unmonitorAndTerminate ext w s)).runningInstances = s.runningInstances := by
  rcases unmonitorAndTerminate_after ext w s with ⟨-, h⟩ | h <;> simp [h]
@[simp] theorem registry_after_unmonitorAndTerminate :
    (Py.after (unmonitorAndTerminate ext w s)).registry = s.registry := by
  rcases unmonitorAndTerminate_after ext w s with ⟨-, h⟩ | h <;> simp [h]
@[simp] theorem sources_after_unmonitorAndTerminate :
    (Py.after (unmonitorAndTerminate ext w s)).sources = s.sources := by
  rcases unmonitorAndTerminate_after ext w s with ⟨-, h⟩ | h <;> simp [h]
@[simp] theorem apiServers_after_unmonitorAndTerminate :
    (Py.after (unmonitorAndTerminate ext w s)).apiServers = s.apiServers := by
  rcases unmonitorAndTerminate_after ext w s with ⟨-, h⟩ | h <;> simp [h]

@[simp] theorem runningInstances_after_stopApiServer :
    (Py.after (stopApiServer ext P s)).runningInstances = s.runningInstances := by
  rcases stopApiServer_after ext P s with h | ⟨_, -, ⟨-, h⟩ | h⟩ <;> simp [h]
@[simp] theorem registry_after_stopApiServer :
    (Py.after (stopApiServer ext P s)).registry = s.registry := by
  rcases stopApiServer_after ext P s with h | ⟨_, -, ⟨-, h⟩ | h⟩ <;> simp [h]
@[simp] theorem sources_after_stopApiServer :
    (Py.after (stopApiServer ext P s)).sources = s.sources := by
  rcases stopApiServer_after ext P s with h | ⟨_, -, ⟨-, h⟩ | h⟩ <;> simp [h]

@[simp] theorem monit_after_populateApiServers :
    (Py.after (populateApiServers entries s)).monit = s.monit := by
  obtain ⟨d, h⟩ := populateApiServers_after entries s
  rw [h]
@[simp] theorem runningInstances_after_populateApiServers :
    (Py.after (populateApiServers entries s)).runningInstances = s.runningInstances := by
  obtain ⟨d, h⟩ := populateApiServers_after entries s
  rw [h]
@[simp] theorem registry_after_populateApiServers :
    (Py.after (populateApiServers entries s)).registry = s.registry := by
  obtain ⟨d, h⟩ := populateApiServers_after entries s
  rw [h]

end Frame

/-- A sequence of moves. -/
abbrev Moves (ts : List Task) : Node → Node → Prop := Relation.ReflTransGen (Move D ext ts)

/-- Every run of the segment, returning or raising, changes the node by moves only. -/
def MovesBy {α : Type} (ts : List Task) (x : Py α) : Prop := ∀ s, Moves D ext ts s (Py.after (x s))

variable {D ext} {ts : List Task}

theorem Moves.single {s s' : Node} (h : Move D ext ts s s') : Moves D ext ts s s' :=
  Relation.ReflTransGen.single h

theorem movesBy_pure {α : Type} (a : α) : MovesBy D ext ts (pure a : Py α) := fun _ => .refl

theorem movesBy_throw {α : Type} (e : Err) : MovesBy D ext ts (throw e : Py α) := fun _ => .refl

theorem movesBy_of_move {α : Type} {x : Py α} (h : ∀ s, Move D ext ts s (Py.after (x s))) :
    MovesBy D ext ts x := fun s => .single (h s)

theorem movesBy_modify {f : Node → Node} (h : ∀ s, Move D ext ts s (f s)) :
    MovesBy D ext ts (modify f : Py Unit) := movesBy_of_move h

theorem movesBy_bind {α β : Type} {x : Py α} {f : α → Py β} (hx : MovesBy D ext ts x)
    (hf : ∀ a, MovesBy D ext ts (f a)) : MovesBy D ext ts (x >>= f) := by
  intro s
  have hs := hx s
  cases h : x s with
  | ok a s' => rw [h] at hs; rw [Py.bind_ok h]; exact hs.trans (hf a s')
  | error e s' => rw [h] at hs; rw [Py.bind_error h]; exact hs

/-- A property of the node that every move keeps holds after every sequence of moves. -/
theorem Moves.preserves {P : Node → Prop} (hP : ∀ s s', Move D ext ts s s' → P s → P s')
    {s s' : Node} (h : Moves D ext ts s s') (hs : P s) : P s' := by
  induction h with
  | refl => exact hs
  | tail _ hm ih => exact hP _ _ hm ih

/-! ### Each segment, by moves -/

theorem moves_startAppBegin (projects : Projects) (vk : Str) (config : StartConfig) (s : Node) :
    Moves D ext ts s (Py.after (startAppBegin D ext projects vk config s)) := by
  rcases startAppBegin_validates D ext projects vk config s with ⟨_, h⟩ | ⟨hP, ⟨_, h⟩ | ⟨_, h, -⟩⟩ <;>
    rw [h]
  · exact .refl
  all_goals exact .single (.ensureApiServer _ hP)

theorem moves_fetchSource (ok : Bool) (rk : Str) (s : Node) :
    Moves D ext ts s (Py.after (fetchSource ok rk s)) := by
  rw [fetchSource_after]
  split
  · exact .single (.fetch rk)
  · exact .refl

theorem moves_startAppFinish (l : StartLocals) (s : Node) :
    Moves D ext ts s (Py.after (startAppFinish D ext l s)) := by
  rcases startAppFinish_cases D ext l s with ⟨_, h⟩ | ⟨_, h⟩ | h <;> rw [h]
  · exact .refl
  · exact .single (.createConfig _)
  · exact (Moves.single (.createConfig _)).tail (.start _) |>.tail (.ensurePath l.versionKey)

theorem moves_addRouting {i : Instance} (hi : Task.addRouting i ∈ ts) (ready : Bool) (s : Node) :
    Moves D ext ts s (Py.after (addRouting D ready i s)) := by
  rw [addRouting_after]
  split
  · exact .single (.register i hi (‹_ ∧ _›.2))
  · exact .refl

theorem moves_stopAppBegin (vk : Str) (s : Node) : Moves D ext ts s (Py.after (stopAppBegin D vk s)) := by
  rcases stopAppBegin_cases D vk s with h | ⟨_, h⟩ <;> rw [h] <;> exact .refl

theorem movesBy_stopEntries {entries : List Str}
    (h : ∀ e ∈ entries, startswith e D.monitInstancePrefix = true) :
    MovesBy D ext ts (stopEntries D ext entries) := by
  induction entries with
  | nil => exact movesBy_pure ()
  | cons entry entries ih =>
    unfold stopEntries
    split
    · exact movesBy_bind (movesBy_modify fun _ => .unregister _) fun _ =>
        movesBy_bind (movesBy_of_move fun _ => .unmonitorAndTerminate entry (h entry (by simp)))
          fun _ => ih fun e he => h e (by simp [he])
    · exact movesBy_throw _

theorem movesBy_stopAppEntries (vk : Str) (entries : List Str) :
    MovesBy D ext ts (stopAppEntries D ext vk entries) := by
  unfold stopAppEntries
  refine movesBy_bind (movesBy_stopEntries fun e he => ?_) fun _ => ?_
  · exact startswith_of_append (List.mem_filter.1 he).2
  · dsimp only
    split
    · exact movesBy_of_move fun _ => .stopApiServer _
    · exact movesBy_pure _

theorem movesBy_stopAppInstanceEntries (vk : Str) (port : Int) (entries : List Str) :
    MovesBy D ext ts (stopAppInstanceEntries D ext vk port entries) := by
  unfold stopAppInstanceEntries
  split
  · rename_i watch hfind
    have hw : startswith watch D.monitInstancePrefix = true := by
      have := List.find?_some hfind
      simp only [instanceKeyMatch, Bool.and_eq_true] at this
      exact startswith_of_append this.1
    split
    · refine movesBy_bind (movesBy_modify fun _ => .unregister _) fun _ =>
        movesBy_bind (movesBy_of_move fun _ => .unmonitorAndTerminate watch hw) fun _ => ?_
      dsimp only
      split
      · exact movesBy_of_move fun _ => .stopApiServer _
      · exact movesBy_pure _
    · exact movesBy_throw _
  · exact movesBy_throw _

theorem movesBy_onEntries (op : StopOp) (entries : List Str) :
    MovesBy D ext ts (op.onEntries D ext entries) := by
  cases op
  · exact movesBy_stopAppEntries _ _
  · exact movesBy_stopAppInstanceEntries _ _ _

theorem moves_answer {s s' : Node} {t t' : Task} (h : answer s t = some (s', t')) :
    Moves D ext ts s s' := by
  unfold answer at h
  split at h <;> cases h
  · exact .refl
  · exact .single .reload
  · exact .refl
  · exact .refl

theorem moves_cleanOldSources (projects : Projects) (entries : List Str) (s : Node) :
    Moves D ext ts s (Py.after (cleanOldSources D projects entries s)) :=
  .single (.cleanSources _)

/-! ### Every event, by moves -/

section Events

variable {w w' : World} {e : Event}

theorem resume_moves {rest : List Task} {t : Task} (ht : t ∈ w.tasks)
    (h : resume D ext w rest t = some w') : Moves D ext w.tasks w.node w'.node := by
  unfold resume at h
  split at h <;> cases h <;> simp only [node_continueWith]
  · exact moves_startAppFinish _ _
  · exact movesBy_onEntries _ _ _
  · exact .refl
  · exact moves_cleanOldSources _ _ _
  · exact .single (.populate _ ht)

/-- **Every event changes the node by moves.**  The node an event leaves is reached from the
    node before it by a sequence of the moves of `Move`, for the coroutines suspended before
    the event. -/
theorem step_moves (h : step D ext w e = some w') : Moves D ext w.tasks w.node w'.node := by
  cases e with
  | arrive r =>
    cases h
    cases r <;> simp only [arrive, node_continueWith]
    · exact moves_startAppBegin _ _ _ _
    · exact moves_stopAppBegin _ _
    · exact moves_stopAppBegin _ _
  | sourceFetched l ok =>
    simp only [step] at h
    split at h <;> cases h
    simpa using moves_fetchSource ok l.revisionKey w.node
  | monitAnswered t =>
    simp only [step] at h
    split at h
    · obtain ⟨a, ha, rfl⟩ := Option.map_eq_some'.1 h
      exact moves_answer ha
    · cases h
  | resume t =>
    simp only [step] at h
    split at h
    · exact resume_moves ‹_› h
    · cases h
  | probeAnswered i ready =>
    simp only [step] at h
    split at h <;> cases h
    simpa using moves_addRouting ‹_› ready w.node
  | projectsChanged p =>
    cases h
    exact .refl
  | tick =>
    cases h
    exact .refl
  | statsAnswered stats =>
    simp only [step] at h
    split at h <;> cases h
    exact .refl
  | resumeLoop t next =>
    simp only [step] at h
    split at h
    · rw [(resumeLoop_node h).1]
    · cases h

/-- **Invariants of runs.**  A property of worlds that every allowed event keeps holds at the
    end of every run of allowed events. -/
theorem run_preserves {I : World → Prop} {E : Event → Prop}
    (hstep : ∀ {w w' : World} {e : Event}, I w → E e → step D ext w e = some w' → I w')
    {es : List Event} (hes : ∀ e ∈ es, E e) (h : run D ext w es = some w') (hw : I w) : I w' := by
  induction es generalizing w with
  | nil =>
    cases h
    exact hw
  | cons e es ih =>
    obtain ⟨w₁, h₁, h₂⟩ := run_cons_eq_some D ext h
    exact ih (fun e he => hes e (List.mem_cons_of_mem _ he)) h₂
      (hstep hw (hes e (List.mem_cons_self _ _)) h₁)

/-- **Invariants of the node.**  A property of the node that every move keeps holds along
    every run. -/
theorem run_preserves_moves {P : Node → Prop} (hP : ∀ ts s s', Move D ext ts s s' → P s → P s')
    {es : List Event} (h : run D ext w es = some w') (hs : P w.node) : P w'.node :=
  run_preserves (I := fun w => P w.node) (E := fun _ => True)
    (fun hw _ h => (step_moves h).preserves (hP _) hw) (fun _ _ => trivial) h hs

end Events

end AppManager
