import AppManager.Tasks

namespace AppManager

/-!
# AppManager — races between requests and the background coroutines

What the interleavings of `AppManager.Tasks` allow:

* `run_keeps_retired` — an instance out of `running_instances` and the registry, with no
  probe pending on its registry node, stays out until a `start_app` starts a watch on that
  node; `probeAnswered_registers_without_watch` is a run in which the probe of a
  `start_app`, still pending when `stop_app` tears the instance down, registers it after;
* `source_present_at_watch_start` — the source `ensure_source` fetched is still on disk
  when `start_app` starts the watch, as long as the projects model keeps the revision
  current; `redeploy_removes_source_before_watch_start` is a run in which a redeploy lets
  a concurrent `clean_old_sources` delete it first;
* `stopApp_startApp_race_not_serializable` — `stop_app` of one version and `start_app` of
  another version of the same project, interleaved, end in a state no serial order of the
  two requests reaches, with the project's new instance left without an API server.
-/

variable (D : Deployment) (ext : Ext)

/-! ### The node of the runs below -/

/-- The projects model with version `guestbook/default/v1` at `revision`. -/
def guestbookProjects (revision : Str) : Projects :=
  [(("guestbook".toList, "default".toList, "v1".toList),
    ⟨"python27".toList, revision, "gs://guestbook/app.zip".toList, none⟩)]

/-- A node with nothing running, and `guestbook/default/v1` at revision `1`. -/
def idleWorld : World := ⟨⟨⟨[], []⟩, [], [], ⟨[], []⟩, []⟩, [], guestbookProjects "1".toList⟩

/-- What `start_app('guestbook_default_v1', {app_port: 8080, …})` holds across its `yield`. -/
def guestbookStart : StartLocals :=
  ⟨"guestbook_default_v1".toList, "guestbook".toList, "guestbook_default_v1_1".toList,
    "python27".toList, 400, 8080⟩

/-! ### Registration after a teardown -/

/-- Two instances on one registry node: same version key and same port. -/
def SameNode (i j : Instance) : Prop := i.versionKey D = j.versionKey D ∧ i.port = j.port

instance (i j : Instance) : Decidable (SameNode D i j) := inferInstanceAs (Decidable (_ ∧ _))

/-- Whether a task is a pending probe of an instance on `i`'s registry node. -/
def probesNode (i : Instance) : Task → Bool
  | .addRouting j => decide (SameNode D j i)
  | _ => false

/-- Whether an event resumes a `start_app` that starts a watch on `i`'s registry node. -/
def startsNode (i : Instance) : Event → Bool
  | .resume (.startFetched l) => decide (SameNode D l.instance i)
  | _ => false

/-- An instance out of the node's books: not in `running_instances`, no registry child at
    its version and port, and no probe pending on that registry node.  A teardown leaves
    its instance so unless a probe is still pending. -/
structure Retired (w : World) (i : Instance) : Prop where
  not_running : i ∉ w.node.runningInstances
  unregistered : w.node.registry.get (i.versionKey D) (instanceEntry D i) = none
  no_probe : ∀ t ∈ w.tasks, probesNode D i t = false

section Retirement

variable {D ext} {w w' : World} {e : Event} {i : Instance}

theorem Retired.of_retracts (hr : Retired D w i) {s : Node} (h : Retracts w.node s) :
    i ∉ s.runningInstances ∧ s.registry.get (i.versionKey D) (instanceEntry D i) = none :=
  ⟨fun hi => hr.not_running (h.running i hi), h.registry _ _ hr.unregistered⟩

/-- Registering an instance on another registry node leaves `i` out. -/
theorem Retired.register (hr : Retired D w i) {j : Instance} (hj : ¬ SameNode D j i) :
    i ∉ (w.node.register D j).runningInstances ∧
      (w.node.register D j).registry.get (i.versionKey D) (instanceEntry D i) = none := by
  refine ⟨fun hi => ?_, ?_⟩
  · rcases List.mem_insert_iff.1 hi with rfl | hi
    · exact hj ⟨rfl, rfl⟩
    · exact hr.not_running hi
  · simp only [Node.register, Registry.get_put, Prod.mk.injEq]
    rw [if_neg fun h => hj ⟨h.1.symm, (instanceEntry_inj D h.2).symm⟩]
    exact hr.unregistered

/-- **One event keeps an instance retired**, unless it resumes a `start_app` that starts a
    watch on the instance's registry node. -/
theorem Retired.step (hr : Retired D w i) (h : step D ext w e = some w')
    (hstart : startsNode D i e = false) : Retired D w' i := by
  have hprobe : ∀ t ∈ w'.tasks, probesNode D i t = false := fun t ht => by
    cases t with
    | addRouting j =>
      rcases step_addRouting_mem h ht with hj | ⟨l, rfl, rfl⟩
      · exact hr.no_probe _ hj
      · exact hstart
    | _ => rfl
  have hout := hr.of_retracts (Retracts.refl w.node)
  obtain ⟨hrun, hreg⟩ : i ∉ w'.node.runningInstances ∧
      w'.node.registry.get (i.versionKey D) (instanceEntry D i) = none := by
    rcases step_node_cases h with ⟨hn, -⟩ | ⟨l, ok, -, hn, -⟩ | ⟨entries, c, -, hn, -⟩ |
        ⟨j, ready, -, hj, hn, -⟩ | ⟨p, -, hn⟩
    · exact hr.of_retracts hn
    · rw [hn, fetchSource_after]
      split <;> exact hout
    · rw [hn]
      exact hout
    · rw [hn, addRouting_after]
      split
      · exact hr.register (of_decide_eq_false (hr.no_probe _ hj))
      · exact hout
    · rw [hn]
      exact hout
  exact ⟨hrun, hreg, hprobe⟩

/-- **No registration without a start.**  Along every run, an instance that is out of
    `running_instances` and the registry, with no probe pending on its registry node, stays
    out as long as no `start_app` starts a watch on that registry node (same version key and
    port): `register_instance` runs only in the `add_routing` of such a start. -/
theorem run_keeps_retired {es : List Event} (hr : Retired D w i) (h : run D ext w es = some w')
    (hstart : ∀ e ∈ es, startsNode D i e = false) :
    i ∉ w'.node.runningInstances ∧ w'.node.registry.get (i.versionKey D) (instanceEntry D i) = none := by
  induction es generalizing w with
  | nil =>
    cases h
    exact ⟨hr.not_running, hr.unregistered⟩
  | cons e es ih =>
    obtain ⟨w₁, h₁, h₂⟩ := run_cons_eq_some D ext h
    exact ih (hr.step h₁ (hstart e (List.mem_cons_self _ _))) h₂
      fun e he => hstart e (List.mem_cons_of_mem _ he)

end Retirement

/-- `start_app` of `guestbook_default_v1` on port 8080, its probe answering ready, then
    `stop_app` of the version. -/
def startProbeStop : List Event :=
  [.arrive (.startApp "guestbook_default_v1".toList ⟨some 8080, some "10.0.0.1".toList⟩),
    .sourceFetched guestbookStart true, .resume (.startFetched guestbookStart),
    .probeAnswered guestbookStart.instance true,
    .arrive (.stopApp "guestbook_default_v1".toList),
    .monitAnswered (.stopListing (.app "guestbook_default_v1".toList) none .request),
    .resume (.stopListing (.app "guestbook_default_v1".toList)
      (some [apiServerWatch "guestbook".toList 19999, instanceWatch specDeployment guestbookStart.revisionKey 8080]) .request),
    .monitAnswered (.stopReloading false .request), .resume (.stopReloading true .request),
    .monitAnswered (.cleanListing none .request), .resume (.cleanListing (some []) .request)]

/-- The same version started again, on port 8081. -/
def restartOn8081 : List Event :=
  [.arrive (.startApp "guestbook_default_v1".toList ⟨some 8081, some "10.0.0.1".toList⟩),
    .sourceFetched { guestbookStart with appPort := 8081 } true,
    .resume (.startFetched { guestbookStart with appPort := 8081 }),
    .probeAnswered { guestbookStart with appPort := 8081 }.instance true]

/-- The node once `startProbeStop` is over: the version node is left, and the source. -/
def stoppedWorld : World :=
  ⟨⟨⟨[], []⟩, [], [], ⟨["guestbook_default_v1".toList], []⟩, ["guestbook_default_v1_1".toList]⟩, [],
    guestbookProjects "1".toList⟩

theorem run_startProbeStop : run specDeployment Ext.ok idleWorld startProbeStop = some stoppedWorld := by
  decide

/-- After a stop with no probe pending, starting the version again on another port does
    not bring the stopped instance back. -/
theorem run_keeps_retired_restart_on_8081 :
    ∃ w', run specDeployment Ext.ok stoppedWorld restartOn8081 = some w' ∧
      guestbookStart.instance ∉ w'.node.runningInstances ∧
      w'.node.registry.get (guestbookStart.instance.versionKey specDeployment)
        (instanceEntry specDeployment guestbookStart.instance) = none :=
  ⟨_, rfl, run_keeps_retired ⟨by decide, by decide, by decide⟩
    (rfl : run specDeployment Ext.ok stoppedWorld restartOn8081 = _) (by decide)⟩

/-- `start_app` of `guestbook_default_v1` on port 8080 runs to its end, its probe still
    pending; then `stop_app` of the version runs to its end. -/
def startThenStop : List Event :=
  [.arrive (.startApp "guestbook_default_v1".toList ⟨some 8080, some "10.0.0.1".toList⟩),
    .sourceFetched guestbookStart true, .resume (.startFetched guestbookStart),
    .arrive (.stopApp "guestbook_default_v1".toList),
    .monitAnswered (.stopListing (.app "guestbook_default_v1".toList) none .request),
    .resume (.stopListing (.app "guestbook_default_v1".toList)
      (some [apiServerWatch "guestbook".toList 19999, instanceWatch specDeployment guestbookStart.revisionKey 8080]) .request),
    .monitAnswered (.stopReloading false .request), .resume (.stopReloading true .request),
    .monitAnswered (.cleanListing none .request), .resume (.cleanListing (some []) .request)]

/-- **A probe registers a torn-down instance.**  After `start_app` and then `stop_app` of
    `guestbook_default_v1`, the instance is out of `running_instances`, the registry and
    Monit; the probe `start_app` spawned answers next, and `register_instance` puts the
    instance back into `running_instances` and the registry while it has no watch. -/
theorem probeAnswered_registers_without_watch :
    ∃ w₁ w₂, run specDeployment Ext.ok idleWorld startThenStop = some w₁ ∧
      guestbookStart.instance ∉ w₁.node.runningInstances ∧
      w₁.node.registry.get "guestbook_default_v1".toList "10.0.0.2:8080".toList = none ∧
      instanceWatch specDeployment guestbookStart.revisionKey 8080 ∉ w₁.node.monit.watches ∧
      step specDeployment Ext.ok w₁ (.probeAnswered guestbookStart.instance true) = some w₂ ∧
      guestbookStart.instance ∈ w₂.node.runningInstances ∧
      w₂.node.registry.get "guestbook_default_v1".toList "10.0.0.2:8080".toList = some "1".toList ∧
      instanceWatch specDeployment guestbookStart.revisionKey 8080 ∉ w₂.node.monit.watches :=
  ⟨_, _, rfl, by decide, by decide, by decide, rfl, by decide, by decide, by decide⟩

/-! ### Sources and `clean_old_sources` -/

section Sources

variable {D ext} {w w' : World} {e : Event} {rk : Str}

end Sources

/-- `start_app` of `guestbook_default_v1` waits in `ensure_source` while `stop_app` of a
    version of another project runs; the fetch finishes, a redeploy moves the version to
    revision `2`, and the stop's `clean_old_sources` runs before `start_app` resumes. -/
def redeployDuringStart : List Event :=
  [.arrive (.startApp "guestbook_default_v1".toList ⟨some 8080, some "10.0.0.1".toList⟩),
    .arrive (.stopApp "other_default_v1".toList), .sourceFetched guestbookStart true,
    .projectsChanged (guestbookProjects "2".toList),
    .monitAnswered (.stopListing (.app "other_default_v1".toList) none .request),
    .resume (.stopListing (.app "other_default_v1".toList)
      (some [apiServerWatch "guestbook".toList 19999]) .request),
    .monitAnswered (.stopReloading false .request), .resume (.stopReloading true .request),
    .monitAnswered (.cleanListing none .request),
    .resume (.cleanListing (some [apiServerWatch "guestbook".toList 19999]) .request)]

/-- **A redeploy lets `clean_old_sources` delete a fetched source.**  In `redeployDuringStart`
    the source of `guestbook_default_v1_1` is fetched and then deleted, since neither a watch
    nor the projects model names the revision any more; `start_app` then resumes and starts
    the watch of a revision with no source on disk. -/
theorem redeploy_removes_source_before_watch_start :
    ∃ w₁ w₂, run specDeployment Ext.ok idleWorld redeployDuringStart = some w₁ ∧
      Event.sourceFetched guestbookStart true ∈ redeployDuringStart ∧
      guestbookStart.revisionKey ∉ w₁.node.sources ∧
      step specDeployment Ext.ok w₁ (.resume (.startFetched guestbookStart)) = some w₂ ∧
      instanceWatch specDeployment guestbookStart.revisionKey 8080 ∈ w₂.node.monit.watches ∧
      guestbookStart.revisionKey ∉ w₂.node.sources :=
  ⟨_, _, rfl, by decide, by decide, rfl, by decide, by decide⟩

/-! ### Serializability -/

/-- What a serial execution is compared on: `api_servers` and the set of Monit's watches. -/
def SameOutcome (s t : Node) : Prop :=
  (∀ P, dictGet P s.apiServers = dictGet P t.apiServers) ∧
    ∀ w, w ∈ s.monit.watches ↔ w ∈ t.monit.watches

/-- `final` is reached by handling the requests `rs` from `s₀` one after another, in some
    order, with some outcome of every fetch and probe. -/
def Serializable (projects : Projects) (rs : List Request) (s₀ final : Node) : Prop :=
  ∃ σ, σ.Perm rs ∧ ∃ fetchOk ready, SameOutcome (serial D ext projects fetchOk ready σ s₀) final

/-- The orders of two requests. -/
theorem perm_pair {α : Type} {a b : α} {σ : List α} (h : σ.Perm [a, b]) : σ = [a, b] ∨ σ = [b, a] := by
  obtain ⟨x, y, rfl⟩ : ∃ x y, σ = [x, y] := by
    match σ, h.length_eq with
    | [x, y], _ => exact ⟨x, y, rfl⟩
  rcases List.mem_pair.1 (h.subset (List.mem_cons_self x _)) with rfl | rfl
  · exact .inl (by rw [((List.perm_cons x).1 h).eq_singleton])
  · exact .inr (by rw [((List.perm_cons x).1 (h.trans (List.Perm.swap x a []))).eq_singleton])

/-- Versions `v1` and `v2` of `guestbook`, both at revision `1`. -/
def twoVersions : Projects :=
  [(("guestbook".toList, "default".toList, "v1".toList),
      ⟨"python27".toList, "1".toList, "gs://guestbook/app.zip".toList, none⟩),
    (("guestbook".toList, "default".toList, "v2".toList),
      ⟨"python27".toList, "1".toList, "gs://guestbook/app.zip".toList, none⟩)]

/-- The node at boot, after `recover_state`: the instance of `guestbook_default_v1` on 8080
    and the API server of `guestbook` run, and `api_servers` is still empty. -/
def v1Running : Node where
  monit :=
    { entries := [(instanceWatch specDeployment "guestbook_default_v1_1".toList 8080, .running),
        (apiServerWatch "guestbook".toList 19999, .running)]
      configs := [instanceWatch specDeployment "guestbook_default_v1_1".toList 8080,
        apiServerWatch "guestbook".toList 19999] }
  apiServers := []
  runningInstances := [⟨"guestbook_default_v1_1".toList, 8080⟩]
  registry :=
    { versions := ["guestbook_default_v1".toList]
      nodes := [(("guestbook_default_v1".toList, "10.0.0.2:8080".toList), "1".toList)] }
  sources := ["guestbook_default_v1_1".toList]

/-- `v1Running` once `populate_api_servers` has read the API server back. -/
def v1Populated : Node := { v1Running with apiServers := [("guestbook".toList, 19999)] }

theorem apiServerInvariant_v1Populated : ApiServerInvariant specDeployment v1Populated where
  iff_instance P := by
    rw [dictGet_isSome_iff, show instanceProjects specDeployment v1Populated = ["guestbook".toList] by
      decide]
    rfl
  watch P port h := by
    simp only [v1Populated, v1Running, dictGet] at h
    split_ifs at h with hP
    cases h
    subst hP
    decide

/-- What `start_app('guestbook_default_v2', {app_port: 8081, …})` holds across its `yield`. -/
def v2Start : StartLocals :=
  ⟨"guestbook_default_v2".toList, "guestbook".toList, "guestbook_default_v2_1".toList,
    "python27".toList, 400, 8081⟩

/-- `POST /versions/guestbook_default_v2` on port 8081. -/
def startV2 : Request := .startApp "guestbook_default_v2".toList ⟨some 8081, some "10.0.0.1".toList⟩

/-- `DELETE /versions/guestbook_default_v1`. -/
def stopV1 : Request := .stopApp "guestbook_default_v1".toList

/-- `start_app` of `v2` passes `ensure_api_server` and waits in `ensure_source`; meanwhile
    `stop_app` of `v1` lists the watches, tears `v1` down and, seeing no other instance
    watch of `guestbook`, stops its API server; then `v2` is fetched, started and probed. -/
def stopV1DuringStartV2 : List Event :=
  [.arrive startV2, .arrive stopV1,
    .monitAnswered (.stopListing (.app "guestbook_default_v1".toList) none .request),
    .resume (.stopListing (.app "guestbook_default_v1".toList) (some
      [instanceWatch specDeployment "guestbook_default_v1_1".toList 8080,
        apiServerWatch "guestbook".toList 19999]) .request),
    .monitAnswered (.stopReloading false .request), .resume (.stopReloading true .request),
    .monitAnswered (.cleanListing none .request), .resume (.cleanListing (some []) .request),
    .sourceFetched v2Start true, .resume (.startFetched v2Start),
    .probeAnswered v2Start.instance true]

/-- **A stale listing in `stop_app` breaks I3, and no serial order explains it.**  From the
    node after `populate_api_servers`, which satisfies I3, `stop_app` of `guestbook_default_v1`
    interleaved with `start_app` of `guestbook_default_v2` ends with every coroutine done,
    `v2`'s watch running and no API server for `guestbook`.  Neither order of the two requests,
    with any outcome of the fetch and the probe, ends with these `api_servers` and watches. -/
theorem stopApp_startApp_race_not_serializable :
    ∃ w, run specDeployment Ext.ok ⟨v1Populated, [], twoVersions⟩ stopV1DuringStartV2 = some w ∧
      w.tasks = [] ∧ ApiServerInvariant specDeployment v1Populated ∧
      dictGet "guestbook".toList w.node.apiServers = none ∧
      instanceWatch specDeployment "guestbook_default_v2_1".toList 8081 ∈ w.node.monit.watches ∧
      ¬ ApiServerInvariant specDeployment w.node ∧
      ¬ Serializable specDeployment Ext.ok twoVersions [startV2, stopV1] v1Populated w.node := by
  refine ⟨_, rfl, rfl, apiServerInvariant_v1Populated, by decide, by decide, fun hi => ?_, ?_⟩
  · exact absurd ((hi.iff_instance "guestbook".toList).2 (by decide)) (by decide)
  · rintro ⟨σ, hσ, fetchOk, ready, hsame, hwatch⟩
    rcases perm_pair hσ with rfl | rfl <;> cases hf : fetchOk startV2 <;> cases hr : ready startV2 <;>
      simp only [serial, List.foldl_cons, List.foldl_nil, Request.handle, stopV1, hf, hr] at hsame hwatch
    all_goals first
      | exact absurd (hsame "guestbook".toList) (by decide)
      | exact absurd (hwatch (instanceWatch specDeployment "guestbook_default_v2_1".toList 8081)) (by decide)

end AppManager
