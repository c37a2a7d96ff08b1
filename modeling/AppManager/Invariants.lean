import AppManager.Moves
import AppManager.Recover
import AppManager.Races
import AppManager.ApiServers

namespace AppManager

/-!
# AppManager — what every run of the event loop keeps

The instance manager keeps three books of what runs on its node: `running_instances`, the
registry children it advertises, and `api_servers`.  This file proves, for every
interleaving of requests, fetches, Monit's answers, probes and the failure detector's ticks,
what those books keep:

* `step_tasks` — where the coroutines suspended after an event come from;
* `run_moves` — every run is a chain of steps, each made of the moves of `AppManager.Moves`
  its world allows;
* `RegistrySound` — every registry child of this machine is the child of an instance of
  `running_instances`, holding its revision; `recover_state` makes it true at boot
  (`recoverState_registrySound`) and every run keeps it (`boot_run_registrySound`);
* `run_registryShape` — every run whose start requests ask for non-negative ports keeps the
  registry in the shape `recover_state` reads back at the next boot;
* `run_apiServersSupervised` — once `populate_api_servers` is over, `api_servers` records
  only projects whose API-server watch Monit lists and has a configuration for;
* `run_portsDistinct` — and no two of them share a port;
* `boot_run_runningNodup` — `running_instances` stays a set from boot on;
* `run_probeAnswered_registers` — a probe answering ready always finds its version node, so
  `register_instance` in `add_routing` never raises.

Each is proved once per move of `AppManager.Moves` and carried to every run by
`run_preserves`.
-/

variable (D : Deployment) (ext : Ext)

/-! ### The suspended coroutines -/

/-- A task of a stop (its listing, its `reload`, its `clean_old_sources`) or of the failure
    detector: it holds no instance to start and no listing for `populate_api_servers`. -/
def Task.IsStopOrTick : Task → Prop
  | .stopListing .. | .stopReloading .. | .cleanListing .. => True
  | .tickFetching | .tickFetched _ | .tickStopped .. => True
  | _ => False

theorem Task.isStopOrTick_of_mem_resumes {c : Caller} {t : Task} (h : t ∈ c.resumes) :
    t.IsStopOrTick := by
  cases c with
  | request => cases h
  | tick failed size =>
    rw [List.mem_singleton.1 h]
    trivial

section Tasks

variable {D ext} {w w' : World} {e : Event}

/-- **Where suspended coroutines come from.**  A property of tasks that holds of every task
    of a world holds of every task after an event, when it holds of the task a `start_app`
    suspends at its fetch, passes from a task to its continuation, and holds of every task
    of the stops, of `clean_old_sources` and of the failure detector. -/
theorem step_tasks {Q : Task → Prop} (hw : ∀ t ∈ w.tasks, Q t)
    (hstart : ∀ vk config l s', e = .arrive (.startApp vk config) →
      startAppBegin D ext w.projects vk config w.node = .ok l s' → Q (.startFetching l))
    (hfetched : ∀ l, Q (.startFetching l) → Q (.startFetched l))
    (hroute : ∀ l, Q (.startFetched l) → startAppFinish D ext l w.node = .ok () w'.node →
      Q (.addRouting l.instance))
    (hstop : ∀ t : Task, t.IsStopOrTick → Q t)
    (hpopulate : ∀ entries, Q (.populateListing none) → Q (.populateListing (some entries)))
    (h : step D ext w e = some w') : ∀ t ∈ w'.tasks, Q t := by
  have hrest : ∀ t, ∀ t' ∈ w.tasks.erase t, Q t' := fun t t' ht' => hw t' (List.mem_of_mem_erase ht')
  intro t ht
  cases e with
  | arrive r =>
    cases h
    cases r with
    | startApp vk config =>
      simp only [arrive] at ht
      cases hb : startAppBegin D ext w.projects vk config w.node <;>
        simp only [hb, World.continueWith, List.mem_append, List.mem_singleton] at ht
      · rcases ht with ht | rfl
        exacts [hw t ht, hstart vk config _ _ rfl hb]
      · exact hw t ht
    | _ =>
      rcases mem_tasks_continueWith ht with ht | ⟨_, ht⟩
      · exact hw t ht
      · rw [List.mem_singleton.1 ht]
        exact hstop _ trivial
  | sourceFetched l ok =>
    simp only [step] at h
    split at h <;> cases h
    rcases mem_tasks_continueWith ht with ht | ⟨_, ht⟩
    · exact hrest _ t ht
    · rw [List.mem_singleton.1 ht]
      exact hfetched l (hw _ ‹_›)
  | monitAnswered t₀ =>
    simp only [step] at h
    split at h
    · obtain ⟨⟨s', t₁⟩, ha, rfl⟩ := Option.map_eq_some'.1 h
      rcases List.mem_append.1 ht with ht | ht
      · exact hrest _ t ht
      rw [List.mem_singleton.1 ht]
      unfold answer at ha
      split at ha <;> cases ha
      exacts [hstop _ trivial, hstop _ trivial, hstop _ trivial, hpopulate _ (hw _ ‹_›)]
    · cases h
  | resume t₀ =>
    simp only [step] at h
    split at h
    · rename_i ht₀
      unfold resume at h
      split at h <;> cases h
      · rename_i l
        cases hf : startAppFinish D ext l w.node <;>
          simp only [hf, World.continueWith, List.mem_append, List.mem_singleton] at ht
        · rcases ht with ht | rfl
          exacts [hrest _ t ht, hroute _ (hw _ ht₀) (by rw [node_continueWith, hf]; rfl)]
        · exact hrest _ t ht
      · rcases mem_tasks_continueWith ht with ht | ⟨_, ht⟩
        · exact hrest _ t ht
        · rw [List.mem_singleton.1 ht]
          exact hstop _ trivial
      · rcases List.mem_append.1 ht with ht | ht
        · exact hrest _ t ht
        · rw [List.mem_singleton.1 ht]
          exact hstop _ trivial
      · rcases mem_tasks_continueWith ht with ht | ⟨_, ht⟩
        · exact hrest _ t ht
        · exact hstop _ (Task.isStopOrTick_of_mem_resumes ht)
      · exact hrest _ t ((mem_tasks_continueWith ht).resolve_right (by simp))
    · cases h
  | probeAnswered i ready =>
    simp only [step] at h
    split at h <;> cases h
    exact hrest _ t ((mem_tasks_continueWith ht).resolve_right (by simp))
  | projectsChanged p =>
    cases h
    exact hw t ht
  | tick =>
    cases h
    rcases List.mem_append.1 ht with ht | ht
    · exact hw t ht
    · rw [List.mem_singleton.1 ht]
      exact hstop _ trivial
  | statsAnswered stats =>
    simp only [step] at h
    split at h <;> cases h
    rcases List.mem_append.1 ht with ht | ht
    · exact hrest _ t ht
    · obtain ⟨_, _, rfl⟩ := List.mem_map.1 ht
      exact hstop _ trivial
  | resumeLoop t₀ next =>
    simp only [step] at h
    split at h
    · rcases resumeLoop_tasks h ht with ht | ⟨_, _, rfl⟩
      · exact hrest _ t ht
      · exact hstop _ trivial
    · cases h

end Tasks

/-! ### The event loop refines the moves -/

/-- **Every run is made of moves.**  A run of the event loop is a chain of steps, each
    taken on an event the loop accepts in the world it starts from, and each changing the
    node only by moves that world allows: `ensure_api_server` of a valid project,
    teardowns of instance watches, registrations of instances whose probe is pending under
    an existing version node, `populate_api_servers` while its listing is pending, and the
    other primitive changes of `Move`. -/
theorem run_moves {w w' : World} {es : List Event} (h : run D ext w es = some w') :
    Relation.ReflTransGen
      (fun w w' => (∃ e, step D ext w e = some w') ∧ Moves D ext w.tasks w.node w'.node) w w' := by
  induction es generalizing w with
  | nil =>
    cases h
    exact .refl
  | cons e es ih =>
    obtain ⟨w₁, h₁, h₂⟩ := run_cons_eq_some D ext h
    exact .head ⟨⟨e, h₁⟩, step_moves h₁⟩ (ih h₂)

/-- The run `startProbeStop` from `idleWorld`, as moves. -/
theorem run_moves_startProbeStop :
    Relation.ReflTransGen (fun w w' => (∃ e, step specDeployment Ext.ok w e = some w') ∧
      Moves specDeployment Ext.ok w.tasks w.node w'.node) idleWorld stoppedWorld :=
  run_moves specDeployment Ext.ok run_startProbeStop

/-! ### The registry advertises only running instances -/

/-- Every registry child of this machine is the child of an instance of `running_instances`
    (its version key and port) and holds that instance's revision. -/
def RegistrySound (s : Node) : Prop :=
  ∀ v e x, entryIp e = D.privateIp → s.registry.get v e = some x →
    ∃ i ∈ s.runningInstances, i.versionKey D = v ∧ instanceEntry D i = e ∧ i.revision D = x

section Sound

variable {D ext} {s : Node}

theorem RegistrySound.of_eq (hs : RegistrySound D s) {s' : Node}
    (h₁ : s'.runningInstances = s.runningInstances) (h₂ : s'.registry.nodes = s.registry.nodes) :
    RegistrySound D s' := fun v e x hip hget => by
  rw [h₁]
  exact hs v e x hip (by rwa [Registry.get, ← h₂])

theorem RegistrySound.register (hs : RegistrySound D s) (i : Instance) :
    RegistrySound D (s.register D i) := fun v e x hip hget => by
  rw [registry_register, Registry.get_put] at hget
  split at hget
  · rename_i hkey
    obtain ⟨rfl, rfl⟩ := Prod.mk.inj hkey
    exact ⟨i, List.mem_insert_self _ _, rfl, rfl, Option.some.inj hget⟩
  · obtain ⟨j, hj, hrest⟩ := hs v e x hip hget
    exact ⟨j, List.mem_insert_of_mem hj, hrest⟩

theorem RegistrySound.unregister (hs : RegistrySound D s) (i : Instance) :
    RegistrySound D (s.unregister D i) := fun v e x hip hget => by
  rw [registry_unregister, Registry.get_delete] at hget
  split at hget
  · cases hget
  · rename_i hkey
    obtain ⟨j, hj, rfl, rfl, rfl⟩ := hs v e x hip hget
    exact ⟨j, List.mem_erase_of_ne (fun hji => hkey (by rw [hji])) |>.2 hj, rfl, rfl, rfl⟩

/-- Every move keeps the registry sound: `register_instance` and `unregister_instance` change
    the child and the instance together, and no other move touches either. -/
theorem RegistrySound.move {ts : List Task} {s' : Node} (hm : Move D ext ts s s')
    (hs : RegistrySound D s) : RegistrySound D s' := by
  cases hm with
  | register i => exact hs.register i
  | unregister i => exact hs.unregister i
  | ensureApiServer P => exact hs.of_eq (by simp) (by simp)
  | stopApiServer P => exact hs.of_eq (by simp) (by simp)
  | unmonitorAndTerminate w => exact hs.of_eq (by simp) (by simp)
  | populate entries => exact hs.of_eq (by simp) (by simp)
  | _ => exact hs.of_eq rfl rfl

/-- **The registry advertises only running instances.**  Along every run of the event loop,
    whatever requests arrive and however their coroutines interleave, every registry child
    of this machine stays the child of an instance of `running_instances` holding its
    revision, once it is so. -/
theorem run_registrySound {w w' : World} {es : List Event} (h : run D ext w es = some w')
    (hs : RegistrySound D w.node) : RegistrySound D w'.node :=
  run_preserves_moves (fun _ _ _ hm hs => hs.move hm) h hs

end Sound

section Boot

variable {D ext} {s : Node}
  (hsep : D.sep = '_') (hr : RegistryShape D s.registry)
  (hd : ∀ w ∈ remainingWatches D s.monit, ∀ w' ∈ remainingWatches D s.monit, ∀ i j,
    parseInstanceWatch D w = some i → parseInstanceWatch D w' = some j →
    i.versionKey D = j.versionKey D → i.port = j.port → i = j)
include hsep hr hd

/-- `main` sets `running_instances` to what `recover_state` returns: the registry is then
    sound. -/
theorem recoverState_registrySound {L : Layout} {procs : List Process} {R : List Instance}
    {killed : List Nat} {s' : Node} (h : recoverState D L procs s = .ok (R, killed) s') :
    RegistrySound D { s' with runningInstances := R } := by
  unfold recoverState at h
  split at h
  · cases h
  rename_i details hdetails
  split at h
  · cases h
  obtain ⟨s4, hrun, -, hown, -⟩ := declareInstanceNodes_recovered D hsep hr hd hdetails
    { s.withMonit (dropUnmonitored D) with
      registry := (runningVersions details).foldl Registry.ensurePath s.registry } rfl
  dsimp only [Node.withMonit] at h hrun
  rw [hrun] at h
  cases h
  exact fun v e x hip hget => (hown v e x hip).1 hget

/-- **From boot on, the registry advertises only running instances.**  When `recover_state`
    returns `R` (on a registry of the shape the manager builds, with
    `VERSION_PATH_SEPARATOR = '_'` and monitored watches of distinct version and port),
    `main` sets `running_instances` to `R` and starts the event loop with
    `populate_api_servers` pending; along every run from there, every registry child of
    this machine is the child of a running instance and holds its revision. -/
theorem boot_run_registrySound (L : Layout) (procs : List Process) (R : List Instance)
    (killed : List Nat) (s' : Node) (h : recoverState D L procs s = .ok (R, killed) s')
    (projects : Projects) (es : List Event) (w' : World)
    (hrun : run D ext ⟨{ s' with runningInstances := R }, [.populateListing none], projects⟩ es = some w') :
    RegistrySound D w'.node :=
  run_registrySound hrun (recoverState_registrySound hsep hr hd h)

end Boot

/-- `stop_app` of `guestbook_default_v1` on the node `recover_state` leaves from `bootNode`,
    up to its `reload`, while `populate_api_servers` is still waiting on Monit. -/
def bootStop : List Event :=
  [.arrive (.stopApp "guestbook_default_v1".toList),
    .monitAnswered (.stopListing (.app "guestbook_default_v1".toList) none .request),
    .resume (.stopListing (.app "guestbook_default_v1".toList)
      (some ["instance_guestbook_default_v1_1-8080".toList, "api-server_guestbook-19999".toList]) .request)]

/-- Recovering `bootNode` and stopping its version: the registry stays sound. -/
theorem boot_run_registrySound_bootStop :
    ∃ w', run specDeployment Ext.ok
      ⟨{ bootNodeRecovered with runningInstances := [⟨"guestbook_default_v1_1".toList, 8080⟩] },
        [.populateListing none], []⟩ bootStop = some w' ∧ RegistrySound specDeployment w'.node :=
  ⟨_, rfl, boot_run_registrySound rfl registryShape_bootNode bootNode_distinct
    sampleLayout [] _ [] bootNodeRecovered rfl [] bootStop _ rfl⟩


/-! ### `running_instances` stays a set -/

section Running

variable {D ext}

/-- `register_instance` adds to `running_instances` as `set.add` does, and
    `unregister_instance` removes one copy as `set.remove` does: no move makes a duplicate. -/
theorem Move.runningNodup {ts : List Task} {s s' : Node} (hm : Move D ext ts s s')
    (hs : s.runningInstances.Nodup) : s'.runningInstances.Nodup := by
  cases hm with
  | register i => exact hs.insert
  | unregister i => exact hs.erase i
  | _ => simpa using hs

/-- What `recover_state` returns has no duplicates: it is the set of the parsed watches. -/
theorem recoverState_nodup {s s' : Node} {L : Layout} {procs : List Process} {R : List Instance}
    {killed : List Nat} (h : recoverState D L procs s = .ok (R, killed) s') : R.Nodup := by
  unfold recoverState at h
  split at h
  · cases h
  split at h
  · cases h
  dsimp only at h
  split at h <;> cases h
  exact List.nodup_dedup _

/-- **`running_instances` stays a set.**  From the `running_instances` `main` takes from
    `recover_state`, along every run of the event loop, `running_instances` has no
    duplicates, as the Python set it models. -/
theorem boot_run_runningNodup {s s' : Node} {L : Layout} {procs : List Process} {R : List Instance}
    {killed : List Nat} (h : recoverState D L procs s = .ok (R, killed) s') {projects : Projects}
    {es : List Event} {w' : World}
    (hrun : run D ext ⟨{ s' with runningInstances := R }, [.populateListing none], projects⟩ es = some w') :
    w'.node.runningInstances.Nodup :=
  run_preserves_moves (fun _ _ _ hm hs => hm.runningNodup hs) hrun (recoverState_nodup h)

end Running

/-! ### The registry keeps the shape `recover_state` reads -/

/-- An instance `register_instance` can write in the shape `recover_state` reads back: its
    revision key has at least the three components of a version key, and its port is not
    negative. -/
def Instance.WellNamed (i : Instance) : Prop := 3 ≤ (split D.sep i.revisionKey).length ∧ 0 ≤ i.port

/-- The instances a suspended `start_app` and its `add_routing` hold are well named. -/
def Task.WellNamed : Task → Prop
  | .startFetching l => l.instance.WellNamed D
  | .startFetched l => l.instance.WellNamed D
  | .addRouting i => i.WellNamed D
  | _ => True

/-- A start request, if the event is one, asks for a port that is not negative. -/
def Event.PortNonneg : Event → Prop
  | .arrive (.startApp _ config) => ∀ p, config.appPort = some p → 0 ≤ p
  | _ => True

/-- The registry's shape, and well-named instances in every suspended `start_app` and
    `add_routing`. -/
structure ShapeInvariant (w : World) : Prop where
  shape : RegistryShape D w.node.registry
  named : ∀ t ∈ w.tasks, t.WellNamed D

section Shape

variable {D ext} {r : Registry}

/-- A revision key `start_app` builds has at least four components. -/
theorem four_le_length_split_revisionKeyOf (a b c rev : Str) :
    4 ≤ (split D.sep (revisionKeyOf D a b c rev)).length := by
  have hjoin : revisionKeyOf D a b c rev = a ++ D.sep :: (b ++ D.sep :: (c ++ D.sep :: rev)) := by
    simp [revisionKeyOf, join, List.intercalate]
  have hne : ∀ x, 1 ≤ (split D.sep x).length := fun x =>
    List.length_pos.2 (List.splitOnP_ne_nil _ _)
  rw [hjoin, split_append_cons, split_append_cons, split_append_cons]
  simp only [List.length_append]
  have := hne a; have := hne b; have := hne c; have := hne rev
  omega

/-- `register_instance` of a well-named instance under an existing version node keeps the
    registry's shape. -/
theorem RegistryShape.register (hr : RegistryShape D r) {i : Instance} (hi : i.WellNamed D)
    (hv : i.versionKey D ∈ r.versions) :
    RegistryShape D (r.put (i.versionKey D) (instanceEntry D i) (i.revision D)) := by
  have hpiece : ∀ x ∈ split D.sep i.revisionKey, D.sep ∉ x := fun _ hx => not_mem_of_mem_split hx
  obtain ⟨p, q, u, rest, hsplit⟩ : ∃ p q u rest, split D.sep i.revisionKey = p :: q :: u :: rest := by
    have hlen := hi.1
    generalize split D.sep i.revisionKey = l at hlen ⊢
    rcases l with _ | ⟨p, _ | ⟨q, _ | ⟨u, rest⟩⟩⟩
    all_goals simp only [List.length_cons, List.length_nil] at hlen
    all_goals first | omega | exact ⟨p, q, u, rest, rfl⟩
  have hrev : D.sep ∉ i.revision D := by
    have hne : split D.sep i.revisionKey ≠ [] := by simp [hsplit]
    refine hpiece _ ?_
    rw [Instance.revision, List.getLastD_eq_getLast?, List.getLast?_eq_getLast _ hne]
    exact List.getLast_mem hne
  refine ⟨nodup_keys_dictSet _ _ _ hr.nodup, fun n hn => ?_, fun n hn => ?_, fun n hn => ?_,
    fun n hn => ?_⟩ <;> rcases mem_dictSet hn with rfl | hn
  · exact hv
  · exact hr.listed n hn
  · exact ⟨p, q, u, hpiece p (by simp [hsplit]), hpiece q (by simp [hsplit]),
      hpiece u (by simp [hsplit]), by simp [Instance.versionKey, hsplit]⟩
  · exact hr.version_name n hn
  · exact ⟨D.privateIp, i.port.toNat, D.privateIp_no_colon,
      by simp [instanceEntry, Int.toNat_of_nonneg hi.2]⟩
  · exact hr.child_name n hn
  · exact hrev
  · exact hr.payload n hn

/-- Deleting a child keeps the registry's shape. -/
theorem RegistryShape.delete (hr : RegistryShape D r) (v e : Str) : RegistryShape D (r.delete v e) :=
  ⟨nodup_keys_dictDel _ _ hr.nodup, fun n hn => hr.listed n (mem_of_mem_dictDel hn),
    fun n hn => hr.version_name n (mem_of_mem_dictDel hn),
    fun n hn => hr.child_name n (mem_of_mem_dictDel hn), fun n hn => hr.payload n (mem_of_mem_dictDel hn)⟩

/-- Every move keeps the registry's shape, when every pending probe holds a well-named
    instance: `register_instance` is the only move that adds a child. -/
theorem RegistryShape.move {ts : List Task} (hts : ∀ t ∈ ts, t.WellNamed D) {s s' : Node}
    (hm : Move D ext ts s s') (hr : RegistryShape D s.registry) : RegistryShape D s'.registry := by
  cases hm with
  | register i hi hv => exact hr.register (hts _ hi) hv
  | unregister i => exact hr.delete _ _
  | ensurePath v => exact hr.foldl_ensurePath D [v]
  | ensureApiServer P => simpa using hr
  | stopApiServer P => simpa using hr
  | unmonitorAndTerminate w => simpa using hr
  | populate entries => simpa using hr
  | _ => exact hr

/-- The instance a `start_app` hands on is well named when the request's port is not
    negative. -/
theorem startAppBegin_wellNamed {projects : Projects} {vk : Str} {config : StartConfig} {s s' : Node}
    {l : StartLocals} (h : startAppBegin D ext projects vk config s = .ok l s')
    (hport : ∀ p, config.appPort = some p → 0 ≤ p) : l.instance.WellNamed D := by
  rcases startAppBegin_validates D ext projects vk config s with ⟨_, hb⟩ | ⟨-, ⟨_, hb⟩ | ⟨l', hb, -, hp, a, b, c, details, -, -, hrk⟩⟩ <;>
    rw [hb] at h <;> cases h
  refine ⟨?_, hport _ hp⟩
  show 3 ≤ (split D.sep l.revisionKey).length
  rw [hrk]
  exact le_trans (by decide) (four_le_length_split_revisionKeyOf a b c details.revision)

theorem ShapeInvariant.step {w w' : World} {e : Event} (hw : ShapeInvariant D w) (he : e.PortNonneg)
    (h : step D ext w e = some w') : ShapeInvariant D w' where
  shape := (step_moves h).preserves (P := fun s => RegistryShape D s.registry)
    (fun _ _ hm hr => hr.move hw.named hm) hw.shape
  named := step_tasks hw.named
    (fun _ _ _ _ he' hb => startAppBegin_wellNamed hb (by subst he'; exact he))
    (fun _ hl => hl) (fun _ hl _ => hl) (fun t _ => by cases t <;> trivial)
    (fun _ _ => trivial) h

/-- **The registry keeps the shape `recover_state` reads.**  From a world whose registry has
    the shape the manager builds and where no coroutine holds a badly named instance, every
    run whose start requests ask for non-negative ports ends with a registry of that shape:
    distinct paths, children under existing version nodes, version nodes named by three ids,
    children named `ip:port`, revision payloads. -/
theorem run_registryShape {w w' : World} {es : List Event} (hr : RegistryShape D w.node.registry)
    (hts : ∀ t ∈ w.tasks, t.WellNamed D) (hes : ∀ e ∈ es, e.PortNonneg)
    (h : run D ext w es = some w') : RegistryShape D w'.node.registry :=
  (run_preserves (I := ShapeInvariant D) (fun hw he h => hw.step he h) hes h ⟨hr, hts⟩).shape

end Shape

/-- After the stop of `startProbeStop`, the version started again on port 8081 and its probe
    answering: the registry has its shape. -/
theorem run_registryShape_restartOn8081 :
    ∃ w', run specDeployment Ext.ok stoppedWorld restartOn8081 = some w' ∧
      RegistryShape specDeployment w'.node.registry :=
  ⟨_, rfl, run_registryShape (w := stoppedWorld)
    ⟨List.nodup_nil, fun n hn => absurd hn (List.not_mem_nil n), fun n hn => absurd hn (List.not_mem_nil n),
      fun n hn => absurd hn (List.not_mem_nil n), fun n hn => absurd hn (List.not_mem_nil n)⟩
    (fun t ht => absurd ht (List.not_mem_nil t))
    (fun e he => by
      simp only [restartOn8081, List.mem_cons, List.mem_singleton, List.not_mem_nil, or_false] at he
      rcases he with rfl | rfl | rfl | rfl <;> simp [Event.PortNonneg])
    (rfl : run specDeployment Ext.ok stoppedWorld restartOn8081 = _)⟩

/-! ### A probe never meets a missing version node -/

/-- What a suspended `start_app` or `add_routing` needs of the version nodes `V`: the locals
    of a start name the version key of the instance it will start, and a pending probe's
    instance has its version node. -/
def Task.Routed (V : List Str) : Task → Prop
  | .startFetching l => l.instance.versionKey D = l.versionKey
  | .startFetched l => l.instance.versionKey D = l.versionKey
  | .addRouting i => i.versionKey D ∈ V
  | _ => True

section Routing

variable {D ext}

/-- No move deletes a version node. -/
theorem Move.versions_mono {ts : List Task} {s s' : Node} (hm : Move D ext ts s s') {v : Str}
    (hv : v ∈ s.registry.versions) : v ∈ s'.registry.versions := by
  cases hm with
  | ensurePath v' => exact List.mem_insert_of_mem hv
  | ensureApiServer P => simpa using hv
  | stopApiServer P => simpa using hv
  | unmonitorAndTerminate w => simpa using hv
  | populate entries => simpa using hv
  | _ => exact hv

theorem Task.Routed.mono {V V' : List Str} (h : ∀ v ∈ V, v ∈ V') {t : Task} (ht : t.Routed D V) :
    t.Routed D V' := by
  cases t
  case addRouting i => exact h _ ht
  all_goals exact ht

theorem step_routed {w w' : World} {e : Event}
    (hw : ∀ t ∈ w.tasks, t.Routed D w.node.registry.versions) (h : step D ext w e = some w') :
    ∀ t ∈ w'.tasks, t.Routed D w'.node.registry.versions := by
  have hmono : ∀ v ∈ w.node.registry.versions, v ∈ w'.node.registry.versions := fun v hv =>
    (step_moves h).preserves (P := fun s => v ∈ s.registry.versions) (fun _ _ hm hs => hm.versions_mono hs) hv
  refine step_tasks (fun t ht => (hw t ht).mono hmono) ?_ (fun _ hl => hl) ?_
    (fun t _ => by cases t <;> trivial) (fun _ _ => trivial) h
  · intro vk config l s' _ hb
    rcases startAppBegin_spec D ext w.projects vk config w.node with ⟨_, hb'⟩ | ⟨_, hb'⟩ |
        ⟨l', hb', hvk, hivk⟩ <;> rw [hb'] at hb <;> cases hb
    exact hivk.trans hvk.symm
  · intro l hl hf
    rcases startAppFinish_cases D ext l w.node with ⟨_, h'⟩ | ⟨_, h'⟩ | h' <;> rw [h'] at hf
    · cases hf
    · cases hf
    · injection hf with _ hn
      rw [← hn]
      show l.instance.versionKey D ∈ w.node.registry.versions.insert l.versionKey
      rw [hl]
      exact List.mem_insert_self _ _

theorem run_routed {w w' : World} {es : List Event}
    (hw : ∀ t ∈ w.tasks, t.Routed D w.node.registry.versions) (h : run D ext w es = some w') :
    ∀ t ∈ w'.tasks, t.Routed D w'.node.registry.versions :=
  run_preserves (I := fun w => ∀ t ∈ w.tasks, t.Routed D w.node.registry.versions) (E := fun _ => True)
    (fun hw _ h => step_routed hw h) (fun _ _ => trivial) h hw

/-- **A probe never meets a missing version node.**  `start_app` ensures the version node
    before it spawns `add_routing`, and nothing deletes a version node: along every run from a
    world whose suspended starts and probes are so, a pending probe that answers ready
    registers its instance, whatever ran in between, and `register_instance` never raises
    `NoNodeError`. -/
theorem run_probeAnswered_registers {w w' : World} {es : List Event} {i : Instance}
    (hw : ∀ t ∈ w.tasks, t.Routed D w.node.registry.versions) (h : run D ext w es = some w')
    (hi : Task.addRouting i ∈ w'.tasks) :
    step D ext w' (.probeAnswered i true) =
      some { w' with node := w'.node.register D i, tasks := w'.tasks.erase (.addRouting i) } := by
  have hv : i.versionKey D ∈ w'.node.registry.versions := run_routed hw h _ hi
  simp [step, hi, World.continueWith, addRouting, registerInstance, hv]

end Routing

/-- `start_app` and then `stop_app` of `guestbook_default_v1` from an idle node, the probe
    still pending: when it answers, it registers the instance. -/
theorem run_probeAnswered_registers_startThenStop :
    ∃ w', run specDeployment Ext.ok idleWorld startThenStop = some w' ∧
      Task.addRouting guestbookStart.instance ∈ w'.tasks ∧
      step specDeployment Ext.ok w' (.probeAnswered guestbookStart.instance true) =
        some ⟨w'.node.register specDeployment guestbookStart.instance,
          w'.tasks.erase (.addRouting guestbookStart.instance), w'.projects⟩ :=
  ⟨_, rfl, by decide, run_probeAnswered_registers (w := idleWorld) (fun _ h => absurd h (List.not_mem_nil _))
    (rfl : run specDeployment Ext.ok idleWorld startThenStop = _) (by decide)⟩

/-! ### `api_servers` records only API servers Monit supervises -/

/-- Every project `api_servers` records is a valid project id whose API server's watch Monit
    lists and has a configuration for. -/
structure ApiServersSupervised (s : Node) : Prop where
  supervised : ∀ P port, dictGet P s.apiServers = some port →
    apiServerWatch P port ∈ s.monit.watches ∧ apiServerWatch P port ∈ s.monit.configs
  valid : ∀ P ∈ s.apiServers.map Prod.fst, D.isAppNameValid P = true

/-- No `populate_api_servers` is pending: `main` runs it once, before the loop serves. -/
def NoPopulate (ts : List Task) : Prop := ∀ entries, Task.populateListing entries ∉ ts

section Supervised

variable {D ext} {s : Node}

theorem ApiServersSupervised.of_grow (hs : ApiServersSupervised D s) {s' : Node}
    (h₁ : s'.apiServers = s.apiServers) (hw : ∀ x ∈ s.monit.watches, x ∈ s'.monit.watches)
    (hc : ∀ x ∈ s.monit.configs, x ∈ s'.monit.configs) : ApiServersSupervised D s' where
  supervised P port h := by
    rw [h₁] at h
    exact (hs.supervised P port h).imp (hw _) (hc _)
  valid := h₁ ▸ hs.valid

/-- `ensure_api_server` records a new project only once Monit has started its watch, from a
    configuration it has just written. -/
theorem ApiServersSupervised.ensure (hs : ApiServersSupervised D s) {P : Str}
    (hP : D.isAppNameValid P = true) : ApiServersSupervised D (Py.after (ensureApiServer ext P s)) := by
  unfold ensureApiServer
  split
  · exact hs
  · dsimp only
    split
    · refine ⟨fun Q q hq => ?_, fun Q hQ => ?_⟩
      · simp only [Py.after, dictGet_dictSet] at hq
        split at hq
        · cases hq
          subst Q
          simp [Py.after, Node.withMonit]
        · have := hs.supervised Q q hq
          simp [Py.after, Node.withMonit, this]
      · simp only [Py.after, mem_keys_dictSet] at hQ
        rcases hQ with rfl | hQ
        exacts [hP, hs.valid Q hQ]
    · exact hs.of_grow rfl (fun _ h => h) fun _ h => List.mem_insert_of_mem h

/-- `stop_api_server` tears down the project's own watch only: no other recorded project,
    its id valid and so not ending in `-`, has the same watch name. -/
theorem ApiServersSupervised.stop (hname : ∀ P, D.isAppNameValid P = true → P.getLast? ≠ some '-')
    (hs : ApiServersSupervised D s) (P : Str) :
    ApiServersSupervised D (Py.after (stopApiServer ext P s)) := by
  have hkey : ∀ {Q q}, dictGet Q s.apiServers = some q → D.isAppNameValid Q = true :=
    fun hq => hs.valid _ (dictGet_isSome_iff.1 (by simp [hq]))
  rcases stopApiServer_after ext P s with h | ⟨port, hport, ⟨-, h⟩ | h⟩ <;> rw [h]
  · exact hs
  all_goals refine ⟨fun Q q hq => ?_, fun Q hQ => hs.valid Q ((mem_keys_dictDel _ _ _).1 hQ).2⟩
  all_goals
    simp only [dictGet_dictDel] at hq
    split at hq
    · cases hq
    rename_i hQP
    obtain ⟨h₁, h₂⟩ := hs.supervised Q q hq
  · have hne : apiServerWatch Q q ≠ apiServerWatch P port := fun heq =>
      hQP (apiServerWatch_inj heq (hname _ (hkey hq)) (hname _ (hkey hport)))
    simp [Node.withMonit, h₁, h₂, hne]
  · exact ⟨h₁, h₂⟩

/-- `unmonitor_and_terminate` of an instance watch leaves every API-server watch listed and
    configured, when no name starts with both prefixes. -/
theorem ApiServersSupervised.unmonitorAndTerminate
    (hdisjoint : ∀ w, startswith w apiServerPrefix = true → startswith w D.monitInstancePrefix = false)
    (hs : ApiServersSupervised D s) {w : Str} (hw : startswith w D.monitInstancePrefix = true) :
    ApiServersSupervised D (Py.after (unmonitorAndTerminate ext w s)) := by
  rcases unmonitorAndTerminate_after ext w s with ⟨-, h⟩ | h <;> rw [h]
  · refine ⟨fun Q q hq => ?_, hs.valid⟩
    obtain ⟨h₁, h₂⟩ := hs.supervised Q q hq
    have hne : apiServerWatch Q q ≠ w := fun heq => by
      have := hdisjoint (apiServerWatch Q q) (by simp [apiServerWatch])
      rw [heq, hw] at this
      cases this
    simp [Node.withMonit, h₁, h₂, hne]
  · exact hs

theorem ApiServersSupervised.reload (hs : ApiServersSupervised D s) :
    ApiServersSupervised D (s.withMonit Monit.reload) :=
  ⟨fun Q q hq => by
    obtain ⟨h₁, h₂⟩ := hs.supervised Q q hq
    exact ⟨(Monit.mem_watches_reload _ _).2 ⟨h₁, h₂⟩, h₂⟩, hs.valid⟩

section Deployment

variable (hdisjoint : ∀ w, startswith w apiServerPrefix = true → startswith w D.monitInstancePrefix = false)
  (hname : ∀ P, D.isAppNameValid P = true → P.getLast? ≠ some '-')
include hdisjoint hname

/-- Every move but `populate_api_servers` keeps `api_servers` supervised. -/
theorem ApiServersSupervised.move {ts : List Task} (hts : NoPopulate ts) {s' : Node}
    (hm : Move D ext ts s s') (hs : ApiServersSupervised D s) : ApiServersSupervised D s' := by
  cases hm with
  | ensureApiServer P hP => exact hs.ensure hP
  | stopApiServer P => exact hs.stop hname P
  | unmonitorAndTerminate w hw => exact hs.unmonitorAndTerminate hdisjoint hw
  | createConfig name => exact hs.of_grow rfl (fun _ h => h) fun _ h => List.mem_insert_of_mem h
  | start name => exact hs.of_grow rfl (fun _ h => (Monit.mem_watches_start _ _ _).2 (.inr h)) fun _ h => h
  | reload => exact hs.reload
  | populate entries h => exact absurd h (hts _)
  | _ => exact hs.of_grow rfl (fun _ h => h) fun _ h => h

end Deployment

/-- No event starts a `populate_api_servers`. -/
theorem NoPopulate.step {w w' : World} {e : Event} (hw : NoPopulate w.tasks)
    (h : step D ext w e = some w') : NoPopulate w'.tasks := fun entries ht =>
  step_tasks (Q := fun t => ∀ entries, t ≠ .populateListing entries)
    (fun _ ht entries he => hw entries (he ▸ ht)) (fun _ _ _ _ _ _ _ => Task.noConfusion)
    (fun _ _ _ => Task.noConfusion) (fun _ _ _ _ => Task.noConfusion)
    (fun _ ht _ he => by subst he; exact ht) (fun _ h => absurd rfl (h none)) h _ ht entries rfl

/-- Once `populate_api_servers` is over, a property of the node that every other move keeps
    holds along every run. -/
theorem run_preserves_noPopulate {P : Node → Prop}
    (hP : ∀ ts s s', NoPopulate ts → Move D ext ts s s' → P s → P s') {w w' : World} {es : List Event}
    (h : run D ext w es = some w') (hs : P w.node) (hw : NoPopulate w.tasks) : P w'.node :=
  (run_preserves (I := fun w => P w.node ∧ NoPopulate w.tasks) (E := fun _ => True)
    (fun hw _ h => ⟨(step_moves h).preserves (hP _ · · hw.2) hw.1, hw.2.step h⟩)
    (fun _ _ => trivial) h ⟨hs, hw⟩).1

end Supervised

/-- **`api_servers` records only API servers Monit supervises.**  Once `populate_api_servers`
    is over, along every run of the event loop every project `api_servers` records has its
    API server's watch listed by Monit and configured, so the port `ensure_api_server`
    returns for it without starting anything is that of a supervised server.  This needs
    that no watch name starts with both `API_SERVER_PREFIX` and `MONIT_INSTANCE_PREFIX`, and
    that valid project ids do not end in `-`: otherwise the watch of one project on a
    negative port can be that of another. -/
theorem run_apiServersSupervised
    (hdisjoint : ∀ w, startswith w apiServerPrefix = true → startswith w D.monitInstancePrefix = false)
    (hname : ∀ P, D.isAppNameValid P = true → P.getLast? ≠ some '-') {w w' : World} {es : List Event}
    (hs : ApiServersSupervised D w.node) (hw : NoPopulate w.tasks) (h : run D ext w es = some w') :
    ApiServersSupervised D w'.node :=
  run_preserves_noPopulate (fun _ _ _ hts hm hs => hs.move hdisjoint hname hts hm) h hs hw

/-- The spec's deployment with project ids that cannot end in `-`, as Google Cloud's
    cannot. -/
def cloudDeployment : Deployment :=
  { specDeployment with
    isAppNameValid := fun p => specDeployment.isAppNameValid p && p.getLast? != some '-' }

/-- After the stop of `startProbeStop`, the version started again on port 8081: its
    project's new API server is supervised. -/
theorem run_apiServersSupervised_restartOn8081 :
    ∃ w', run cloudDeployment Ext.ok stoppedWorld restartOn8081 = some w' ∧
      ApiServersSupervised cloudDeployment w'.node :=
  ⟨_, rfl, run_apiServersSupervised cloudDeployment Ext.ok
    (fun w hw => by
      obtain ⟨t, rfl⟩ := (startswith_iff _ _).1 hw
      rfl)
    (fun P hP => by
      simp only [cloudDeployment, Bool.and_eq_true, bne_iff_ne] at hP
      exact hP.2)
    (w := stoppedWorld) ⟨fun _ _ h => (by cases h), fun _ h => absurd h (List.not_mem_nil _)⟩
    (fun _ h => absurd h (List.not_mem_nil _))
    (rfl : run cloudDeployment Ext.ok stoppedWorld restartOn8081 = _)⟩

/-! ### API-server ports stay distinct -/

section Ports

variable {D ext}

theorem PortsDistinct.move {ts : List Task} (hts : NoPopulate ts) {s s' : Node}
    (hm : Move D ext ts s s') (h : PortsDistinct s) : PortsDistinct s' := by
  cases hm with
  | ensureApiServer P => exact portsDistinct_ensure ext P h
  | stopApiServer P => exact portsDistinct_stop ext P h
  | unmonitorAndTerminate w => simpa [PortsDistinct] using h
  | populate entries h' => exact absurd h' (hts _)
  | _ => exact h

/-- **No two projects share an API-server port.**  Once `populate_api_servers` is over,
    along every run of the event loop, whatever the interleaving of the starts and stops of
    all projects, the ports `api_servers` records stay pairwise distinct. -/
theorem run_portsDistinct {w w' : World} {es : List Event} (hs : PortsDistinct w.node)
    (hw : NoPopulate w.tasks) (h : run D ext w es = some w') : PortsDistinct w'.node :=
  run_preserves_noPopulate (fun _ _ _ hts hm hs => hs.move hts hm) h hs hw

end Ports

/-- The version started again on port 8081 after `startProbeStop`: its API-server port is
    the only one recorded. -/
theorem run_portsDistinct_restartOn8081 :
    ∃ w', run specDeployment Ext.ok stoppedWorld restartOn8081 = some w' ∧ PortsDistinct w'.node :=
  ⟨_, rfl, run_portsDistinct (w := stoppedWorld) List.nodup_nil (fun _ h => absurd h (List.not_mem_nil _))
    (rfl : run specDeployment Ext.ok stoppedWorld restartOn8081 = _)⟩

end AppManager
