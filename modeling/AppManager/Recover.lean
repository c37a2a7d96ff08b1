import Mathlib.Data.List.Dedup
import Mathlib.Data.List.Nodup
import AppManager.Helpers
import AppManager.Commands

namespace AppManager

/-!
# AppManager — recovering the node's state at boot

Before it serves requests, `main` runs `recover_state`: it asks Monit for its watches,
removes the configuration of every unmonitored instance watch, parses the others into
`Instance`s, kills the AppServer processes no watch accounts for (`clean_up_instances`),
makes sure every running version has its registry node, and reconciles the registry with
what runs (`declare_instance_nodes`).  `main` then takes the returned set as
`running_instances`.

* `dropUnmonitored` — the Monit part; `registeredInstances` — the registry walk of
  `declare_instance_nodes`; `declareInstanceNodes` and `recoverState` — the two functions.
* `RegistryShape` — registry trees as `start_app` and `register_instance` build them.
* `recoverState_spec` — what a successful recovery leaves: the removed configurations, the
  returned instances, and this machine's registry children, with every other child kept.
* `recoverState_raises_of_unparsable` — a process `clean_up_instances` recognises and cannot
  parse makes the recovery raise; `recoverState_raises_on_grep` is a `grep` for the Java
  class.
-/

variable (D : Deployment)

/-! ### The model -/

/-- The instance watches of `get_entries()`: the entries under `MONIT_INSTANCE_PREFIX`. -/
def instanceEntries (m : Monit) : List (Str × MonitState) :=
  m.entries.filter fun e => startswith e.1 D.monitInstancePrefix

/-- The unmonitored instance watches, whose configurations `recover_state` removes. -/
def unmonitoredWatches (m : Monit) : List Str :=
  ((instanceEntries D m).filter (·.2 = .unmonitored)).map Prod.fst

/-- The instance watches `recover_state` keeps: those that are not unmonitored. -/
def remainingWatches (m : Monit) : List Str :=
  ((instanceEntries D m).filter (·.2 ≠ .unmonitored)).map Prod.fst

/-- Remove the configuration of every unmonitored instance watch, then reload Monit if
    there was any. -/
def dropUnmonitored (m : Monit) : Monit :=
  let m' := (unmonitoredWatches D m).foldl Monit.removeConfiguration m
  if unmonitoredWatches D m = [] then m' else m'.reload

/-- The children `declare_instance_nodes` walks: those of every version node, in order. -/
def Registry.children (r : Registry) : List ((Str × Str) × Str) :=
  r.versions.flatMap fun v => r.nodes.filter (·.1.1 = v)

/-- A child's machine: `instance_entry.split(':')[0]`. -/
def entryIp (entry : Str) : Str := (split ':' entry).headD []

/-- The instance a child records: revision key `version_key` + separator + payload, and
    port `int(instance_entry.split(':')[-1])`; `none` is the `ValueError`. -/
def childInstance (c : (Str × Str) × Str) : Option Instance :=
  (pyInt ((split ':' c.1.2).getLastD [])).map fun port => ⟨join [D.sep] [c.1.1, c.2], port⟩

/-- `registered_instances`: the instances of this machine's children; `none` is the
    `ValueError` of a port `int` rejects. -/
def registeredInstances (r : Registry) : Option (List Instance) :=
  ((r.children.filter fun c => entryIp c.1.2 = D.privateIp).mapM (childInstance D)).map
    List.dedup

/-- `for instance in ...: register_instance(instance)`, stopping at the first exception. -/
def registerAll : List Instance → Py Unit
  | [] => pure ()
  | i :: is => do
    registerInstance D i
    registerAll is

/-- `declare_instance_nodes(running_instances, zk_client)`: unregister the registered
    instances that do not run, then register the running ones not registered. -/
def declareInstanceNodes (running : List Instance) : Py Unit := fun s =>
  match registeredInstances D s.registry with
  | none => .error .valueError s
  | some registered =>
    registerAll D (running.filter (· ∉ registered))
      ((registered.filter (· ∉ running)).foldl (Node.unregister D) s)

/-- The version nodes `recover_state` ensures: `'_'.join(revision.split('_')[:3])` for
    every parsed watch (the code writes `'_'` here, not `VERSION_PATH_SEPARATOR`). -/
def runningVersions (details : List Instance) : List Str :=
  details.map fun i => join ['_'] ((split '_' i.revisionKey).take 3)

/-- `recover_state(zk_client)` on the process table `procs`: the set of instances it
    returns, and the process groups `clean_up_instances` kills on the way. -/
def recoverState (L : Layout) (procs : List Process) : Py (List Instance × List Nat) := fun s =>
  let s1 := s.withMonit (dropUnmonitored D)
  match (remainingWatches D s.monit).mapM (parseInstanceWatch D) with
  | none => .error .valueError s1
  | some details =>
    match cleanUpInstances L (details.map fun i => (i.revisionKey, i.port)) procs with
    | .error e => .error e s1
    | .ok toStop =>
      let s2 := { s1 with registry := (runningVersions details).foldl Registry.ensurePath s1.registry }
      match declareInstanceNodes D details.dedup s2 with
      | .ok () s3 => .ok (details.dedup, toStop.map Process.pgid) s3
      | .error e s3 => .error e s3

/-! ### Monit -/

theorem mem_unmonitoredWatches (m : Monit) (w : Str) :
    w ∈ unmonitoredWatches D m ↔
      startswith w D.monitInstancePrefix ∧ (w, MonitState.unmonitored) ∈ m.entries := by
  simp only [unmonitoredWatches, instanceEntries, List.mem_map, List.mem_filter]
  constructor
  · rintro ⟨⟨w', st⟩, ⟨⟨hm, hp⟩, hst⟩, rfl⟩
    simp only [decide_eq_true_eq] at hst
    exact ⟨hp, hst ▸ hm⟩
  · rintro ⟨hp, hm⟩
    exact ⟨_, ⟨⟨hm, hp⟩, by simp⟩, rfl⟩

theorem configs_foldl_removeConfiguration (l : List Str) (m : Monit) :
    (l.foldl Monit.removeConfiguration m).configs = m.configs.filter (· ∉ l) := by
  induction l generalizing m with
  | nil => simp
  | cons w ws ih =>
    rw [List.foldl_cons, ih, Monit.configs_removeConfiguration, List.filter_filter]
    congr 1
    funext c
    simp [Bool.and_comm]

/-- Recovery keeps exactly the configurations that are not of an unmonitored instance
    watch. -/
theorem mem_configs_dropUnmonitored (m : Monit) (w : Str) :
    w ∈ (dropUnmonitored D m).configs ↔
      w ∈ m.configs ∧ ¬ (startswith w D.monitInstancePrefix ∧
        (w, MonitState.unmonitored) ∈ m.entries) := by
  have h : (dropUnmonitored D m).configs = m.configs.filter (· ∉ unmonitoredWatches D m) := by
    rw [dropUnmonitored]
    split <;> simp [configs_foldl_removeConfiguration]
  rw [h, ← mem_unmonitoredWatches]
  simp

/-! ### Reading the registry -/

/-- A loop over an `Option` computation that finished: what it produced is what each
    element produced. -/
theorem mem_of_mapM_eq_some {α β : Type} {f : α → Option β} {l : List α} {r : List β}
    (h : l.mapM f = some r) (b : β) : b ∈ r ↔ ∃ a ∈ l, f a = some b := by
  induction l generalizing r with
  | nil =>
    rw [List.mapM_nil] at h
    cases h
    simp
  | cons a as ih =>
    rw [List.mapM_cons] at h
    cases ha : f a with
    | none => simp [ha] at h
    | some x =>
      cases has : as.mapM f with
      | none => simp only [ha, has, Option.bind_eq_bind, Option.some_bind, Option.none_bind,
          reduceCtorEq] at h
      | some xs =>
        simp only [ha, has, Option.pure_def, Option.bind_eq_bind, Option.some_bind,
          Option.some.injEq] at h
        subst h
        simp [ih has, or_and_right, exists_or, ha, eq_comm]

theorem mapM_isSome {α β : Type} {f : α → Option β} {l : List α}
    (h : ∀ a ∈ l, (f a).isSome) : ∃ r, l.mapM f = some r := by
  induction l with
  | nil => exact ⟨[], rfl⟩
  | cons a as ih =>
    obtain ⟨x, hx⟩ := Option.isSome_iff_exists.1 (h a (by simp))
    obtain ⟨xs, hxs⟩ := ih fun b hb => h b (by simp [hb])
    exact ⟨x :: xs, by rw [List.mapM_cons, hx, hxs]; rfl⟩

theorem entryIp_instanceEntry (i : Instance) : entryIp (instanceEntry D i) = D.privateIp := by
  simp [entryIp, split_instanceEntry]

/-- Registry trees as `start_app` and `register_instance` build them: distinct paths, every
    child under a listed version node, version nodes named by three separator-free ids,
    children named `ip:port` for a colon-free `ip`, and separator-free payloads. -/
structure RegistryShape (r : Registry) : Prop where
  nodup : (r.nodes.map Prod.fst).Nodup
  listed : ∀ n ∈ r.nodes, n.1.1 ∈ r.versions
  version_name : ∀ n ∈ r.nodes, ∃ p s w, D.sep ∉ p ∧ D.sep ∉ s ∧ D.sep ∉ w ∧
    n.1.1 = join [D.sep] [p, s, w]
  child_name : ∀ n ∈ r.nodes, ∃ ip, ∃ port : Nat, ':' ∉ ip ∧ n.1.2 = ip ++ ':' :: pyStr port
  payload : ∀ n ∈ r.nodes, D.sep ∉ n.2

/-- The instance a child of this machine records. -/
def Registers (r : Registry) (i : Instance) : Prop :=
  ∃ n ∈ r.nodes, entryIp n.1.2 = D.privateIp ∧ childInstance D n = some i

section Shape

variable {D} {r : Registry} (hr : RegistryShape D r)
include hr

/-- A child of a shaped registry records an instance whose version key, revision and
    registry child are the child's own. -/
theorem childInstance_spec {n : (Str × Str) × Str} (hn : n ∈ r.nodes) :
    ∃ i, childInstance D n = some i ∧ i.versionKey D = n.1.1 ∧ i.revision D = n.2 ∧
      (entryIp n.1.2 = D.privateIp → instanceEntry D i = n.1.2) := by
  obtain ⟨⟨v, e⟩, x⟩ := n
  obtain ⟨ip, port, hip, he⟩ := hr.child_name _ hn
  obtain ⟨p, s, w, hp, hs, hw, hv⟩ := hr.version_name _ hn
  simp only at hv
  have hx : D.sep ∉ x := hr.payload _ hn
  simp only at he ⊢
  have hsplit : split ':' e = [ip, pyStr port] := by
    rw [he, split_append_cons, split_of_not_mem hip,
      split_of_not_mem (not_mem_pyStr_int (d := ':') rfl (by decide) _)]
    rfl
  have hrk : join [D.sep] [v, x] = revisionKeyOf D p s w x := by
    simp [hv, revisionKeyOf, join, List.intercalate]
  refine ⟨⟨join [D.sep] [v, x], port⟩, by simp [childInstance, hsplit, pyInt_pyStr], ?_, ?_, ?_⟩
  · rw [hrk, versionKey_revisionKeyOf (D := D) _ hp hs hw hx, hv]
  · rw [hrk, revision_revisionKeyOf (D := D) _ hp hs hw hx]
  · intro hown
    simp only [entryIp, hsplit] at hown
    simp [instanceEntry, he, ← hown]

theorem mem_children {n : (Str × Str) × Str} : n ∈ r.children ↔ n ∈ r.nodes := by
  simp only [Registry.children, List.mem_flatMap, List.mem_filter, decide_eq_true_eq]
  exact ⟨fun ⟨_, _, hn, _⟩ => hn, fun hn => ⟨_, hr.listed _ hn, hn, rfl⟩⟩

/-- The walk of a shaped registry succeeds, and finds the instances of this machine's
    children. -/
theorem registeredInstances_spec :
    ∃ reg, registeredInstances D r = some reg ∧ ∀ i, i ∈ reg ↔ Registers D r i := by
  obtain ⟨l, hl⟩ := mapM_isSome (f := childInstance D)
    (l := r.children.filter fun c => entryIp c.1.2 = D.privateIp) fun n hn => by
      obtain ⟨i, hi, -⟩ := childInstance_spec hr ((mem_children hr).1 (List.mem_filter.1 hn).1)
      simp [hi]
  refine ⟨l.dedup, by rw [registeredInstances, hl]; rfl, fun i => ?_⟩
  rw [List.mem_dedup, mem_of_mapM_eq_some hl]
  simp [Registers, mem_children hr, and_assoc]

/-- A registered instance's child holds its revision. -/
theorem get_of_registers {i : Instance} (h : Registers D r i) :
    r.get (i.versionKey D) (instanceEntry D i) = some (i.revision D) := by
  obtain ⟨n, hn, hown, hi⟩ := h
  obtain ⟨i', hi', hv, hx, he⟩ := childInstance_spec hr hn
  obtain rfl : i' = i := Option.some.inj (hi'.symm.trans hi)
  rw [Registry.get, hv, hx, he hown, dictGet_eq_some_iff hr.nodup]
  exact hn

/-- Two registered instances with one registry child are one instance. -/
theorem registers_unique {i j : Instance} (hi : Registers D r i) (hj : Registers D r j)
    (h : (i.versionKey D, instanceEntry D i) = (j.versionKey D, instanceEntry D j)) : i = j := by
  obtain ⟨n, hn, hown, hni⟩ := hi
  obtain ⟨m, hm, hown', hmj⟩ := hj
  obtain ⟨i', hi', hv, -, he⟩ := childInstance_spec hr hn
  obtain ⟨j', hj', hv', -, he'⟩ := childInstance_spec hr hm
  obtain rfl : i' = i := Option.some.inj (hi'.symm.trans hni)
  obtain rfl : j' = j := Option.some.inj (hj'.symm.trans hmj)
  have hkey : n.1 = m.1 := Prod.ext (hv.symm.trans ((congrArg Prod.fst h).trans hv'))
    ((he hown).symm.trans ((congrArg Prod.snd h).trans (he' hown')))
  have hnm : n = m := by
    have h1 := (dictGet_eq_some_iff (k := n.1) (v := n.2) hr.nodup).2 hn
    have h2 := (dictGet_eq_some_iff (k := m.1) (v := m.2) hr.nodup).2 hm
    rw [hkey, h2] at h1
    exact Prod.ext hkey (Option.some.inj h1).symm
  subst hnm
  exact Option.some.inj (hni.symm.trans hmj)

/-- A child of this machine is the child of the instance it records. -/
theorem registers_of_get {v e x : Str} (hown : entryIp e = D.privateIp) (h : r.get v e = some x) :
    ∃ i, Registers D r i ∧ i.versionKey D = v ∧ instanceEntry D i = e ∧ i.revision D = x := by
  have hn := (dictGet_eq_some_iff hr.nodup).1 h
  obtain ⟨i, hi, hv, hx, he⟩ := childInstance_spec hr hn
  exact ⟨i, ⟨_, hn, hown, hi⟩, hv, he hown, hx⟩

end Shape

/-! ### Declaring the instance nodes -/

@[simp] theorem registry_unregister (s : Node) (i : Instance) :
    (s.unregister D i).registry = s.registry.delete (i.versionKey D) (instanceEntry D i) := rfl

@[simp] theorem registry_register (s : Node) (i : Instance) :
    (s.register D i).registry = s.registry.put (i.versionKey D) (instanceEntry D i) (i.revision D) :=
  rfl

theorem monit_foldl_unregister (l : List Instance) (s : Node) :
    (l.foldl (Node.unregister D) s).monit = s.monit := by
  induction l generalizing s with
  | nil => rfl
  | cons j js ih => rw [List.foldl_cons, ih, Node.monit_unregister]

theorem versions_foldl_unregister (l : List Instance) (s : Node) :
    (l.foldl (Node.unregister D) s).registry.versions = s.registry.versions := by
  induction l generalizing s with
  | nil => rfl
  | cons j js ih => rw [List.foldl_cons, ih, registry_unregister, Registry.versions_delete]

/-- The unregister loop deletes the children of the instances it visits, and only those. -/
theorem get_foldl_unregister (l : List Instance) (s : Node) (v e : Str) :
    (l.foldl (Node.unregister D) s).registry.get v e =
      if ∃ j ∈ l, (j.versionKey D, instanceEntry D j) = (v, e) then none
      else s.registry.get v e := by
  induction l generalizing s with
  | nil => simp
  | cons j js ih =>
    rw [List.foldl_cons, ih, registry_unregister, Registry.get_delete]
    by_cases h : (j.versionKey D, instanceEntry D j) = (v, e)
    · have hj : ∃ k ∈ j :: js, (k.versionKey D, instanceEntry D k) = (v, e) :=
        ⟨j, List.mem_cons_self _ _, h⟩
      rw [if_pos hj, if_pos h.symm]
      split <;> rfl
    · simp only [List.mem_cons, exists_eq_or_imp, h, false_or, if_neg (Ne.symm h)]

/-- The register loop, on instances whose version nodes exist and whose registry children
    differ, succeeds and writes each instance's revision into its child, leaving the other
    children and Monit alone. -/
theorem registerAll_spec (l : List Instance) (s : Node)
    (hv : ∀ i ∈ l, i.versionKey D ∈ s.registry.versions)
    (hd : l.Pairwise fun i j =>
      (i.versionKey D, instanceEntry D i) ≠ (j.versionKey D, instanceEntry D j)) :
    ∃ s', registerAll D l s = .ok () s' ∧ s'.monit = s.monit ∧ ∀ v e,
      (∀ i ∈ l, (i.versionKey D, instanceEntry D i) = (v, e) →
        s'.registry.get v e = some (i.revision D)) ∧
      ((∀ i ∈ l, (i.versionKey D, instanceEntry D i) ≠ (v, e)) →
        s'.registry.get v e = s.registry.get v e) := by
  induction l generalizing s with
  | nil => exact ⟨s, rfl, rfl, fun v e => ⟨by simp, fun _ => rfl⟩⟩
  | cons i is ih =>
    rw [List.pairwise_cons] at hd
    obtain ⟨s', hrun, hmonit, hget⟩ := ih (s.register D i)
      (fun j hj => by simpa using hv j (by simp [hj])) hd.2
    have hstep : registerAll D (i :: is) s = registerAll D is (s.register D i) := by
      simp only [registerAll, bind, EStateM.bind, registerInstance, if_pos (hv i (by simp))]
    refine ⟨s', hstep.trans hrun, hmonit.trans rfl, fun v e => ⟨?_, ?_⟩⟩
    · intro j hj hje
      rcases List.mem_cons.1 hj with rfl | hj
      · rw [(hget v e).2 fun k hk hke => hd.1 k hk (hje.trans hke.symm), registry_register,
          Registry.get_put, if_pos hje.symm]
      · exact (hget v e).1 j hj hje
    · intro hne
      rw [(hget v e).2 fun k hk => hne k (by simp [hk]), registry_register, Registry.get_put,
        if_neg fun h => hne i (by simp) h.symm]

/-- **`declare_instance_nodes`** on a shaped registry, for running instances with their
    version nodes and distinct `(version_key, port)`: it succeeds; afterwards this machine's
    children are exactly those of the running instances, with their revisions, and every
    other child is kept. -/
theorem declareInstanceNodes_spec (running : List Instance) (s : Node)
    (hr : RegistryShape D s.registry) (hnodup : running.Nodup)
    (hv : ∀ i ∈ running, i.versionKey D ∈ s.registry.versions)
    (hd : ∀ i ∈ running, ∀ j ∈ running, i.versionKey D = j.versionKey D → i.port = j.port → i = j) :
    ∃ s', declareInstanceNodes D running s = .ok () s' ∧ s'.monit = s.monit ∧
      (∀ v e x, entryIp e = D.privateIp → (s'.registry.get v e = some x ↔
        ∃ i ∈ running, i.versionKey D = v ∧ instanceEntry D i = e ∧ i.revision D = x)) ∧
      (∀ v e, entryIp e ≠ D.privateIp → s'.registry.get v e = s.registry.get v e) := by
  obtain ⟨reg, hreg, hmem⟩ := registeredInstances_spec hr
  have hsame : ∀ i ∈ running, ∀ j ∈ running,
      (i.versionKey D, instanceEntry D i) = (j.versionKey D, instanceEntry D j) → i = j :=
    fun i hi j hj h => hd i hi j hj (congrArg Prod.fst h) (instanceEntry_inj D (congrArg Prod.snd h))
  have hpair : (running.filter (· ∉ reg)).Pairwise fun i j =>
      (i.versionKey D, instanceEntry D i) ≠ (j.versionKey D, instanceEntry D j) :=
    (hnodup.pairwise_of_forall_ne fun i hi j hj hij h => hij (hsame i hi j hj h)).filter _
  obtain ⟨s', hrun, hmonit, hget⟩ := registerAll_spec D (running.filter (· ∉ reg))
    ((reg.filter (· ∉ running)).foldl (Node.unregister D) s)
    (fun i hi => by rw [versions_foldl_unregister]; exact hv i (List.mem_filter.1 hi).1) hpair
  refine ⟨s', by simp only [declareInstanceNodes, hreg]; exact hrun,
    hmonit.trans (monit_foldl_unregister D _ _), fun v e x hown => ⟨fun h => ?_, ?_⟩, ?_⟩
  · by_cases hadd : ∃ i ∈ running.filter (· ∉ reg), (i.versionKey D, instanceEntry D i) = (v, e)
    · obtain ⟨i, hi, hie⟩ := hadd
      rw [(hget v e).1 i hi hie] at h
      exact ⟨i, (List.mem_filter.1 hi).1, congrArg Prod.fst hie, congrArg Prod.snd hie,
        Option.some.inj h⟩
    · push_neg at hadd
      rw [(hget v e).2 hadd, get_foldl_unregister] at h
      split at h
      · cases h
      · rename_i hdel
        obtain ⟨j, hj, rfl, rfl, rfl⟩ := registers_of_get hr hown h
        refine ⟨j, ?_, rfl, rfl, rfl⟩
        by_contra hjr
        exact hdel ⟨j, List.mem_filter.2 ⟨(hmem j).2 hj, by simpa using hjr⟩, rfl⟩
  · rintro ⟨i, hi, rfl, rfl, rfl⟩
    by_cases hir : i ∈ reg
    · have hadd : ∀ k ∈ running.filter (· ∉ reg),
          (k.versionKey D, instanceEntry D k) ≠ (i.versionKey D, instanceEntry D i) := by
        intro k hk hki
        obtain ⟨hkr, hkreg⟩ := List.mem_filter.1 hk
        obtain rfl := hsame k hkr i hi hki
        simp [hir] at hkreg
      have hdel : ¬ ∃ k ∈ reg.filter (· ∉ running),
          (k.versionKey D, instanceEntry D k) = (i.versionKey D, instanceEntry D i) := by
        rintro ⟨k, hk, hki⟩
        obtain ⟨hkreg, hkr⟩ := List.mem_filter.1 hk
        obtain rfl := registers_unique hr ((hmem k).1 hkreg) ((hmem i).1 hir) hki
        simp [hi] at hkr
      rw [(hget _ _).2 hadd, get_foldl_unregister, if_neg hdel]
      exact get_of_registers hr ((hmem i).1 hir)
    · exact (hget _ _).1 i (List.mem_filter.2 ⟨hi, by simpa using hir⟩) rfl
  · intro v e hown
    have hother : ∀ k : Instance, (k.versionKey D, instanceEntry D k) ≠ (v, e) := fun k hk => by
      have he : instanceEntry D k = e := congrArg Prod.snd hk
      exact hown (he ▸ entryIp_instanceEntry D k)
    rw [(hget v e).2 fun k _ => hother k, get_foldl_unregister,
      if_neg fun ⟨k, _, hk⟩ => hother k hk]

/-! ### Recovery -/

theorem mem_versions_foldl_ensurePath (l : List Str) (r : Registry) (v : Str) :
    v ∈ (l.foldl Registry.ensurePath r).versions ↔ v ∈ l ∨ v ∈ r.versions := by
  induction l generalizing r with
  | nil => simp
  | cons w ws ih =>
    rw [List.foldl_cons, ih, Registry.versions_ensurePath, List.mem_insert_iff]
    simp only [List.mem_cons]
    tauto

theorem nodes_foldl_ensurePath (l : List Str) (r : Registry) :
    (l.foldl Registry.ensurePath r).nodes = r.nodes := by
  induction l generalizing r with
  | nil => rfl
  | cons w ws ih => rw [List.foldl_cons, ih]; rfl

/-- Creating version nodes keeps a registry's shape. -/
theorem RegistryShape.foldl_ensurePath {r : Registry} (hr : RegistryShape D r) (l : List Str) :
    RegistryShape D (l.foldl Registry.ensurePath r) := by
  have hn := nodes_foldl_ensurePath l r
  refine ⟨hn ▸ hr.nodup, fun n h => ?_, fun n h => hr.version_name n (hn ▸ h),
    fun n h => hr.child_name n (hn ▸ h), fun n h => hr.payload n (hn ▸ h)⟩
  rw [mem_versions_foldl_ensurePath]
  exact .inr (hr.listed n (hn ▸ h))

/-- With `VERSION_PATH_SEPARATOR` the `'_'` the code writes, `recover_state` ensures the
    version node of every instance it parsed. -/
theorem versionKey_mem_runningVersions (hsep : D.sep = '_') {details : List Instance}
    {i : Instance} (hi : i ∈ details) : i.versionKey D ∈ runningVersions details := by
  rw [Instance.versionKey, hsep]
  exact List.mem_map_of_mem _ hi

section Recovery

variable {s : Node}
  (hsep : D.sep = '_') (hr : RegistryShape D s.registry)
  (hd : ∀ w ∈ remainingWatches D s.monit, ∀ w' ∈ remainingWatches D s.monit, ∀ i j,
    parseInstanceWatch D w = some i → parseInstanceWatch D w' = some j →
    i.versionKey D = j.versionKey D → i.port = j.port → i = j)
include hsep hr hd

/-- The last step of `recover_state`, on the parsed watches and a node whose registry has
    their version nodes: `declare_instance_nodes` succeeds and leaves what it is specified
    to. -/
theorem declareInstanceNodes_recovered {details : List Instance}
    (hdetails : (remainingWatches D s.monit).mapM (parseInstanceWatch D) = some details)
    (s2 : Node) (hs2 : s2.registry = (runningVersions details).foldl Registry.ensurePath s.registry) :
    ∃ s4, declareInstanceNodes D details.dedup s2 = .ok () s4 ∧ s4.monit = s2.monit ∧
      (∀ v e x, entryIp e = D.privateIp → (s4.registry.get v e = some x ↔
        ∃ i ∈ details.dedup, i.versionKey D = v ∧ instanceEntry D i = e ∧ i.revision D = x)) ∧
      (∀ v e, entryIp e ≠ D.privateIp → s4.registry.get v e = s.registry.get v e) := by
  have hmem := mem_of_mapM_eq_some hdetails
  obtain ⟨s4, hrun, hmonit, hown, hother⟩ := declareInstanceNodes_spec D details.dedup s2
    (hs2 ▸ hr.foldl_ensurePath D (runningVersions details)) (List.nodup_dedup _)
    (fun i hi => hs2 ▸ (mem_versions_foldl_ensurePath _ _ _).2
      (.inl (versionKey_mem_runningVersions D hsep (List.mem_dedup.1 hi))))
    (fun i hi j hj => by
      obtain ⟨w, hw, hwi⟩ := (hmem i).1 (List.mem_dedup.1 hi)
      obtain ⟨w', hw', hwj⟩ := (hmem j).1 (List.mem_dedup.1 hj)
      exact hd w hw w' hw' i j hwi hwj)
  refine ⟨s4, hrun, hmonit, hown, fun v e he => (hother v e he).trans ?_⟩
  simp only [Registry.get, hs2, nodes_foldl_ensurePath]

/-- **What a recovery leaves.**  On a registry of the shape the instance manager builds,
    with `VERSION_PATH_SEPARATOR = '_'` and monitored instances of distinct
    `(version_key, port)`, a `recover_state` that returns `R` has removed the configuration
    of exactly the unmonitored instance watches; `R` is the set of instances parsed from the
    other instance watches; this machine's registry children are exactly the children of
    the instances of `R`, each holding its revision; and every other child is unchanged. -/
theorem recoverState_spec (L : Layout) (procs : List Process) (s' : Node) (R : List Instance)
    (killed : List Nat) (h : recoverState D L procs s = .ok (R, killed) s') :
    (∀ w, w ∈ s'.monit.configs ↔ w ∈ s.monit.configs ∧
      ¬ (startswith w D.monitInstancePrefix ∧ (w, MonitState.unmonitored) ∈ s.monit.entries)) ∧
    R.Nodup ∧ (∀ i, i ∈ R ↔ ∃ w ∈ remainingWatches D s.monit, parseInstanceWatch D w = some i) ∧
    (∀ v e x, entryIp e = D.privateIp → (s'.registry.get v e = some x ↔
      ∃ i ∈ R, i.versionKey D = v ∧ instanceEntry D i = e ∧ i.revision D = x)) ∧
    (∀ v e, entryIp e ≠ D.privateIp → s'.registry.get v e = s.registry.get v e) := by
  unfold recoverState at h
  split at h
  · cases h
  rename_i details hdetails
  split at h
  · cases h
  obtain ⟨s4, hrun, hmonit, hown, hother⟩ := declareInstanceNodes_recovered D hsep hr hd hdetails
    { s.withMonit (dropUnmonitored D) with
      registry := (runningVersions details).foldl Registry.ensurePath s.registry } rfl
  dsimp only [Node.withMonit] at h hrun hmonit
  rw [hrun] at h
  cases h
  refine ⟨fun w => ?_, List.nodup_dedup _, fun i => by rw [List.mem_dedup, mem_of_mapM_eq_some hdetails],
    hown, hother⟩
  rw [hmonit]
  exact mem_configs_dropUnmonitored D _ w

end Recovery

/-- **A process the reconciler cannot parse stops the boot.**  When the remaining instance
    watches parse and the process table holds a process that `clean_up_instances`
    recognises and cannot parse, `recover_state` raises the exception of the first such
    process, with the unmonitored configurations removed and the registry untouched. -/
theorem recoverState_raises_of_unparsable {L : Layout} {s : Node} {pre post : List Process}
    {p : Process} {e : Err} (hparse : ∀ w ∈ remainingWatches D s.monit, (parseInstanceWatch D w).isSome)
    (hpre : ∀ q ∈ pre, ∀ e, appServerOf L q.cmdline ≠ some (.error e))
    (hp : appServerOf L p.cmdline = some (.error e)) :
    recoverState D L (pre ++ p :: post) s = .error e (s.withMonit (dropUnmonitored D)) := by
  obtain ⟨details, hdetails⟩ := mapM_isSome hparse
  simp only [recoverState, hdetails, cleanUpInstances_error hpre hp]

/-- A node at boot: one running instance watch, one unmonitored watch, and an API-server
    watch; the registry holds a stale child of this machine (port 8081) and a child of
    another machine. -/
def bootNode : Node where
  monit := ⟨[("instance_guestbook_default_v1_1-8080".toList, .running),
      ("instance_guestbook_default_v1_0-8081".toList, .unmonitored),
      ("api-server_guestbook-19999".toList, .running)],
    ["instance_guestbook_default_v1_1-8080".toList, "instance_guestbook_default_v1_0-8081".toList,
      "api-server_guestbook-19999".toList]⟩
  apiServers := []
  runningInstances := []
  registry := ⟨["guestbook_default_v1".toList],
    [(("guestbook_default_v1".toList, "10.0.0.2:8081".toList), "0".toList),
     (("guestbook_default_v1".toList, "10.0.0.5:8080".toList), "1".toList)]⟩
  sources := []

theorem registryShape_bootNode : RegistryShape specDeployment bootNode.registry := by
  refine ⟨by decide, by decide, fun n hn => ?_, fun n hn => ?_, by decide⟩
  · simp only [bootNode, List.mem_cons, List.mem_singleton, List.not_mem_nil, or_false] at hn
    rcases hn with rfl | rfl <;>
      exact ⟨"guestbook".toList, "default".toList, "v1".toList, by decide, by decide, by decide, rfl⟩
  · simp only [bootNode, List.mem_cons, List.mem_singleton, List.not_mem_nil, or_false] at hn
    rcases hn with rfl | rfl
    · exact ⟨"10.0.0.2".toList, 8081, by decide, rfl⟩
    · exact ⟨"10.0.0.5".toList, 8080, by decide, rfl⟩

/-- The node `recover_state` leaves from `bootNode`, with no AppServer process running. -/
def bootNodeRecovered : Node := Py.after (recoverState specDeployment sampleLayout [] bootNode)

/-- Recovering `bootNode`: the unmonitored watch's configuration goes, the running instance
    is returned, its registry child replaces the stale one, and the other machine's child
    stays. -/
theorem recoverState_spec_bootNode :
    (∀ w, w ∈ bootNodeRecovered.monit.configs ↔ w ∈ bootNode.monit.configs ∧
      ¬ (startswith w specDeployment.monitInstancePrefix ∧
        (w, MonitState.unmonitored) ∈ bootNode.monit.entries)) ∧
    [Instance.mk "guestbook_default_v1_1".toList 8080].Nodup ∧
    (∀ i, i ∈ [Instance.mk "guestbook_default_v1_1".toList 8080] ↔
      ∃ w ∈ remainingWatches specDeployment bootNode.monit, parseInstanceWatch specDeployment w = some i) ∧
    (∀ v e x, entryIp e = specDeployment.privateIp → (bootNodeRecovered.registry.get v e = some x ↔
      ∃ i ∈ [Instance.mk "guestbook_default_v1_1".toList 8080], i.versionKey specDeployment = v ∧
        instanceEntry specDeployment i = e ∧ i.revision specDeployment = x)) ∧
    (∀ v e, entryIp e ≠ specDeployment.privateIp →
      bootNodeRecovered.registry.get v e = bootNode.registry.get v e) :=
  recoverState_spec specDeployment rfl registryShape_bootNode
    (by
      intro w hw w' hw' i j hi hj _ _
      have hw1 : remainingWatches specDeployment bootNode.monit =
          ["instance_guestbook_default_v1_1-8080".toList] := by decide
      rw [hw1, List.mem_singleton] at hw hw'
      subst hw hw'
      exact Option.some.inj (hi.symm.trans hj))
    sampleLayout [] bootNodeRecovered _ [] rfl

/-- The monitored instance watches of `bootNode` name distinct instances: there is one. -/
theorem bootNode_distinct : ∀ w ∈ remainingWatches specDeployment bootNode.monit,
    ∀ w' ∈ remainingWatches specDeployment bootNode.monit, ∀ i j,
      parseInstanceWatch specDeployment w = some i → parseInstanceWatch specDeployment w' = some j →
      i.versionKey specDeployment = j.versionKey specDeployment → i.port = j.port → i = j := by
  intro w hw w' hw' i j hi hj _ _
  have hw1 : remainingWatches specDeployment bootNode.monit =
      ["instance_guestbook_default_v1_1-8080".toList] := by decide
  rw [hw1, List.mem_singleton] at hw hw'
  subst hw hw'
  exact Option.some.inj (hi.symm.trans hj)

/-- A `grep` for the Java class, run while the node boots. -/
def grepProcess : Process := ⟨4343, 4343, ["grep".toList, sampleLayout.javaAppserverClass]⟩

/-- **A `grep` stops the boot.**  The `grep`'s command line holds `JAVA_APPSERVER_CLASS`, and
    its last argument has no `/`, so `cmd[-1].split(os.sep)[-2]` raises `IndexError`:
    `clean_up_instances` raises instead of passing the process over, and `recover_state`
    with it. -/
theorem recoverState_raises_on_grep :
    appServerOf sampleLayout grepProcess.cmdline = some (.error .indexError) ∧
      cleanUpInstances sampleLayout [("guestbook_default_v1_1".toList, 8080)] [grepProcess] =
        .error .indexError ∧
      ∃ s', recoverState specDeployment sampleLayout [grepProcess] bootNode = .error .indexError s' :=
  ⟨rfl, rfl, _, rfl⟩

end AppManager
