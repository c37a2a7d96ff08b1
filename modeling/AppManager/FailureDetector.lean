import AppManager.Handlers

namespace AppManager

/-!
# AppManager — the failure detector

Every tick, `stop_failed_instances` asks HAProxy which instances of this machine are down
and stops them:

    failed_instances = yield get_failed_instances()
    for instance in running_instances:
      if (instance.version_key, instance.port) in failed_instances:
        yield stop_app_instance(instance.version_key, instance.port)

The loop iterates the live set `running_instances`, which `stop_app_instance` shrinks
through `unregister_instance`, and catches nothing.  CPython's set iterator compares the
set's size with its size when the iteration began before every `next()`, the one that
would end the loop included, and raises `RuntimeError` when they differ.

* `getFailedInstances` — the `(version_key, port)` of every server of this machine whose
  status starts with `DOWN`, in the `gae_` proxies of HAProxy's stats
  (`mem_getFailedInstances`);
* `stopFailedLoop` — the loop over the set's iteration order, `setIterNext` the iterator's
  size check, and `stopFailedInstances` the whole tick after its first `yield`;
* `stopFailedLoop_ok_size` — a tick that returns leaves `running_instances` at the size it
  began with, and since every stop only removes instances (`Shrinks`),
  `stopFailedInstances_ok_unchanged` — a tick that returns has stopped no running instance;
  `stopFailedInstances_first_failed_raises` and `stopFailedInstances_first_failed_resized` —
  an exception of the first `stop_app_instance` ends the tick, and so does a
  `stop_app_instance` that returns having unregistered a running instance: the next
  `next()` raises `RuntimeError`;
* `stopFailedInstances_stops_one_of_two` — with two failed instances, a tick stops one and
  raises, the other still running.

These are facts of a tick run alone, which `run_tick_alone` shows is a run of the event loop
of `AppManager.Tasks`; there the ticks are events like the requests, and interleave with
them.
-/

variable (D : Deployment) (ext : Ext) (projects : Projects)

/-! ### `get_failed_instances` -/

/-- A server of a proxy in HAProxy's stats, with the fields `get_failed_instances` reads. -/
structure ProxyServer where
  privateIp : Str
  port : Int
  status : Str
deriving DecidableEq, Repr

/-- A proxy of `proxies_stats`, with its `name` and its `servers`. -/
structure ProxyStats where
  name : Str
  servers : List ProxyServer
deriving DecidableEq, Repr

/-- The body of the inner loop: add a server of this machine whose status starts with
    `DOWN`. -/
def addFailed (versionKey : Str) (failed : List (Str × Int)) (server : ProxyServer) :
    List (Str × Int) :=
  if server.privateIp ≠ D.privateIp then failed
  else if !startswith server.status "DOWN".toList then failed
  else failed.insert (versionKey, server.port)

/-- `get_failed_instances` on the `proxies_stats` of HAProxy's reply. -/
def getFailedInstances (proxiesStats : List ProxyStats) : List (Str × Int) :=
  (proxiesStats.filter fun p => startswith p.name "gae_".toList).foldl
    (fun failed version => version.servers.foldl (addFailed D (version.name.drop 4)) failed) []

theorem mem_foldl_addFailed (vk : Str) (servers : List ProxyServer) (acc : List (Str × Int))
    (x : Str × Int) :
    x ∈ servers.foldl (addFailed D vk) acc ↔ x ∈ acc ∨ ∃ server ∈ servers,
      server.privateIp = D.privateIp ∧ startswith server.status "DOWN".toList ∧
        x = (vk, server.port) := by
  induction servers generalizing acc with
  | nil => simp
  | cons server servers ih =>
    rw [List.foldl_cons, ih, addFailed]
    generalize "DOWN".toList = down
    by_cases hip : server.privateIp = D.privateIp
    · cases hdown : startswith server.status down <;> simp [hip, hdown, or_assoc, or_left_comm]
    · simp [hip]

/-- **What `get_failed_instances` returns.**  A pair is failed exactly when a `gae_` proxy,
    named after its version key, has a server of this machine on that port whose status
    starts with `DOWN`. -/
theorem mem_getFailedInstances (proxiesStats : List ProxyStats) (vk : Str) (port : Int) :
    (vk, port) ∈ getFailedInstances D proxiesStats ↔ ∃ p ∈ proxiesStats,
      startswith p.name "gae_".toList ∧ vk = p.name.drop 4 ∧ ∃ server ∈ p.servers,
        server.privateIp = D.privateIp ∧ startswith server.status "DOWN".toList ∧
          server.port = port := by
  suffices ∀ (ps : List ProxyStats) acc, (vk, port) ∈ ps.foldl
      (fun failed version => version.servers.foldl (addFailed D (version.name.drop 4)) failed) acc ↔
      (vk, port) ∈ acc ∨ ∃ p ∈ ps, vk = p.name.drop 4 ∧ ∃ server ∈ p.servers,
        server.privateIp = D.privateIp ∧ startswith server.status "DOWN".toList ∧
          server.port = port by
    simp [getFailedInstances, this, and_assoc]
  intro ps
  induction ps with
  | nil => simp
  | cons p ps ih =>
    intro acc
    simp only [List.foldl_cons, ih, mem_foldl_addFailed, List.mem_cons, Prod.mk.injEq]
    constructor
    · rintro ((h | ⟨server, hs, hip, hdown, rfl, rfl⟩) | ⟨q, hq, h⟩)
      · exact .inl h
      · exact .inr ⟨p, .inl rfl, rfl, server, hs, hip, hdown, rfl⟩
      · exact .inr ⟨q, .inr hq, h⟩
    · rintro (h | ⟨q, rfl | hq, rfl, server, hs, hip, hdown, rfl⟩)
      · exact .inl (.inl h)
      · exact .inl (.inr ⟨server, hs, hip, hdown, rfl, rfl⟩)
      · exact .inr ⟨q, hq, rfl, server, hs, hip, hdown, rfl⟩

/-! ### `stop_failed_instances` -/

/-- CPython's `setiter_iternext` before it yields: a set whose size is no longer the size
    it had when the iteration began raises `RuntimeError`. -/
def setIterNext (size : Nat) : Py Unit := fun s =>
  if s.runningInstances.length = size then .ok () s
  else .error (.runtimeError "Set changed size during iteration".toList) s

/-- The `for` loop of `stop_failed_instances` over the rest of the set's iteration order,
    `size` the set's size when it began. -/
def stopFailedLoop (failed : List (Str × Int)) (size : Nat) : List Instance → Py Unit
  | [] => setIterNext size
  | i :: rest => do
    setIterNext size
    if (i.versionKey D, i.port) ∈ failed then
      stopAppInstance D ext projects (i.versionKey D) i.port
    stopFailedLoop failed size rest

/-- `stop_failed_instances` once `get_failed_instances` has answered; the set is iterated in
    the order of the list that holds it. -/
def stopFailedInstances (proxiesStats : List ProxyStats) : Py Unit := do
  let s ← get
  stopFailedLoop D ext projects (getFailedInstances D proxiesStats) s.runningInstances.length
    s.runningInstances

variable {D ext projects} {failed : List (Str × Int)} {size : Nat} {s s' : Node}

theorem setIterNext_of_size (h : s.runningInstances.length = size) : setIterNext size s = .ok () s :=
  if_pos h

theorem stopFailedLoop_resized (h : s.runningInstances.length ≠ size) (l : List Instance) :
    stopFailedLoop D ext projects failed size l s =
      .error (.runtimeError "Set changed size during iteration".toList) s := by
  cases l with
  | nil => exact if_neg h
  | cons i rest => exact Py.bind_error (if_neg h)

theorem stopFailedLoop_skip {i : Instance} (h : s.runningInstances.length = size)
    (hi : (i.versionKey D, i.port) ∉ failed) (rest : List Instance) :
    stopFailedLoop D ext projects failed size (i :: rest) s =
      stopFailedLoop D ext projects failed size rest s := by
  simp only [stopFailedLoop]
  rw [Py.bind_ok (setIterNext_of_size h), if_neg hi]
  rfl

theorem stopFailedLoop_stop {i : Instance} (h : s.runningInstances.length = size)
    (hi : (i.versionKey D, i.port) ∈ failed) (rest : List Instance) :
    stopFailedLoop D ext projects failed size (i :: rest) s =
      (stopAppInstance D ext projects (i.versionKey D) i.port >>= fun _ =>
        stopFailedLoop D ext projects failed size rest) s := by
  simp only [stopFailedLoop]
  rw [Py.bind_ok (setIterNext_of_size h), if_pos hi]

/-- **A tick that returns keeps the set's size.**  The last `next()` checks the size too, so
    a loop that returns ends with `running_instances` at the size it began with. -/
theorem stopFailedLoop_ok_size {l : List Instance}
    (h : stopFailedLoop D ext projects failed size l s = .ok () s') :
    s'.runningInstances.length = size := by
  induction l generalizing s with
  | nil =>
    by_cases hs : s.runningInstances.length = size
    · rw [stopFailedLoop, setIterNext_of_size hs] at h
      cases h
      exact hs
    · rw [stopFailedLoop_resized hs] at h
      cases h
  | cons i rest ih =>
    by_cases hs : s.runningInstances.length = size
    · by_cases hi : (i.versionKey D, i.port) ∈ failed
      · rw [stopFailedLoop_stop hs hi] at h
        cases hstop : stopAppInstance D ext projects (i.versionKey D) i.port s with
        | ok _ s₁ => exact ih (by rwa [Py.bind_ok hstop] at h)
        | error e s₁ => rw [Py.bind_error hstop] at h; cases h
      · exact ih (by rwa [stopFailedLoop_skip hs hi] at h)
    · rw [stopFailedLoop_resized hs] at h
      cases h

/-- The instances before the first failed one are passed over. -/
theorem stopFailedLoop_append_skipped {pre : List Instance} (h : s.runningInstances.length = size)
    (hpre : ∀ j ∈ pre, (j.versionKey D, j.port) ∉ failed) (l : List Instance) :
    stopFailedLoop D ext projects failed size (pre ++ l) s =
      stopFailedLoop D ext projects failed size l s := by
  induction pre with
  | nil => rfl
  | cons j pre ih =>
    rw [List.cons_append, stopFailedLoop_skip h (hpre j (.head _)),
      ih fun j' hj' => hpre j' (.tail _ hj')]

section FirstFailed

variable {stats : List ProxyStats} {pre rest : List Instance} {i : Instance} {s₁ : Node}

/-- **An exception ends the tick.**  When the first failed instance of the iteration order
    makes `stop_app_instance` raise (a `No entries exist` `HTTPError` for a watch a
    concurrent stop removed, a refused unmonitor, …), the tick raises it, and no later
    failed instance is stopped. -/
theorem stopFailedInstances_first_failed_raises {e : Err}
    (horder : s.runningInstances = pre ++ i :: rest)
    (hpre : ∀ j ∈ pre, (j.versionKey D, j.port) ∉ getFailedInstances D stats)
    (hi : (i.versionKey D, i.port) ∈ getFailedInstances D stats)
    (hstop : stopAppInstance D ext projects (i.versionKey D) i.port s = .error e s₁) :
    stopFailedInstances D ext projects stats s = .error e s₁ := by
  show stopFailedLoop D ext projects _ _ s.runningInstances s = _
  have hn := congrArg List.length horder
  conv_lhs => rw [horder]
  rw [stopFailedLoop_append_skipped hn hpre, stopFailedLoop_stop hn hi, Py.bind_error hstop]

/-- **A removal ends the tick.**  When `stop_app_instance` on the first failed instance
    returns having changed the size of `running_instances`, as it does when it unregisters a
    running instance, the next `next()` raises `RuntimeError`, however many instances remain
    to be visited: no later failed instance is stopped. -/
theorem stopFailedInstances_first_failed_resized (horder : s.runningInstances = pre ++ i :: rest)
    (hpre : ∀ j ∈ pre, (j.versionKey D, j.port) ∉ getFailedInstances D stats)
    (hi : (i.versionKey D, i.port) ∈ getFailedInstances D stats)
    (hstop : stopAppInstance D ext projects (i.versionKey D) i.port s = .ok () s₁)
    (hsize : s₁.runningInstances.length ≠ s.runningInstances.length) :
    stopFailedInstances D ext projects stats s =
      .error (.runtimeError "Set changed size during iteration".toList) s₁ := by
  show stopFailedLoop D ext projects _ _ s.runningInstances s = _
  have hn := congrArg List.length horder
  conv_lhs => rw [horder]
  rw [stopFailedLoop_append_skipped hn hpre, stopFailedLoop_stop hn hi, Py.bind_ok hstop,
    stopFailedLoop_resized (by rwa [← hn])]

end FirstFailed

/-! ### A tick only removes -/

/-- A segment that, returning or raising, can only remove instances from
    `running_instances`. -/
def Shrinks {α : Type} (x : Py α) : Prop :=
  ∀ s, List.Sublist (Py.after (x s)).runningInstances s.runningInstances

section Shrinks

variable {α β : Type} {x : Py α} {f : α → Py β}

theorem shrinks_of_eq (h : ∀ s, (Py.after (x s)).runningInstances = s.runningInstances) :
    Shrinks x :=
  fun s => h s ▸ List.Sublist.refl _

theorem shrinks_bind (hx : Shrinks x) (hf : ∀ a, Shrinks (f a)) : Shrinks (x >>= f) := by
  intro s
  have hs := hx s
  cases h : x s with
  | ok a s' => rw [h] at hs; rw [Py.bind_ok h]; exact (hf a s').trans hs
  | error e s' => rw [h] at hs; rw [Py.bind_error h]; exact hs

theorem shrinks_unmonitorAndTerminate (w : Str) : Shrinks (unmonitorAndTerminate ext w) :=
  shrinks_of_eq fun s => by
    rcases unmonitorAndTerminate_cases ext w s with h | h | ⟨e, h⟩ <;> rw [h] <;> rfl

theorem shrinks_stopApiServer (P : Str) : Shrinks (stopApiServer ext P) :=
  shrinks_of_eq fun s => by
    unfold stopApiServer
    split
    · rfl
    · rcases unmonitorAndTerminate_cases ext (apiServerWatch P _) s with h | h | ⟨e, h⟩ <;>
        rw [h] <;> rfl

theorem shrinks_stopAppInstanceEntries (vk : Str) (port : Int) (entries : List Str) :
    Shrinks (stopAppInstanceEntries D ext vk port entries) := by
  unfold stopAppInstanceEntries
  split
  · split
    · refine shrinks_bind (fun s => by exact List.erase_sublist _ _) fun _ =>
        shrinks_bind (shrinks_unmonitorAndTerminate _) fun _ => ?_
      dsimp only
      split
      · exact shrinks_stopApiServer _
      · exact shrinks_of_eq fun _ => rfl
    · exact shrinks_of_eq fun _ => rfl
  · exact shrinks_of_eq fun _ => rfl

/-- `stop_app_instance`, returning or raising, only removes instances: the one it
    unregisters. -/
theorem shrinks_stopAppInstance (vk : Str) (port : Int) :
    Shrinks (stopAppInstance D ext projects vk port) := by
  unfold stopAppInstance
  refine shrinks_bind (shrinks_of_eq fun s => ?_) fun _ => shrinks_bind (shrinks_of_eq fun _ => rfl)
    fun s => shrinks_bind (shrinks_stopAppInstanceEntries _ _ _) fun _ =>
      shrinks_bind (shrinks_of_eq fun _ => rfl) fun _ => shrinks_bind (shrinks_of_eq fun _ => rfl)
        fun _ => shrinks_of_eq fun _ => rfl
  rcases stopAppBegin_cases D vk s with h | ⟨e, h⟩ <;> rw [h] <;> rfl

theorem shrinks_stopFailedLoop (failed : List (Str × Int)) (size : Nat) (l : List Instance) :
    Shrinks (stopFailedLoop D ext projects failed size l) := by
  have hnext : Shrinks (setIterNext size) := shrinks_of_eq fun s => by
    unfold setIterNext
    split <;> rfl
  induction l with
  | nil => exact hnext
  | cons i rest ih =>
    refine shrinks_bind hnext fun _ => ?_
    dsimp only
    split
    · exact shrinks_bind (shrinks_stopAppInstance _ _) fun _ => ih
    · exact ih

end Shrinks

/-- **A tick that returns stopped no running instance.**  Every stop of the loop only removes
    instances, and the last `next()` checks that the set kept its size: a tick that returns
    leaves `running_instances` exactly as it found it. -/
theorem stopFailedInstances_ok_unchanged {stats : List ProxyStats}
    (h : stopFailedInstances D ext projects stats s = .ok () s') :
    s'.runningInstances = s.runningInstances := by
  have hloop : stopFailedLoop D ext projects _ s.runningInstances.length s.runningInstances s =
      .ok () s' := h
  have hsub := @shrinks_stopFailedLoop D ext projects (getFailedInstances D stats)
    s.runningInstances.length s.runningInstances s
  rw [hloop] at hsub
  exact hsub.eq_of_length (stopFailedLoop_ok_size hloop)

/-- A tick with no proxy reporting a failure, on a node running one instance. -/
theorem stopFailedInstances_ok_unchanged_quiet :
    ∃ s', stopFailedInstances specDeployment Ext.ok []
        [] ⟨⟨[], []⟩, [], [⟨"guestbook_default_v1_1".toList, 8080⟩], ⟨[], []⟩, []⟩ = .ok () s' ∧
      s'.runningInstances = [⟨"guestbook_default_v1_1".toList, 8080⟩] := by
  obtain ⟨s', h⟩ : ∃ s', stopFailedInstances specDeployment Ext.ok []
      [] ⟨⟨[], []⟩, [], [⟨"guestbook_default_v1_1".toList, 8080⟩], ⟨[], []⟩, []⟩ = .ok () s' := ⟨_, rfl⟩
  exact ⟨s', h, stopFailedInstances_ok_unchanged h⟩

/-! ### Two failed instances -/

/-- `guestbook/default/v1` on ports 8080 and 8081, both watched and registered, and the
    project's API server. -/
def twoInstancesOfV1 : Node where
  monit :=
    { entries := [(instanceWatch specDeployment "guestbook_default_v1_1".toList 8080, .running),
        (instanceWatch specDeployment "guestbook_default_v1_1".toList 8081, .running),
        (apiServerWatch "guestbook".toList 19999, .running)]
      configs := [instanceWatch specDeployment "guestbook_default_v1_1".toList 8080,
        instanceWatch specDeployment "guestbook_default_v1_1".toList 8081,
        apiServerWatch "guestbook".toList 19999] }
  apiServers := [("guestbook".toList, 19999)]
  runningInstances := [⟨"guestbook_default_v1_1".toList, 8080⟩, ⟨"guestbook_default_v1_1".toList, 8081⟩]
  registry :=
    { versions := ["guestbook_default_v1".toList]
      nodes := [(("guestbook_default_v1".toList, "10.0.0.2:8080".toList), "1".toList),
        (("guestbook_default_v1".toList, "10.0.0.2:8081".toList), "1".toList)] }
  sources := ["guestbook_default_v1_1".toList]

/-- HAProxy reporting both servers of `guestbook_default_v1` on this machine down. -/
def bothDown : List ProxyStats :=
  [⟨"gae_guestbook_default_v1".toList,
    [⟨"10.0.0.2".toList, 8080, "DOWN".toList⟩, ⟨"10.0.0.2".toList, 8081, "DOWN 1/2".toList⟩]⟩]

/-- **One tick stops one of two failed instances.**  Both instances of `guestbook_default_v1`
    are down; the tick stops the one on 8080, whose `unregister_instance` shrinks the set,
    and the next `next()` raises `RuntimeError`: the instance on 8081, failed, is still in
    `running_instances`, registered and watched. -/
theorem stopFailedInstances_stops_one_of_two :
    ("guestbook_default_v1".toList, (8081 : Int)) ∈ getFailedInstances specDeployment bothDown ∧
      ∃ s', stopFailedInstances specDeployment Ext.ok [] bothDown twoInstancesOfV1 =
          .error (.runtimeError "Set changed size during iteration".toList) s' ∧
        Instance.mk "guestbook_default_v1_1".toList 8080 ∉ s'.runningInstances ∧
        Instance.mk "guestbook_default_v1_1".toList 8081 ∈ s'.runningInstances ∧
        s'.registry.get "guestbook_default_v1".toList "10.0.0.2:8081".toList = some "1".toList ∧
        instanceWatch specDeployment "guestbook_default_v1_1".toList 8081 ∈ s'.monit.watches :=
  ⟨by decide, _, rfl, by decide⟩

end AppManager
