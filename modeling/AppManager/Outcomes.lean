import AppManager.Moves
import AppManager.Races
import AppManager.Selection

namespace AppManager

/-!
# AppManager — what a handler run alone leaves when it returns

A handler that returns has run every step of its body.  Read off the code, step by step:

* `startApp_returns` — a `start_app` that returns has fetched the revision's source,
  recorded its project's API server, written and started the instance's watch and ensured
  its version node; when the probe of its `add_routing` reports ready, the instance is in
  `running_instances` and its registry child holds its revision (the version node exists
  by then, so `register_instance` cannot raise);
* `stopApp_returns` — with Monit accepting the unmonitor requests and `running_instances` a
  set, a `stop_app` that returns leaves no watch of the version listed by Monit, and none of
  their instances in `running_instances` or the registry (`stopEntries_returns` for its loop,
  `Clears` for what every step of a stop does);
* `stopAppInstance_returns` — the same for the one watch `stop_app_instance` finds.
-/

variable (D : Deployment) (ext : Ext)

variable {D ext}

/-! ### `start_app` -/

/-- `ensure_api_server` returns the port it has recorded for the project. -/
theorem ensureApiServer_ok_records {P : Str} {s s' : Node} {port : Int}
    (h : ensureApiServer ext P s = .ok port s') : dictGet P s'.apiServers = some port := by
  unfold ensureApiServer at h
  split at h
  · cases h
    assumption
  · dsimp only at h
    split at h
    · cases h
      simp
    · cases h

/-- What `start_app` holds when it reaches its `yield` on `ensure_source`. -/
theorem startAppBegin_ok {projects : Projects} {vk : Str} {config : StartConfig} {s s₁ : Node}
    {l : StartLocals} (h : startAppBegin D ext projects vk config s = .ok l s₁) :
    l.versionKey = vk ∧ l.instance.versionKey D = vk ∧ config.appPort = some l.appPort ∧
      (∃ a b c details, split D.sep vk = [a, b, c] ∧ dictGet (a, b, c) projects = some details ∧
        l.revisionKey = revisionKeyOf D a b c details.revision) ∧
      ∃ port, ensureApiServer ext (projectOf D vk) s = .ok port s₁ := by
  rcases startAppBegin_spec D ext projects vk config s with ⟨_, h'⟩ | ⟨_, h'⟩ | ⟨l', h', hvk, hivk⟩ <;>
    rw [h'] at h <;> cases h
  rcases startAppBegin_validates D ext projects vk config s with ⟨_, h''⟩ | ⟨-, ⟨_, h''⟩ |
      ⟨l'', h'', ⟨port, hens⟩, hp, hrk⟩⟩ <;> rw [h''] at h' <;> cases h'
  exact ⟨hvk, hivk, hp, hrk, port, hens⟩

/-- **What a returning `start_app` leaves.**  The fetch succeeded; the instance is the
    request's port on the revision key of the version's current revision in `projects`; the
    project has an API server in `api_servers`; the revision's source is on disk; Monit has the instance's
    configuration and lists its watch as running; the version node exists; and when the
    probe reports ready, the instance is in `running_instances` and the registry child of its
    version and port holds its revision. -/
theorem startApp_returns {projects : Projects} {fetchOk ready : Bool} {vk : Str}
    {config : StartConfig} {s s' : Node} (h : startApp D ext projects fetchOk ready vk config s = .ok () s') :
    fetchOk = true ∧ ∃ l : StartLocals, l.versionKey = vk ∧ config.appPort = some l.appPort ∧
      (∃ a b c details, split D.sep vk = [a, b, c] ∧ dictGet (a, b, c) projects = some details ∧
        l.revisionKey = revisionKeyOf D a b c details.revision) ∧
      (dictGet (projectOf D vk) s'.apiServers).isSome ∧ l.revisionKey ∈ s'.sources ∧
      dictGet (instanceWatch D l.revisionKey l.appPort) s'.monit.entries = some .running ∧
      instanceWatch D l.revisionKey l.appPort ∈ s'.monit.configs ∧ vk ∈ s'.registry.versions ∧
      (ready = true → l.instance ∈ s'.runningInstances ∧
        s'.registry.get vk (instanceEntry D l.instance) = some (l.instance.revision D)) := by
  obtain ⟨l, s₁, hb, h⟩ := Py.bind_eq_ok h
  obtain ⟨_, s₂, hf, h⟩ := Py.bind_eq_ok h
  obtain ⟨_, s₃, hs, h⟩ := Py.bind_eq_ok h
  obtain ⟨hvk, hivk, hp, hrk, port, hens⟩ := startAppBegin_ok hb
  have hrec := ensureApiServer_ok_records hens
  obtain rfl : fetchOk = true := by
    cases fetchOk
    · rw [fetchSource_false] at hf
      cases hf
    · rfl
  rw [fetchSource_true] at hf
  cases hf
  rcases startAppFinish_cases D ext l _ with ⟨_, h'⟩ | ⟨_, h'⟩ | h' <;> rw [h'] at hs <;> cases hs
  have hs' : s' = _ := (congrArg Py.after h).symm.trans (addRouting_after D ready l.instance _)
  subst hvk hs'
  refine ⟨rfl, l, rfl, hp, hrk, ?_⟩
  cases ready <;> simp [hrec, hivk, Node.withMonit, Node.register, Monit.start]

/-- Starting `guestbook_default_v1` on port 8080 on an idle node, the probe answering ready. -/
theorem startApp_returns_guestbook :
    ∃ s', startApp specDeployment Ext.ok (guestbookProjects "1".toList) true true
        "guestbook_default_v1".toList ⟨some 8080, some "10.0.0.1".toList⟩ idleWorld.node = .ok () s' ∧
      true = true ∧ ∃ l : StartLocals, l.versionKey = "guestbook_default_v1".toList ∧
        some (8080 : Int) = some l.appPort ∧
        (∃ a b c details, split specDeployment.sep "guestbook_default_v1".toList = [a, b, c] ∧
          dictGet (a, b, c) (guestbookProjects "1".toList) = some details ∧
          l.revisionKey = revisionKeyOf specDeployment a b c details.revision) ∧
        (dictGet (projectOf specDeployment "guestbook_default_v1".toList) s'.apiServers).isSome ∧
        l.revisionKey ∈ s'.sources ∧
        dictGet (instanceWatch specDeployment l.revisionKey l.appPort) s'.monit.entries = some .running ∧
        instanceWatch specDeployment l.revisionKey l.appPort ∈ s'.monit.configs ∧
        "guestbook_default_v1".toList ∈ s'.registry.versions ∧
        (true = true → l.instance ∈ s'.runningInstances ∧
          s'.registry.get "guestbook_default_v1".toList (instanceEntry specDeployment l.instance) =
            some (l.instance.revision specDeployment)) := by
  obtain ⟨s', h⟩ : ∃ s', startApp specDeployment Ext.ok (guestbookProjects "1".toList) true true
      "guestbook_default_v1".toList ⟨some 8080, some "10.0.0.1".toList⟩ idleWorld.node = .ok () s' :=
    ⟨_, rfl⟩
  exact ⟨s', h, startApp_returns h⟩

/-! ### `stop_app` -/

/-- Monit accepting every unmonitor request for a process it lists. -/
def Ext.AcceptsUnmonitor (ext : Ext) : Prop := ∀ name k, ext.unmonitorReply name k = none

theorem unmonitor_accepted (hacc : ext.AcceptsUnmonitor) {name : Str} {s : Node}
    (hw : name ∈ s.monit.watches) (r : Nat) :
    unmonitor ext name r s = .ok () (s.withMonit (·.unmonitor name)) := by
  cases r <;> simp [unmonitor, unmonitorAttempt, hw, hacc name]

theorem unmonitorAndTerminate_accepted (hacc : ext.AcceptsUnmonitor) {w : Str} {s : Node}
    (hw : w ∈ s.monit.watches) :
    unmonitorAndTerminate ext w s = .ok () (s.withMonit fun m => (m.unmonitor w).removeConfiguration w) := by
  simp only [unmonitorAndTerminate, unmonitor_accepted hacc hw]
  rfl

/-- What the steps of a stop do to the node: they retract, remove Monit configurations, keep
    the watches Monit lists (an unmonitored watch stays listed until `reload`), and keep
    `running_instances` a set. -/
structure Clears (s s' : Node) : Prop where
  retracts : Retracts s s'
  configs : ∀ w ∈ s'.monit.configs, w ∈ s.monit.configs
  watches : ∀ w, w ∈ s'.monit.watches ↔ w ∈ s.monit.watches
  nodup : s.runningInstances.Nodup → s'.runningInstances.Nodup

theorem Clears.refl (s : Node) : Clears s s := ⟨.refl s, fun _ h => h, fun _ => .rfl, id⟩

theorem Clears.trans {a b c : Node} (h₁ : Clears a b) (h₂ : Clears b c) : Clears a c :=
  ⟨h₁.retracts.trans h₂.retracts, fun w h => h₁.configs w (h₂.configs w h),
    fun w => (h₂.watches w).trans (h₁.watches w), h₂.nodup ∘ h₁.nodup⟩

theorem Clears.withApiServers (s : Node) (a : List (Str × Int)) : Clears s { s with apiServers := a } :=
  ⟨.of_eq rfl rfl rfl, fun _ h => h, fun _ => .rfl, id⟩

theorem Clears.unregister (s : Node) (i : Instance) : Clears s (s.unregister D i) :=
  ⟨.unregister D s i, fun _ h => h, fun _ => .rfl, List.Nodup.erase i⟩

/-- Tearing down a watch Monit lists keeps it listed and removes its configuration. -/
theorem Clears.teardown {s : Node} {w : Str} (hw : w ∈ s.monit.watches) :
    Clears s (s.withMonit fun m => (m.unmonitor w).removeConfiguration w) := by
  refine ⟨.of_eq rfl rfl rfl, fun c h => ?_, fun c => ?_, id⟩
  · simp only [Node.monit_withMonit, Monit.configs_removeConfiguration, Monit.configs_unmonitor,
      List.mem_filter] at h
    exact h.1
  · simp only [Node.monit_withMonit, Monit.watches_removeConfiguration, Monit.mem_watches_unmonitor]
    exact ⟨fun h => h.elim (· ▸ hw) id, .inr⟩

variable (ext) in
theorem clears_unmonitorAndTerminate (w : Str) (s : Node) :
    Clears s (Py.after (unmonitorAndTerminate ext w s)) := by
  rcases unmonitorAndTerminate_after ext w s with ⟨hw, h⟩ | h <;> rw [h]
  · exact .teardown hw
  · exact .refl s

variable (ext) in
theorem clears_stopApiServer (P : Str) (s : Node) : Clears s (Py.after (stopApiServer ext P s)) := by
  rcases stopApiServer_after ext P s with h | ⟨_, -, ⟨hw, h⟩ | h⟩ <;> rw [h]
  · exact .refl s
  · exact (Clears.teardown hw).trans (.withApiServers _ _)
  · exact .withApiServers _ _

variable (D ext) in
/-- The loop of `stop_app` over the watches it selected clears the node, returning or
    raising. -/
theorem clears_stopEntries (es : List Str) (s : Node) :
    Clears s (Py.after (stopEntries D ext es s)) := by
  induction es generalizing s with
  | nil => exact .refl s
  | cons e es ih =>
    unfold stopEntries
    cases parseInstanceWatch D e with
    | none => exact .refl s
    | some i =>
      dsimp only
      rw [Py.bind_ok (Py.modify_apply _ _)]
      have hu := clears_unmonitorAndTerminate ext e (s.unregister D i)
      cases h : unmonitorAndTerminate ext e (s.unregister D i) with
      | ok _ s₂ =>
        rw [h] at hu
        rw [Py.bind_ok h]
        exact (Clears.unregister s i).trans (hu.trans (ih s₂))
      | error _ s₂ =>
        rw [h] at hu
        rw [Py.bind_error h]
        exact (Clears.unregister s i).trans hu

variable (D) in
/-- A watch a stop has taken down: its configuration is gone, and the instance it names is
    out of `running_instances` and has no registry entry. -/
def Stopped (s : Node) (e : Str) : Prop :=
  e ∉ s.monit.configs ∧ ∃ i, parseInstanceWatch D e = some i ∧ i ∉ s.runningInstances ∧
    s.registry.get (i.versionKey D) (instanceEntry D i) = none

theorem Stopped.of_clears {s s' : Node} {e : Str} (he : Stopped D s e) (h : Clears s s') :
    Stopped D s' e := by
  obtain ⟨hc, i, hi, hr, hg⟩ := he
  exact ⟨fun h' => hc (h.configs e h'), i, hi, fun h' => hr (h.retracts.running i h'),
    h.retracts.registry _ _ hg⟩

/-- One turn of a stop on a watch that parses, with Monit accepting: `unregister_instance`,
    then the watch torn down. -/
theorem stopped_teardown {s : Node} {e : Str} {i : Instance} (hnd : s.runningInstances.Nodup)
    (hp : parseInstanceWatch D e = some i) :
    Stopped D ((s.unregister D i).withMonit fun m => (m.unmonitor e).removeConfiguration e) e :=
  ⟨by simp, i, hp, hnd.not_mem_erase, by simp [Node.unregister]⟩

/-- After Monit's `reload`, a watch whose configuration is gone is no longer listed. -/
theorem Stopped.not_mem_reload {s : Node} {e : Str} (h : Stopped D s e) :
    e ∉ (s.withMonit Monit.reload).monit.watches := fun hw =>
  h.1 ((Monit.mem_watches_reload _ _).1 hw).2

/-- The check before a stop's first `yield` returns on the node it was given. -/
theorem stopAppBegin_ok_node {vk : Str} {s s₀ : Node} {u : Unit} (h : stopAppBegin D vk s = .ok u s₀) :
    s = s₀ := by
  rcases stopAppBegin_cases D vk s with h' | ⟨_, h'⟩ <;> rw [h'] at h <;> cases h
  rfl

/-- The stops end on `if not remaining_instances: yield stop_api_server(project_id)`. -/
theorem clears_ite_stopApiServer {c : Bool} {P : Str} {s s' : Node}
    (h : (if c then stopApiServer ext P else pure ()) s = .ok () s') : Clears s s' := by
  split at h
  · have := clears_stopApiServer ext P s
    rwa [h] at this
  · cases h
    exact .refl s

/-- **The loop of `stop_app`, returning.**  With Monit accepting the unmonitor requests, a
    loop over watches Monit lists that returns has taken every one of them down, on a
    `running_instances` without duplicates. -/
theorem stopEntries_returns (hacc : ext.AcceptsUnmonitor) {es : List Str} {s s' : Node}
    (h : stopEntries D ext es s = .ok () s') (hes : ∀ e ∈ es, e ∈ s.monit.watches)
    (hnd : s.runningInstances.Nodup) : ∀ e ∈ es, Stopped D s' e := by
  induction es generalizing s with
  | nil => simp
  | cons e es ih =>
    have hw := hes e (List.mem_cons_self e es)
    unfold stopEntries at h
    cases hp : parseInstanceWatch D e with
    | none => rw [hp] at h; cases h
    | some i =>
      rw [hp] at h
      dsimp only at h
      rw [Py.bind_ok (Py.modify_apply _ _), Py.bind_ok (unmonitorAndTerminate_accepted hacc (s := s.unregister D i) hw)] at h
      have hT := (Clears.unregister (D := D) s i).trans (.teardown (s := s.unregister D i) hw)
      have he := stopped_teardown (D := D) hnd hp
      generalize (s.unregister D i).withMonit (fun m => (m.unmonitor e).removeConfiguration e) = t at h hT he
      have hrest := clears_stopEntries D ext es t
      rw [h] at hrest
      rintro e' (_ | ⟨_, he'⟩)
      · exact he.of_clears hrest
      · exact ih h (fun e' he' => (hT.watches e').2 (hes e' (.tail _ he'))) (hT.nodup hnd) e' he'

/-- **What a returning `stop_app` leaves.**  With Monit accepting the unmonitor requests and
    `running_instances` a set, a `stop_app` of `vk` that returns leaves Monit listing no watch
    whose name starts with `MONIT_INSTANCE_PREFIX + vk`, and every such watch it found names an
    instance that is out of `running_instances` and has no registry entry. -/
theorem stopApp_returns (hacc : ext.AcceptsUnmonitor) {projects : Projects} {vk : Str} {s s' : Node}
    (hnd : s.runningInstances.Nodup) (h : stopApp D ext projects vk s = .ok () s') :
    (∀ e ∈ s'.monit.watches, startswith e (D.monitInstancePrefix ++ vk) = false) ∧
    ∀ e ∈ s.monit.watches, startswith e (D.monitInstancePrefix ++ vk) = true →
      ∃ i, parseInstanceWatch D e = some i ∧ i ∉ s'.runningInstances ∧
        s'.registry.get (i.versionKey D) (instanceEntry D i) = none := by
  obtain ⟨_, s₀, hb, h⟩ := Py.bind_eq_ok h
  obtain rfl := stopAppBegin_ok_node hb
  rw [Py.bind_ok (Py.get_apply s)] at h
  obtain ⟨_, s₁, hentries, h⟩ := Py.bind_eq_ok h
  rw [Py.bind_ok (Py.modify_apply _ _), Py.bind_ok (Py.get_apply _)] at h
  cases h
  obtain ⟨_, s₂, hloop, hapi⟩ := Py.bind_eq_ok hentries
  have hstopped := stopEntries_returns hacc hloop (fun e he => (List.mem_filter.1 he).1) hnd
  have h₂ : Clears s₂ s₁ := clears_ite_stopApiServer hapi
  have h₁ := clears_stopEntries D ext (versionEntries D vk s.monit.watches) s
  rw [hloop] at h₁
  have hsel : ∀ e ∈ s.monit.watches, startswith e (D.monitInstancePrefix ++ vk) = true →
      Stopped D s₁ e := fun e hw hpre =>
    (hstopped e (List.mem_filter.2 ⟨hw, hpre⟩)).of_clears h₂
  refine ⟨fun e hw => ?_, fun e hw hpre => (hsel e hw hpre).2⟩
  by_contra hpre
  have hw₁ := (h₂.watches e).1 ((Monit.mem_watches_reload _ _).1 hw).1
  exact (hsel e ((h₁.watches e).1 hw₁) (by simpa using hpre)).not_mem_reload hw

/-- Stopping `guestbook_default_v1` where its one instance runs on port 8080. -/
theorem stopApp_returns_v1On8080 :
    ∃ s', stopApp specDeployment Ext.ok [] "guestbook_default_v1".toList v1On8080 = .ok () s' ∧
      Ext.ok.AcceptsUnmonitor ∧ v1On8080.runningInstances.Nodup ∧
      (∀ e ∈ s'.monit.watches,
        startswith e (specDeployment.monitInstancePrefix ++ "guestbook_default_v1".toList) = false) ∧
      ∀ e ∈ v1On8080.monit.watches,
        startswith e (specDeployment.monitInstancePrefix ++ "guestbook_default_v1".toList) = true →
        ∃ i, parseInstanceWatch specDeployment e = some i ∧ i ∉ s'.runningInstances ∧
          s'.registry.get (i.versionKey specDeployment) (instanceEntry specDeployment i) = none := by
  obtain ⟨s', h⟩ : ∃ s', stopApp specDeployment Ext.ok [] "guestbook_default_v1".toList v1On8080 = .ok () s' :=
    ⟨_, rfl⟩
  have hacc : Ext.ok.AcceptsUnmonitor := fun _ _ => rfl
  have hnd : v1On8080.runningInstances.Nodup := by decide
  exact ⟨s', h, hacc, hnd, stopApp_returns hacc hnd h⟩

/-- **What a returning `stop_app_instance` leaves.**  With Monit accepting the unmonitor
    requests and `running_instances` a set, a `stop_app_instance` that returns found a watch
    with the regex, the first one Monit lists; Monit no longer lists it, and the instance it
    names is out of `running_instances` and has no registry entry. -/
theorem stopAppInstance_returns (hacc : ext.AcceptsUnmonitor) {projects : Projects} {vk : Str}
    {port : Int} {s s' : Node} (hnd : s.runningInstances.Nodup)
    (h : stopAppInstance D ext projects vk port s = .ok () s') :
    ∃ w, s.monit.watches.find? (instanceKeyMatch D vk port) = some w ∧ w ∉ s'.monit.watches ∧
      ∃ i, parseInstanceWatch D w = some i ∧ i ∉ s'.runningInstances ∧
        s'.registry.get (i.versionKey D) (instanceEntry D i) = none := by
  obtain ⟨_, s₀, hb, h⟩ := Py.bind_eq_ok h
  obtain rfl := stopAppBegin_ok_node hb
  rw [Py.bind_ok (Py.get_apply s)] at h
  obtain ⟨_, s₁, hentries, h⟩ := Py.bind_eq_ok h
  rw [Py.bind_ok (Py.modify_apply _ _), Py.bind_ok (Py.get_apply _)] at h
  cases h
  unfold stopAppInstanceEntries at hentries
  cases hf : s.monit.watches.find? (instanceKeyMatch D vk port) with
  | none => simp only [hf] at hentries; cases hentries
  | some w =>
    have hw := List.mem_of_find?_eq_some hf
    cases hp : parseInstanceWatch D w with
    | none => simp only [hf, hp] at hentries; cases hentries
    | some i =>
      simp only [hf, hp] at hentries
      rw [Py.bind_ok (Py.modify_apply _ _),
        Py.bind_ok (unmonitorAndTerminate_accepted hacc (s := s.unregister D i) hw)] at hentries
      have hs := (stopped_teardown hnd hp).of_clears (clears_ite_stopApiServer hentries)
      exact ⟨w, rfl, hs.not_mem_reload, hs.2⟩

/-- Stopping the instance of `guestbook_default_v1` on port 8080. -/
theorem stopAppInstance_returns_v1On8080 :
    ∃ s', stopAppInstance specDeployment Ext.ok [] "guestbook_default_v1".toList 8080 v1On8080 =
        .ok () s' ∧ Ext.ok.AcceptsUnmonitor ∧ v1On8080.runningInstances.Nodup ∧
      ∃ w, v1On8080.monit.watches.find? (instanceKeyMatch specDeployment "guestbook_default_v1".toList 8080) =
          some w ∧ w ∉ s'.monit.watches ∧
        ∃ i, parseInstanceWatch specDeployment w = some i ∧ i ∉ s'.runningInstances ∧
          s'.registry.get (i.versionKey specDeployment) (instanceEntry specDeployment i) = none := by
  obtain ⟨s', h⟩ : ∃ s', stopAppInstance specDeployment Ext.ok [] "guestbook_default_v1".toList 8080
      v1On8080 = .ok () s' := ⟨_, rfl⟩
  have hacc : Ext.ok.AcceptsUnmonitor := fun _ _ => rfl
  have hnd : v1On8080.runningInstances.Nodup := by decide
  exact ⟨s', h, hacc, hnd, stopAppInstance_returns hacc hnd h⟩

end AppManager
