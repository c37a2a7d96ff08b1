import AppManager.Handlers

namespace AppManager

/-!
# AppManager — which watches the stop handlers select

`stop_app(version_key)` selects the watches whose name starts with
`MONIT_INSTANCE_PREFIX + version_key`; `stop_app_instance(version_key, port)` takes the
first watch matched by the regex `MONIT_INSTANCE_PREFIX + version_key + '.*-' + port`,
anchored at the start only.  Neither test stops at a component boundary:

* `mem_versionEntries` — `stop_app` selects every watch of a revision key that extends
  the version key, so stopping `v1` also stops `v10` (`stopApp_v1_stops_v10`);
* `instanceKeyMatch_extension` — the regex matches the watch of any revision key that
  extends the version key on any port whose digits extend the requested ones, so stopping
  port 80 stops the instance on 8080 (`stopAppInstance_80_stops_8080`).
-/

variable (D : Deployment)

/-- `stop_app` selects exactly the listed watches whose name starts with the prefix and the
    version key. -/
theorem mem_versionEntries {vk e : Str} {es : List Str} :
    e ∈ versionEntries D vk es ↔ e ∈ es ∧ ∃ t, e = D.monitInstancePrefix ++ vk ++ t := by
  simp [versionEntries, startswith_iff]

/-- So it selects the watch of every revision key that extends the version key. -/
theorem instanceWatch_mem_versionEntries {vk t : Str} {p : Int} {es : List Str}
    (h : instanceWatch D (vk ++ t) p ∈ es) : instanceWatch D (vk ++ t) p ∈ versionEntries D vk es :=
  (mem_versionEntries D).2 ⟨h, t ++ '-' :: pyStr p, by simp [instanceWatch]⟩

/-- Two versions of `guestbook`, `v1` on port 8080 and `v10` on 8081, both registered, and
    the project's API server. -/
def v1AndV10 : Node where
  monit :=
    { entries := [(instanceWatch specDeployment "guestbook_default_v1_1".toList 8080, .running),
        (instanceWatch specDeployment "guestbook_default_v10_1".toList 8081, .running),
        (apiServerWatch "guestbook".toList 19999, .running)]
      configs := [instanceWatch specDeployment "guestbook_default_v1_1".toList 8080,
        instanceWatch specDeployment "guestbook_default_v10_1".toList 8081,
        apiServerWatch "guestbook".toList 19999] }
  apiServers := [("guestbook".toList, 19999)]
  runningInstances := [⟨"guestbook_default_v1_1".toList, 8080⟩, ⟨"guestbook_default_v10_1".toList, 8081⟩]
  registry :=
    { versions := ["guestbook_default_v1".toList, "guestbook_default_v10".toList]
      nodes := [(("guestbook_default_v1".toList, "10.0.0.2:8080".toList), "1".toList),
        (("guestbook_default_v10".toList, "10.0.0.2:8081".toList), "1".toList)] }
  sources := ["guestbook_default_v1_1".toList, "guestbook_default_v10_1".toList]

/-- `stop_app('guestbook_default_v1')` returns normally and has torn down, unregistered and
    dropped the instance of `guestbook_default_v10`. -/
theorem stopApp_v1_stops_v10 :
    (Instance.mk "guestbook_default_v10_1".toList 8081).versionKey specDeployment =
        "guestbook_default_v10".toList ∧
      ∃ s', stopApp specDeployment Ext.ok [] "guestbook_default_v1".toList v1AndV10 = .ok () s' ∧
        instanceWatch specDeployment "guestbook_default_v10_1".toList 8081 ∉ s'.monit.watches ∧
        Instance.mk "guestbook_default_v10_1".toList 8081 ∉ s'.runningInstances ∧
        s'.registry.get "guestbook_default_v10".toList "10.0.0.2:8081".toList = none :=
  ⟨by decide, _, rfl, by decide⟩

/-! ### `stop_app_instance` -/

/-- The regex of `stop_app_instance(vk, p)` matches the watch of every revision key
    `vk + t` (with `t` free of newlines) on every port `q` whose decimal form extends that
    of `p`. -/
theorem instanceKeyMatch_extension (vk t : Str) (p q : Int) (u : Str) (ht : '\n' ∉ t)
    (hq : pyStr q = pyStr p ++ u) : instanceKeyMatch D vk p (instanceWatch D (vk ++ t) q) = true := by
  have hdrop : (instanceWatch D (vk ++ t) q).drop (D.monitInstancePrefix ++ vk).length =
      t ++ ('-' :: pyStr p) ++ u := by
    simp [instanceWatch, hq]
  rw [instanceKeyMatch, hdrop, anyThen_append _ _ ht, Bool.and_true, instanceWatch,
    ← List.append_assoc, List.append_assoc (D.monitInstancePrefix ++ vk)]
  exact startswith_append _ _

/-- One instance of `guestbook_default_v1`, on port 8080, and the project's API server. -/
def v1On8080 : Node where
  monit :=
    { entries := [(instanceWatch specDeployment "guestbook_default_v1_1".toList 8080, .running),
        (apiServerWatch "guestbook".toList 19999, .running)]
      configs := [instanceWatch specDeployment "guestbook_default_v1_1".toList 8080,
        apiServerWatch "guestbook".toList 19999] }
  apiServers := [("guestbook".toList, 19999)]
  runningInstances := [⟨"guestbook_default_v1_1".toList, 8080⟩]
  registry :=
    { versions := ["guestbook_default_v1".toList]
      nodes := [(("guestbook_default_v1".toList, "10.0.0.2:8080".toList), "1".toList)] }
  sources := ["guestbook_default_v1_1".toList]

/-- `stop_app_instance('guestbook_default_v1', 80)` on a node with no instance on port 80
    does not raise: it tears down, unregisters and drops the instance on port 8080, and
    with it the project's API server. -/
theorem stopAppInstance_80_stops_8080 :
    (v1On8080.monit.watches.filterMap (parseInstanceWatch specDeployment)).all (·.port ≠ 80) ∧
      ∃ s', stopAppInstance specDeployment Ext.ok [] "guestbook_default_v1".toList 80 v1On8080 =
          .ok () s' ∧
        instanceWatch specDeployment "guestbook_default_v1_1".toList 8080 ∉ s'.monit.watches ∧
        Instance.mk "guestbook_default_v1_1".toList 8080 ∉ s'.runningInstances ∧
        s'.registry.get "guestbook_default_v1".toList "10.0.0.2:8080".toList = none ∧
        s'.apiServers = [] :=
  ⟨by decide, _, rfl, by decide⟩

end AppManager
