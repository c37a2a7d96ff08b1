import AppManager.Handlers

namespace AppManager

/-!
# AppManager — one API server per project with instances (I3)

The spec's invariant I3: a project has an entry in `api_servers`, and its API-server
watch exists, exactly when Monit holds an instance watch of that project.  `stop_app`
and `stop_app_instance` maintain the "only if" half by stopping the API server when no
watch of the project remains, but they look for remaining watches with
`entry.startswith(MONIT_INSTANCE_PREFIX + project_id)`, which also matches every project
whose id extends `project_id`:

* `ApiServerInvariant` — I3 as a structure of its two halves;
* `stopApp_keeps_api_server_of_extended_project` — with `guestbook` and `guestbook2` on
  the node, stopping the only version of `guestbook` leaves its API server behind.
-/

variable (D : Deployment)

/-- The project of an instance watch: the first component of its parsed revision key. -/
def watchProject (w : Str) : Str := (split D.sep (watchRevision D w)).headD []

/-- The projects with an instance watch on this node. -/
def instanceProjects (s : Node) : List Str :=
  (s.monit.watches.filter (startswith · D.monitInstancePrefix)).map (watchProject D)

/-- I3: a project has an API server, whose watch Monit lists, exactly when it has an
    instance watch. -/
structure ApiServerInvariant (s : Node) : Prop where
  iff_instance : ∀ P, (dictGet P s.apiServers).isSome ↔ P ∈ instanceProjects D s
  watch : ∀ P port, dictGet P s.apiServers = some port → apiServerWatch P port ∈ s.monit.watches

/-- A project with an API server and no instance watch breaks I3. -/
theorem not_apiServerInvariant_of_orphan {s : Node} {P : Str} {port : Int}
    (h : dictGet P s.apiServers = some port) (hP : P ∉ instanceProjects D s) :
    ¬ ApiServerInvariant D s :=
  fun hi => hP ((hi.iff_instance P).1 (by simp [h]))

/-- `guestbook` and `guestbook2`, one instance each, each with its API server. -/
def twoProjects : Node where
  monit :=
    { entries := [(instanceWatch specDeployment "guestbook_default_v1_1".toList 8080, .running),
        (instanceWatch specDeployment "guestbook2_default_v1_1".toList 8081, .running),
        (apiServerWatch "guestbook".toList 19999, .running),
        (apiServerWatch "guestbook2".toList 19998, .running)]
      configs := [instanceWatch specDeployment "guestbook_default_v1_1".toList 8080,
        instanceWatch specDeployment "guestbook2_default_v1_1".toList 8081,
        apiServerWatch "guestbook".toList 19999, apiServerWatch "guestbook2".toList 19998] }
  apiServers := [("guestbook".toList, 19999), ("guestbook2".toList, 19998)]
  runningInstances := [⟨"guestbook_default_v1_1".toList, 8080⟩, ⟨"guestbook2_default_v1_1".toList, 8081⟩]
  registry :=
    { versions := ["guestbook_default_v1".toList, "guestbook2_default_v1".toList]
      nodes := [(("guestbook_default_v1".toList, "10.0.0.2:8080".toList), "1".toList),
        (("guestbook2_default_v1".toList, "10.0.0.2:8081".toList), "1".toList)] }
  sources := ["guestbook_default_v1_1".toList, "guestbook2_default_v1_1".toList]

theorem apiServerInvariant_twoProjects : ApiServerInvariant specDeployment twoProjects where
  iff_instance P := by
    rw [dictGet_isSome_iff, show instanceProjects specDeployment twoProjects =
      ["guestbook".toList, "guestbook2".toList] by decide]
    rfl
  watch P port h := by
    simp only [twoProjects, dictGet] at h
    split_ifs at h <;> cases h <;> subst_vars <;> decide

/-- **I3 broken by `stop_app`.**  From a state satisfying I3, `stop_app('guestbook_default_v1')`
    returns normally and leaves `guestbook` with an API server and no instance watch: the
    watch of `guestbook2` counted as one of `guestbook`'s. -/
theorem stopApp_keeps_api_server_of_extended_project :
    ApiServerInvariant specDeployment twoProjects ∧
      ∃ s', stopApp specDeployment Ext.ok [] "guestbook_default_v1".toList twoProjects = .ok () s' ∧
        dictGet "guestbook".toList s'.apiServers = some 19999 ∧
        "guestbook".toList ∉ instanceProjects specDeployment s' ∧
        ¬ ApiServerInvariant specDeployment s' := by
  refine ⟨apiServerInvariant_twoProjects,
    Py.after (stopApp specDeployment Ext.ok [] "guestbook_default_v1".toList twoProjects), rfl, ?_⟩
  have h : dictGet "guestbook".toList (Py.after (stopApp specDeployment Ext.ok []
      "guestbook_default_v1".toList twoProjects)).apiServers = some 19999 ∧ "guestbook".toList ∉
        instanceProjects specDeployment (Py.after (stopApp specDeployment Ext.ok []
          "guestbook_default_v1".toList twoProjects)) := by decide
  exact ⟨h.1, h.2, not_apiServerInvariant_of_orphan _ h.1 h.2⟩

end AppManager
