import AppManager.Text

namespace AppManager

/-!
# AppManager — instances and the names Monit knows them by

`start_app` and `ensure_api_server` name every process they hand to Monit by gluing
strings together; `recover_state`, `stop_app`, `stop_app_instance`, `clean_old_sources`
and `populate_api_servers` take those names apart again to find out what is running.

* `Deployment` — the values the code reads from outside this repository:
  `MONIT_INSTANCE_PREFIX`, `VERSION_PATH_SEPARATOR`, `options.private_ip` and
  `misc.is_app_name_valid`.
* `Instance` with `Instance.versionKey` and `Instance.revision`, as the class computes them.
* `instanceWatch` / `parseInstanceWatch` — the instance watch `start_app` starts, and how
  the other handlers read it; `apiServerWatch` / `apiServerInfo` for API servers.
* `watch_names_round_trip` — reading back a name gives exactly the revision key, port
  and project it was built from, whatever `-` the ids contain.
-/

/-- The values the instance manager takes from the rest of AppScale: constants imported
    from `appscale.common` and `appscale.admin`, and the options `main` defines. -/
structure Deployment where
  /-- `MONIT_INSTANCE_PREFIX`, the prefix of every instance watch. -/
  monitInstancePrefix : Str
  /-- `VERSION_PATH_SEPARATOR`, between project, service, version and revision ids. -/
  sep : Char
  /-- `options.private_ip`, the address of this machine. -/
  privateIp : Str
  /-- A private IP is an IPv4 address: it has no `:` (registry entries are `ip:port`). -/
  privateIp_no_colon : ':' ∉ privateIp
  /-- `misc.is_app_name_valid`. -/
  isAppNameValid : Str → Bool
  /-- `runtime_parameters['default_max_appserver_memory']`, or
      `DEFAULT_MAX_APPSERVER_MEMORY` when the deployment sets none. -/
  maxAppServerMemory : Int
  /-- `INSTANCE_CLASSES`: instance class ↦ memory in MB. -/
  instanceClasses : List (Str × Int)

/-- An AppServer instance: a revision served on a port.  Equality is on both fields,
    as in the class's `__eq__` and `__hash__`. -/
structure Instance where
  revisionKey : Str
  port : Int
deriving DecidableEq, Repr

/-- Modelled from the spec: these values are not in this repository.  The spec's scenarios
    name watches `instance_proj_default_v1_3-8080` (prefix `instance_`, separator `_`),
    call project ids "character-class constrained" (here `[a-z0-9-]+`), and map an instance
    class to 200 MB in the Java scenario. -/
def specDeployment : Deployment where
  monitInstancePrefix := "instance_".toList
  sep := '_'
  privateIp := "10.0.0.2".toList
  privateIp_no_colon := by decide
  isAppNameValid := fun p => !p.isEmpty && p.all fun c => c.isLower || c.isDigit || c == '-'
  maxAppServerMemory := 400
  instanceClasses := [("F1".toList, 200)]

variable (D : Deployment)

/-- `Instance.version_key`: the first three components of the revision key. -/
def Instance.versionKey (i : Instance) : Str := join [D.sep] ((split D.sep i.revisionKey).take 3)

/-- `Instance.revision`: the last component of the revision key. -/
def Instance.revision (i : Instance) : Str := (split D.sep i.revisionKey).getLastD []

/-! ### Instance watches -/

/-- The watch `start_app` starts: `'{}-{}'.format(MONIT_INSTANCE_PREFIX + revision_key, port)`. -/
def instanceWatch (revisionKey : Str) (port : Int) : Str :=
  D.monitInstancePrefix ++ revisionKey ++ '-' :: pyStr port

/-- How `recover_state`, `stop_app` and `stop_app_instance` read an instance watch:
    `entry[len(MONIT_INSTANCE_PREFIX):].rsplit('-', 1)`, then `int(port)`.  `none` is the
    `ValueError` either step raises. -/
def parseInstanceWatch (entry : Str) : Option Instance :=
  match rsplitOnce '-' (entry.drop D.monitInstancePrefix.length) with
  | some (revisionKey, port) => (pyInt port).map (Instance.mk revisionKey)
  | none => none

/-- The revision key `clean_old_sources` reads from an instance watch:
    `entry[len(MONIT_INSTANCE_PREFIX):].rsplit('-', 1)[0]`. -/
def watchRevision (entry : Str) : Str := rsplitHead '-' (entry.drop D.monitInstancePrefix.length)

/-! ### API-server watches -/

/-- `API_SERVER_PREFIX`. -/
def apiServerPrefix : Str := "api-server_".toList

/-- The watch `ensure_api_server` starts: `'-'.join([API_SERVER_PREFIX + project_id, str(port)])`. -/
def apiServerWatch (projectId : Str) (port : Int) : Str := apiServerPrefix ++ projectId ++ '-' :: pyStr port

/-- `api_server_info` in `populate_api_servers`: `entry.rsplit('-', 1)`, the project id
    after `API_SERVER_PREFIX`, and `int(port)`. -/
def apiServerInfo (entry : Str) : Option (Str × Int) :=
  match rsplitOnce '-' entry with
  | some (pfx, port) => (pyInt port).map fun p => (pfx.drop apiServerPrefix.length, p)
  | none => none

/-! ### Reading the names back -/

/-- The revision key `start_app` builds from a version key and a revision id. -/
def revisionKeyOf (projectId serviceId versionId revision : Str) : Str :=
  join [D.sep] [projectId, serviceId, versionId, revision]

/-- An instance of a revision key built from the three components of a version key names
    that version key back, whatever the revision id. -/
theorem versionKey_of_split {vk projectId serviceId versionId : Str}
    (h : split D.sep vk = [projectId, serviceId, versionId]) (revision : Str) (port : Int) :
    (Instance.mk (revisionKeyOf D projectId serviceId versionId revision) port).versionKey D = vk := by
  have hrk : revisionKeyOf D projectId serviceId versionId revision = vk ++ D.sep :: revision := by
    rw [← join_split D.sep vk, h]
    simp [revisionKeyOf, join, List.intercalate]
  show join [D.sep] ((split D.sep (revisionKeyOf D projectId serviceId versionId revision)).take 3) = vk
  rw [hrk, split_append_cons, h]
  show join [D.sep] [projectId, serviceId, versionId] = vk
  rw [← h, join_split]

theorem parseInstanceWatch_instanceWatch (rk : Str) (p : Nat) :
    parseInstanceWatch D (instanceWatch D rk p) = some ⟨rk, p⟩ := by
  simp [parseInstanceWatch, instanceWatch, rsplitOnce_append _ (not_mem_pyStr (d := '-') rfl),
    pyInt_pyStr]

theorem watchRevision_instanceWatch (rk : Str) (p : Nat) :
    watchRevision D (instanceWatch D rk p) = rk := by
  rw [watchRevision, instanceWatch, List.append_assoc, List.drop_left, rsplitHead,
    rsplitOnce_append _ (not_mem_pyStr (d := '-') rfl)]

theorem apiServerInfo_apiServerWatch (projectId : Str) (p : Nat) :
    apiServerInfo (apiServerWatch projectId p) = some (projectId, (p : Int)) := by
  rw [apiServerInfo, apiServerWatch, rsplitOnce_append _ (not_mem_pyStr (d := '-') rfl)]
  simp [pyInt_pyStr]

/-- Two projects whose ids do not end in `-` have different API-server watches, whatever
    their ports: the `-` of a negative port cannot shift the split between id and port. -/
theorem apiServerWatch_inj {P Q : Str} {p q : Int} (h : apiServerWatch P p = apiServerWatch Q q)
    (hP : P.getLast? ≠ some '-') (hQ : Q.getLast? ≠ some '-') : P = Q := by
  have key : ∀ {P Q a : Str} {p q : Int}, Q = P ++ a → '-' :: pyStr p = a ++ '-' :: pyStr q →
      Q.getLast? ≠ some '-' → a = [] := by
    intro P Q a p q hQa h hlast
    rcases a with _ | ⟨c, a⟩
    · rfl
    · simp only [List.cons_append, List.cons.injEq] at h
      obtain ⟨rfl, h⟩ := h
      obtain rfl := eq_nil_of_pyStr_eq h
      simp [hQa] at hlast
  simp only [apiServerWatch, List.append_assoc, List.append_cancel_left_eq] at h
  rcases List.append_eq_append_iff.1 h with ⟨a, hQa, ha⟩ | ⟨c, hPc, hc⟩
  · rw [hQa, key hQa ha hQ, List.append_nil]
  · rw [hPc, key hPc hc hP, List.append_nil]

section Components

variable {D}
variable {projectId serviceId versionId revision : Str}

theorem split_revisionKeyOf (hp : D.sep ∉ projectId) (hs : D.sep ∉ serviceId)
    (hv : D.sep ∉ versionId) (hr : D.sep ∉ revision) :
    split D.sep (revisionKeyOf D projectId serviceId versionId revision) =
      [projectId, serviceId, versionId, revision] :=
  split_join _ _ (by simp [hp, hs, hv, hr]) (by simp)

theorem versionKey_revisionKeyOf (port : Int) (hp : D.sep ∉ projectId) (hs : D.sep ∉ serviceId)
    (hv : D.sep ∉ versionId) (hr : D.sep ∉ revision) :
    (Instance.mk (revisionKeyOf D projectId serviceId versionId revision) port).versionKey D =
      join [D.sep] [projectId, serviceId, versionId] := by
  simp [Instance.versionKey, split_revisionKeyOf hp hs hv hr]

theorem revision_revisionKeyOf (port : Int) (hp : D.sep ∉ projectId) (hs : D.sep ∉ serviceId)
    (hv : D.sep ∉ versionId) (hr : D.sep ∉ revision) :
    (Instance.mk (revisionKeyOf D projectId serviceId versionId revision) port).revision D =
      revision := by
  simp [Instance.revision, split_revisionKeyOf hp hs hv hr]

end Components

/-- **Watch names read back.**  For a version key of three separator-free ids and a
    separator-free revision id, the instance watch `start_app` starts for port `p ≥ 0`
    parses back (as in `recover_state`, `stop_app` and `stop_app_instance`, and as in
    `clean_old_sources`) to exactly the revision key and port, whose `Instance` has the
    original version key and revision; `api_server_info` reads the API-server watch of
    any project id back to that id and port. -/
theorem watch_names_round_trip (projectId serviceId versionId revision : Str) (p : Nat)
    (hp : D.sep ∉ projectId) (hs : D.sep ∉ serviceId) (hv : D.sep ∉ versionId)
    (hr : D.sep ∉ revision) (apiProjectId : Str) :
    let rk := revisionKeyOf D projectId serviceId versionId revision
    parseInstanceWatch D (instanceWatch D rk p) = some ⟨rk, p⟩ ∧
      watchRevision D (instanceWatch D rk p) = rk ∧
      (Instance.mk rk p).versionKey D = join [D.sep] [projectId, serviceId, versionId] ∧
      (Instance.mk rk p).revision D = revision ∧
      apiServerInfo (apiServerWatch apiProjectId p) = some (apiProjectId, (p : Int)) :=
  ⟨parseInstanceWatch_instanceWatch D _ p, watchRevision_instanceWatch D _ p,
    versionKey_revisionKeyOf _ hp hs hv hr, revision_revisionKeyOf _ hp hs hv hr,
    apiServerInfo_apiServerWatch apiProjectId p⟩

/-- The spec's first scenario: `instance_proj_default_v1_3-8080` and `proj`'s API server. -/
theorem watch_names_round_trip_scenario :
    let rk := revisionKeyOf specDeployment "proj".toList "default".toList "v1".toList "3".toList
    parseInstanceWatch specDeployment (instanceWatch specDeployment rk 8080) = some ⟨rk, 8080⟩ ∧
      watchRevision specDeployment (instanceWatch specDeployment rk 8080) = rk ∧
      (Instance.mk rk 8080).versionKey specDeployment =
        join ['_'] ["proj".toList, "default".toList, "v1".toList] ∧
      (Instance.mk rk 8080).revision specDeployment = "3".toList ∧
      apiServerInfo (apiServerWatch "proj".toList 8080) = some ("proj".toList, 8080) :=
  watch_names_round_trip specDeployment _ _ _ _ 8080 (by decide) (by decide) (by decide)
    (by decide) _

end AppManager
