import AppManager.Helpers

namespace AppManager

/-!
# AppManager — the request handlers, between their suspension points

Each coroutine of the instance manager runs without interruption from one `yield` on an
unfinished future to the next.  This file cuts every handler at those points, so that
the same code serves the sequential runs here and the interleaved runs of
`AppManager.Tasks`:

* `start_app` — `startAppBegin` up to `yield source_manager.ensure_source(…)` (it has
  already run `ensure_api_server`), `fetchSource` for the source manager, and
  `startAppFinish` after it, which starts the watch, and the `add_routing` it then spawns
  for `StartLocals.instance`, which registers it once the probe reports ready (`addRouting`);
  `startAppBegin_spec` and `startAppFinish_cases` say what each segment can do;
* `stop_app` / `stop_app_instance` — `stopAppBegin` before `yield get_entries()`,
  `stopAppEntries` / `stopAppInstanceEntries` on the entries it returns, then the
  `yield reload()` and the `yield clean_old_sources()`, whose body after its own
  `get_entries` is `cleanOldSources`;
* `populateApiServers` — `populate_api_servers` after its `get_entries`;
* `startApp`, `stopApp`, `stopAppInstance` — each handler run to its end with nothing in
  between, every awaited call completing at once.
-/

/-- The fields of a version's `version_details` that `start_app` and `clean_old_sources`
    read. -/
structure VersionDetails where
  runtime : Str
  /-- `str(version_details['revision'])`. -/
  revision : Str
  /-- `version_details['deployment']['zip']['sourceUrl']`. -/
  sourceUrl : Str
  /-- `version_details.get('instanceClass')`. -/
  instanceClass : Option Str
deriving DecidableEq, Repr

/-- The projects model: `projects_manager[project_id][service_id][version_id]`. -/
abbrev Projects := List ((Str × Str × Str) × VersionDetails)

/-- The JSON body of `POST /versions/{version_key}`; `none` is a missing (or null) key. -/
structure StartConfig where
  appPort : Option Int
  loginServer : Option Str
deriving DecidableEq, Repr

/-- What `start_app` holds across its `yield` on `ensure_source`. -/
structure StartLocals where
  versionKey : Str
  projectId : Str
  revisionKey : Str
  runtime : Str
  maxMemory : Int
  appPort : Int
deriving DecidableEq, Repr

variable (D : Deployment)

/-- The project id `stop_app` and `stop_app_instance` read: `version_key.split(sep)[0]`. -/
def projectOf (versionKey : Str) : Str := (split D.sep versionKey).headD []

/-! ### `start_app` -/

/-- `start_app` up to its `yield` on `ensure_source`: the checks, the version lookup, the
    revision key, and `ensure_api_server`. -/
def startAppBegin (ext : Ext) (projects : Projects) (versionKey : Str) (config : StartConfig) :
    Py StartLocals := do
  let some appPort := config.appPort | throw (.badConfiguration "app_port is required".toList)
  let some loginServer := config.loginServer |
    throw (.badConfiguration "login_server is required".toList)
  if loginServer.isEmpty then throw (.badConfiguration "login_server is required".toList)
  let [projectId, serviceId, versionId] := split D.sep versionKey | throw .valueError
  if !D.isAppNameValid projectId then
    throw (.badConfiguration ("Invalid project ID: ".toList ++ projectId))
  let some details := dictGet (projectId, serviceId, versionId) projects |
    throw (.badConfiguration "Version not found".toList)
  let maxMemory := match details.instanceClass with
    | some c => (dictGet c D.instanceClasses).getD D.maxAppServerMemory
    | none => D.maxAppServerMemory
  let revisionKey := revisionKeyOf D projectId serviceId versionId details.revision
  let _apiServerPort ← ensureApiServer ext projectId
  pure ⟨versionKey, projectId, revisionKey, details.runtime, maxMemory, appPort⟩

/-- `source_manager.ensure_source(revision_key, …)` completing: the source is on disk, or
    the fetch failed and the exception reaches `start_app` at its `yield`. -/
def fetchSource (ok : Bool) (revisionKey : Str) : Py Unit :=
  if ok then modify fun s => { s with sources := s.sources.insert revisionKey }
  else throw .sourceError

theorem fetchSource_true (revisionKey : Str) (s : Node) :
    fetchSource true revisionKey s = .ok () { s with sources := s.sources.insert revisionKey } := rfl

theorem fetchSource_false (revisionKey : Str) (s : Node) :
    fetchSource false revisionKey s = .error .sourceError s := rfl

/-- The instance `start_app` hands to the `add_routing` it spawns:
    `Instance(revision_key, config['app_port'])`. -/
def StartLocals.instance (l : StartLocals) : Instance := ⟨l.revisionKey, l.appPort⟩

/-- `start_app` after `ensure_source`, up to the `spawn_callback` of `add_routing`: the
    runtime checks, the Monit configuration, the `assert` on `monit_interface.start`, and the
    version node. -/
def startAppFinish (ext : Ext) (l : StartLocals) : Py Unit := do
  if l.runtime ∈ ["python27".toList, "go".toList, "php".toList] then pure ()
  else if l.runtime = "java".toList then
    if l.maxMemory - 250 ≤ 0 then
      throw (.badConfiguration "Memory for Java applications must be greater than 250MB".toList)
  else throw (.badConfiguration ("Unknown runtime ".toList ++ l.runtime ++ " for ".toList ++ l.projectId))
  let name := instanceWatch D l.revisionKey l.appPort
  modify (·.withMonit (·.createConfig name))
  if !ext.monitStart name then
    throw (.assertionError ("Monit was unable to start ".toList ++ l.projectId ++ ':' :: pyStr l.appPort))
  modify fun s => { s.withMonit (·.start name) with registry := s.registry.ensurePath l.versionKey }

/-- **What `start_app` does before its first `yield`.**  It raises with the node as it was,
    or raises or returns on the node `ensure_api_server` of the version key's project left;
    what it returns names the version key, and so does the instance it will start. -/
theorem startAppBegin_spec (ext : Ext) (projects : Projects) (vk : Str) (config : StartConfig) (s : Node) :
    (∃ e, startAppBegin D ext projects vk config s = .error e s) ∨
    (∃ e, startAppBegin D ext projects vk config s =
      .error e (Py.after (ensureApiServer ext (projectOf D vk) s))) ∨
    ∃ l, startAppBegin D ext projects vk config s =
      .ok l (Py.after (ensureApiServer ext (projectOf D vk) s)) ∧
        l.versionKey = vk ∧ l.instance.versionKey D = vk := by
  obtain ⟨_ | appPort, _ | loginServer⟩ := config <;> try exact .inl ⟨_, rfl⟩
  unfold startAppBegin
  dsimp only
  split
  · exact .inl ⟨_, rfl⟩
  rcases hsp : split D.sep vk with _ | ⟨a, _ | ⟨b, _ | ⟨c, _ | ⟨d, rest⟩⟩⟩⟩ <;>
    try exact .inl ⟨_, rfl⟩
  dsimp only
  split
  · exact .inl ⟨_, rfl⟩
  cases hd : dictGet (a, b, c) projects with
  | none => exact .inl ⟨_, rfl⟩
  | some details =>
    have hP : projectOf D vk = a := by simp [projectOf, hsp]
    rw [hP]
    cases h : ensureApiServer ext a s with
    | ok p s₁ =>
      exact .inr (.inr ⟨_, show (ensureApiServer ext a >>= fun _ => pure _) s = _ from
        (Py.bind_ok h).trans rfl, rfl, versionKey_of_split D hsp _ _⟩)
    | error e s₁ =>
      refine .inr (.inl ⟨e, ?_⟩)
      show (ensureApiServer ext a >>= fun _ => pure _) s = _
      rw [Py.bind_error h]
      rfl

/-- What `start_app` has checked once it reaches `ensure_api_server`: the project id is
    valid; when it returns, `ensure_api_server` returned, and the locals carry the request's
    `app_port` and the revision key of the version's current revision in `projects`. -/
theorem startAppBegin_validates (ext : Ext) (projects : Projects) (vk : Str) (config : StartConfig)
    (s : Node) :
    (∃ e, startAppBegin D ext projects vk config s = .error e s) ∨
    D.isAppNameValid (projectOf D vk) = true ∧
      ((∃ e, startAppBegin D ext projects vk config s =
        .error e (Py.after (ensureApiServer ext (projectOf D vk) s))) ∨
      ∃ l, startAppBegin D ext projects vk config s =
        .ok l (Py.after (ensureApiServer ext (projectOf D vk) s)) ∧
        (∃ port, ensureApiServer ext (projectOf D vk) s =
          .ok port (Py.after (ensureApiServer ext (projectOf D vk) s))) ∧ config.appPort = some l.appPort ∧
        ∃ a b c details, split D.sep vk = [a, b, c] ∧ dictGet (a, b, c) projects = some details ∧
          l.revisionKey = revisionKeyOf D a b c details.revision) := by
  obtain ⟨_ | appPort, _ | loginServer⟩ := config <;> try exact .inl ⟨_, rfl⟩
  unfold startAppBegin
  dsimp only
  split
  · exact .inl ⟨_, rfl⟩
  rcases hsp : split D.sep vk with _ | ⟨a, _ | ⟨b, _ | ⟨c, _ | ⟨d, rest⟩⟩⟩⟩ <;>
    try exact .inl ⟨_, rfl⟩
  dsimp only
  split
  · exact .inl ⟨_, rfl⟩
  rename_i hvalid
  have hP : projectOf D vk = a := by simp [projectOf, hsp]
  cases hd : dictGet (a, b, c) projects with
  | none => exact .inl ⟨_, rfl⟩
  | some details =>
    refine .inr ⟨by simpa [hP] using hvalid, ?_⟩
    rw [hP]
    cases h : ensureApiServer ext a s with
    | ok p s₁ =>
      exact .inr ⟨_, show (ensureApiServer ext a >>= fun _ => pure _) s = _ from
        (Py.bind_ok h).trans rfl, ⟨p, rfl⟩, rfl, a, b, c, _, rfl, hd, rfl⟩
    | error e s₁ =>
      refine .inl ⟨e, ?_⟩
      show (ensureApiServer ext a >>= fun _ => pure _) s = _
      rw [Py.bind_error h]
      rfl

/-- **What `start_app` does after `ensure_source`.**  It raises on the node as it was (an
    unknown runtime, too little memory for Java), raises once the instance's configuration
    is written (Monit did not start the watch), or returns with the watch started and the
    version node ensured. -/
theorem startAppFinish_cases (ext : Ext) (l : StartLocals) (s : Node) :
    (∃ e, startAppFinish D ext l s = .error e s) ∨
    (∃ e, startAppFinish D ext l s =
      .error e (s.withMonit (·.createConfig (instanceWatch D l.revisionKey l.appPort)))) ∨
    startAppFinish D ext l s = .ok ()
      { s.withMonit (fun m => (m.createConfig (instanceWatch D l.revisionKey l.appPort)).start
          (instanceWatch D l.revisionKey l.appPort)) with
        registry := s.registry.ensurePath l.versionKey } := by
  unfold startAppFinish
  dsimp only
  by_cases h₁ : l.runtime ∈ ["python27".toList, "go".toList, "php".toList]
  · rw [if_pos h₁]
    cases ext.monitStart (instanceWatch D l.revisionKey l.appPort)
    · exact .inr (.inl ⟨_, rfl⟩)
    · exact .inr (.inr rfl)
  rw [if_neg h₁]
  by_cases h₂ : l.runtime = "java".toList
  · rw [if_pos h₂]
    by_cases h₃ : l.maxMemory - 250 ≤ 0
    · rw [if_pos h₃]
      exact .inl ⟨_, rfl⟩
    rw [if_neg h₃]
    cases ext.monitStart (instanceWatch D l.revisionKey l.appPort)
    · exact .inr (.inl ⟨_, rfl⟩)
    · exact .inr (.inr rfl)
  rw [if_neg h₂]
  exact .inl ⟨_, rfl⟩

/-- `add_routing(instance)` once `wait_on_app` has answered: register the instance if the
    probe reported ready, log and stop otherwise. -/
def addRouting (ready : Bool) (i : Instance) : Py Unit :=
  if ready then registerInstance D i else pure ()

/-! ### `stop_app` and `stop_app_instance` -/

/-- `stop_app` and `stop_app_instance` before their `yield` on `get_entries`. -/
def stopAppBegin (versionKey : Str) : Py Unit :=
  if !D.isAppNameValid (projectOf D versionKey) then
    throw (.badConfiguration ("Invalid project ID: ".toList ++ projectOf D versionKey))
  else pure ()

/-- The check before a stop's first `yield` raises or passes, and changes nothing. -/
theorem stopAppBegin_cases (vk : Str) (s : Node) :
    stopAppBegin D vk s = .ok () s ∨ ∃ e, stopAppBegin D vk s = .error e s := by
  unfold stopAppBegin
  split
  · exact .inr ⟨_, rfl⟩
  · exact .inl rfl

/-- The loop of `stop_app` over the selected watches: parse, unregister, tear down. -/
def stopEntries (ext : Ext) : List Str → Py Unit
  | [] => pure ()
  | entry :: entries => do
    let some i := parseInstanceWatch D entry | throw .valueError
    modify (·.unregister D i)
    unmonitorAndTerminate ext entry
    stopEntries ext entries

/-- The watches `stop_app` selects: `entry.startswith(MONIT_INSTANCE_PREFIX + version_key)`. -/
def versionEntries (versionKey : Str) (monitEntries : List Str) : List Str :=
  monitEntries.filter (startswith · (D.monitInstancePrefix ++ versionKey))

/-- `stop_app` on the entries `get_entries` returned, up to its `yield` on `reload`. -/
def stopAppEntries (ext : Ext) (versionKey : Str) (monitEntries : List Str) : Py Unit := do
  stopEntries D ext (versionEntries D versionKey monitEntries)
  let remaining := monitEntries.filter fun e =>
    startswith e (D.monitInstancePrefix ++ projectOf D versionKey) &&
      !(versionEntries D versionKey monitEntries).contains e
  if remaining.isEmpty then stopApiServer ext (projectOf D versionKey)

/-- `instance_key_re.match(entry)` for the pattern
    `'{}{}.*-{}'.format(MONIT_INSTANCE_PREFIX, version_key, port)`; the prefix and the
    version key (`[a-z0-9-_]` by the route) are literal text. -/
def instanceKeyMatch (versionKey : Str) (port : Int) (entry : Str) : Bool :=
  startswith entry (D.monitInstancePrefix ++ versionKey) &&
    anyThen ('-' :: pyStr port) (entry.drop (D.monitInstancePrefix ++ versionKey).length)

/-- `stop_app_instance` on the entries `get_entries` returned, up to its `yield` on
    `reload`: the first matching watch is torn down, or `HTTPError(500)` is raised. -/
def stopAppInstanceEntries (ext : Ext) (versionKey : Str) (port : Int) (monitEntries : List Str) :
    Py Unit := do
  let some watch := monitEntries.find? (instanceKeyMatch D versionKey port) |
    throw (.httpError 500 ("No entries exist for ".toList ++ versionKey ++ ':' :: pyStr port))
  let some i := parseInstanceWatch D watch | throw .valueError
  modify (·.unregister D i)
  unmonitorAndTerminate ext watch
  let remaining := monitEntries.filter fun e =>
    startswith e (D.monitInstancePrefix ++ projectOf D versionKey) &&
      !instanceKeyMatch D versionKey port e
  if remaining.isEmpty then stopApiServer ext (projectOf D versionKey)

/-! ### `clean_old_sources` and `populate_api_servers` -/

/-- The revision key of the current revision of every version of the projects model. -/
def currentRevisions (projects : Projects) : List Str :=
  projects.map fun v => revisionKeyOf D v.1.1 v.1.2.1 v.1.2.2 v.2.revision

/-- The `active_revisions` of `clean_old_sources`: the revision of every instance watch,
    and the current revision of every version of the projects model. -/
def activeRevisions (projects : Projects) (monitEntries : List Str) : List Str :=
  ((monitEntries.filter (startswith · D.monitInstancePrefix)).map (watchRevision D)) ++
    currentRevisions D projects

/-- `clean_old_sources` after its `get_entries`: `clean_old_revisions` deletes the source of
    every revision that is not active. -/
def cleanOldSources (projects : Projects) (monitEntries : List Str) : Py Unit :=
  modify fun s => { s with sources := s.sources.filter (· ∈ activeRevisions D projects monitEntries) }

/-- `populate_api_servers` after its `get_entries`: every API-server watch is read with
    `api_server_info` (a `ValueError` stops it before any assignment), then recorded. -/
def populateApiServers (monitEntries : List Str) : Py Unit := do
  let some serverEntries := (monitEntries.filter (startswith · apiServerPrefix)).mapM apiServerInfo |
    throw .valueError
  modify fun s => { s with apiServers := serverEntries.foldl (fun d e => dictSet e.1 e.2 d) s.apiServers }

/-! ### Handlers run alone -/

/-- `start_app` with nothing interleaved, its spawned `add_routing` included. -/
def startApp (ext : Ext) (projects : Projects) (fetchOk ready : Bool) (versionKey : Str)
    (config : StartConfig) : Py Unit := do
  let l ← startAppBegin D ext projects versionKey config
  fetchSource fetchOk l.revisionKey
  startAppFinish D ext l
  addRouting D ready l.instance

/-- `stop_app` with nothing interleaved. -/
def stopApp (ext : Ext) (projects : Projects) (versionKey : Str) : Py Unit := do
  stopAppBegin D versionKey
  stopAppEntries D ext versionKey (← get).monit.watches
  modify (·.withMonit Monit.reload)
  cleanOldSources D projects (← get).monit.watches

/-- `stop_app_instance` with nothing interleaved. -/
def stopAppInstance (ext : Ext) (projects : Projects) (versionKey : Str) (port : Int) :
    Py Unit := do
  stopAppBegin D versionKey
  stopAppInstanceEntries D ext versionKey port (← get).monit.watches
  modify (·.withMonit Monit.reload)
  cleanOldSources D projects (← get).monit.watches

end AppManager
