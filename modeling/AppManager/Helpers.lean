import AppManager.Node

namespace AppManager

/-!
# AppManager — the synchronous helpers

The functions the handlers call without yielding, each with the lemma that says what
it does:

* `Node.register` / `Node.unregister` — `register_instance` / `unregister_instance` on the
  registry child `instanceEntry` and on `running_instances`; `registerInstance` raises
  `NoNodeError` when the version node is missing;
* `unmonitor` — the POST with its five retries on 503, and `unmonitorAndTerminate`,
  which swallows `ProcessNotFound` and otherwise removes the configuration;
* `nextApiServerPort`, `ensureApiServer`, `stopApiServer` — the API-server pool.
-/

variable (D : Deployment)

/-- The registry child of an instance: `':'.join([options.private_ip, str(instance.port)])`. -/
def instanceEntry (i : Instance) : Str := D.privateIp ++ ':' :: pyStr i.port

/-- The registry child of an instance names this machine and the instance's port. -/
theorem split_instanceEntry (i : Instance) :
    split ':' (instanceEntry D i) = [D.privateIp, pyStr i.port] := by
  rw [instanceEntry, split_append_cons, split_of_not_mem D.privateIp_no_colon,
    split_of_not_mem (not_mem_pyStr_int (d := ':') rfl (by decide) _)]
  rfl

/-- Instances of one version have one registry child exactly when they share the port. -/
theorem instanceEntry_inj {i j : Instance} (h : instanceEntry D i = instanceEntry D j) :
    i.port = j.port := by
  have := congrArg (fun e => pyInt ((split ':' e).getLastD [])) h
  simpa [split_instanceEntry, pyInt_pyStr] using this

namespace Node

/-- `register_instance` once its version node exists: create (or set) the child with the
    revision id, and add the instance to `running_instances`. -/
def register (s : Node) (i : Instance) : Node :=
  { s with registry := s.registry.put (i.versionKey D) (instanceEntry D i) (i.revision D),
           runningInstances := s.runningInstances.insert i }

/-- `unregister_instance`: delete the child (a missing one is ignored) and remove the
    instance from `running_instances` (a missing one is logged). -/
def unregister (s : Node) (i : Instance) : Node :=
  { s with registry := s.registry.delete (i.versionKey D) (instanceEntry D i),
           runningInstances := s.runningInstances.erase i }

@[simp] theorem monit_register (s : Node) (i : Instance) : (s.register D i).monit = s.monit := rfl
@[simp] theorem apiServers_register (s : Node) (i : Instance) :
    (s.register D i).apiServers = s.apiServers := rfl
@[simp] theorem sources_register (s : Node) (i : Instance) : (s.register D i).sources = s.sources := rfl
@[simp] theorem monit_unregister (s : Node) (i : Instance) : (s.unregister D i).monit = s.monit := rfl
@[simp] theorem apiServers_unregister (s : Node) (i : Instance) :
    (s.unregister D i).apiServers = s.apiServers := rfl
@[simp] theorem sources_unregister (s : Node) (i : Instance) :
    (s.unregister D i).sources = s.sources := rfl

end Node

/-- `register_instance(instance)`; `create` raises `NoNodeError` under a missing version node. -/
def registerInstance (i : Instance) : Py Unit := fun s =>
  if i.versionKey D ∈ s.registry.versions then .ok () (s.register D i) else .error .noNode s

/-- One unmonitor POST, the `k`-th: Monit answers 404 for a process it does not list;
    `retry` is what a 503 leads to. -/
def unmonitorAttempt (ext : Ext) (name : Str) (k : Nat) (retry : Py Unit) : Py Unit := fun s =>
  match (if name ∈ s.monit.watches then ext.unmonitorReply name k else some 404) with
  | none => .ok () (s.withMonit (·.unmonitor name))
  | some 404 => .error (.processNotFound (name ++ " not listed by Monit".toList)) s
  | some 503 => retry s
  | some code => .error (.httpError code []) s

/-- `unmonitor(process_name, retries)`: a 503 is retried while `retries` lasts, and raised
    once it is spent. -/
def unmonitor (ext : Ext) (name : Str) : Nat → Py Unit
  | 0 => unmonitorAttempt ext name 5 (throw (.httpError 503 []))
  | r + 1 => unmonitorAttempt ext name (4 - r) (unmonitor ext name r)

/-- `unmonitor` either unmonitors the watch or raises with the node untouched. -/
theorem unmonitor_cases (ext : Ext) (name : Str) (r : Nat) (s : Node) :
    unmonitor ext name r s = .ok () (s.withMonit (·.unmonitor name)) ∨
      ∃ e, unmonitor ext name r s = .error e s := by
  induction r with
  | zero =>
    simp only [unmonitor, unmonitorAttempt]
    split <;> first | exact .inl rfl | exact .inr ⟨_, rfl⟩
  | succ r ih =>
    simp only [unmonitor, unmonitorAttempt]
    split <;> first | exact .inl rfl | exact .inr ⟨_, rfl⟩ | exact ih

/-- Monit accepts an unmonitor POST only for a process it lists. -/
theorem unmonitor_ok_listed {ext : Ext} {name : Str} {r : Nat} {s s' : Node}
    (h : unmonitor ext name r s = .ok () s') : name ∈ s.monit.watches := by
  by_contra hn
  cases r <;> simp [unmonitor, unmonitorAttempt, hn] at h

/-- `unmonitor_and_terminate(watch)`: unmonitor, and unless Monit does not know the process,
    remove its configuration.  The `stop_instance` it spawns kills the process and touches
    nothing this model holds. -/
def unmonitorAndTerminate (ext : Ext) (watch : Str) : Py Unit := fun s =>
  match unmonitor ext watch 5 s with
  | .ok _ s' => .ok () (s'.withMonit (·.removeConfiguration watch))
  | .error (.processNotFound _) s' => .ok () s'
  | .error e s' => .error e s'

/-- `unmonitor_and_terminate` tears the watch down, or leaves the node as it was (returning
    on `ProcessNotFound`, raising otherwise). -/
theorem unmonitorAndTerminate_cases (ext : Ext) (w : Str) (s : Node) :
    unmonitorAndTerminate ext w s =
        .ok () (s.withMonit fun m => (m.unmonitor w).removeConfiguration w) ∨
      unmonitorAndTerminate ext w s = .ok () s ∨ ∃ e, unmonitorAndTerminate ext w s = .error e s := by
  unfold unmonitorAndTerminate
  rcases unmonitor_cases ext w 5 s with h | ⟨e, h⟩ <;> rw [h]
  · exact .inl rfl
  · cases e <;> simp

/-- With Monit accepting every request, `unmonitor_and_terminate` returns: it tears down a
    listed watch and leaves an unlisted one alone. -/
theorem unmonitorAndTerminate_ok (w : Str) (s : Node) :
    unmonitorAndTerminate Ext.ok w s =
      .ok () (if w ∈ s.monit.watches then s.withMonit fun m => (m.unmonitor w).removeConfiguration w
        else s) := by
  by_cases h : w ∈ s.monit.watches <;>
    simp [unmonitorAndTerminate, unmonitor, unmonitorAttempt, h, Ext.ok]

/-! ### API servers -/

/-- `MAX_API_SERVER_PORT`. -/
def maxApiServerPort : Int := 19999

/-- One turn of the loop of `ensure_api_server`:
    `if port <= server_port: server_port = port - 1`. -/
def lowerBelow (serverPort : Int) (e : Str × Int) : Int := if e.2 ≤ serverPort then e.2 - 1 else serverPort

/-- A turn of the loop takes the minimum of the candidate and one below the port. -/
theorem lowerBelow_eq_min (serverPort : Int) (e : Str × Int) :
    lowerBelow serverPort e = min serverPort (e.2 - 1) := by
  unfold lowerBelow
  split <;> omega

/-- The loop of `ensure_api_server`: start at `MAX_API_SERVER_PORT` and step below every
    port in use that is not above the current candidate. -/
def nextApiServerPort (apiServers : List (Str × Int)) : Int := apiServers.foldl lowerBelow maxApiServerPort

/-- `ensure_api_server(project_id)`: the stored port, or a new API server on
    `nextApiServerPort`, configured, started (the `assert`) and recorded. -/
def ensureApiServer (ext : Ext) (projectId : Str) : Py Int := fun s =>
  match dictGet projectId s.apiServers with
  | some port => .ok port s
  | none =>
    let port := nextApiServerPort s.apiServers
    let s := s.withMonit (·.createConfig (apiServerWatch projectId port))
    if ext.monitStart (apiServerWatch projectId port) then
      .ok port { s.withMonit (·.start (apiServerWatch projectId port)) with
        apiServers := dictSet projectId port s.apiServers }
    else .error (.assertionError ("Monit was unable to start ".toList ++ apiServerPrefix ++ projectId)) s

/-- `stop_api_server(project_id)`: tear the API server's watch down, then forget the port. -/
def stopApiServer (ext : Ext) (projectId : Str) : Py Unit := fun s =>
  match dictGet projectId s.apiServers with
  | none => .ok () s
  | some port =>
    match unmonitorAndTerminate ext (apiServerWatch projectId port) s with
    | .ok _ s' => .ok () { s' with apiServers := dictDel projectId s'.apiServers }
    | .error e s' => .error e s'

/-- `ensure_api_server` changes `api_servers` only by recording a new project on
    `nextApiServerPort`. -/
theorem ensureApiServer_apiServers (ext : Ext) (P : Str) (s : Node) :
    (Py.after (ensureApiServer ext P s)).apiServers = s.apiServers ∨
      dictGet P s.apiServers = none ∧ (Py.after (ensureApiServer ext P s)).apiServers =
        dictSet P (nextApiServerPort s.apiServers) s.apiServers := by
  unfold ensureApiServer
  split
  · exact .inl rfl
  · dsimp only
    split
    · exact .inr ⟨‹_›, rfl⟩
    · exact .inl rfl

/-- `ensure_api_server` touches Monit and `api_servers` only. -/
theorem ensureApiServer_frame (ext : Ext) (P : Str) (s : Node) :
    (Py.after (ensureApiServer ext P s)).runningInstances = s.runningInstances ∧
      (Py.after (ensureApiServer ext P s)).registry = s.registry ∧
      (Py.after (ensureApiServer ext P s)).sources = s.sources := by
  unfold ensureApiServer
  split
  · exact ⟨rfl, rfl, rfl⟩
  · dsimp only
    split <;> exact ⟨rfl, rfl, rfl⟩

/-- `stop_api_server` changes `api_servers` only by forgetting the project. -/
theorem stopApiServer_apiServers (ext : Ext) (P : Str) (s : Node) :
    (Py.after (stopApiServer ext P s)).apiServers = s.apiServers ∨
      (Py.after (stopApiServer ext P s)).apiServers = dictDel P s.apiServers := by
  unfold stopApiServer
  split
  · exact .inl rfl
  · rcases unmonitorAndTerminate_cases ext (apiServerWatch P _) s with h | h | ⟨e, h⟩ <;>
      rw [h] <;> simp [Py.after]

end AppManager
