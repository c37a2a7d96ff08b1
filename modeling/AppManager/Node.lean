import AppManager.Watch

namespace AppManager

/-!
# AppManager — the node's state and the services the handlers call

The instance manager keeps two module globals, `api_servers` and `running_instances`,
and drives three outside services: Monit (the process supervisor), ZooKeeper (the
registry of instances under `VERSION_REGISTRATION_NODE`) and the source manager (the
revision sources on disk).  `Node` puts all five together; a handler is a computation in
`Py = EStateM Err Node`, which keeps the state reached when an exception is raised, as
Python does.

* `Monit` — the watches `get_entries` lists and the configuration files; `reload` drops
  the watches whose configuration was removed.
* `Registry` — the version nodes and their `ip:port` children with their payloads.
* `Ext` — what Monit answers to `start` and to unmonitor POSTs.
* `registerInstance`, `unregisterInstance`, `unmonitor`, `unmonitorAndTerminate` — the
  synchronous helpers, each with the lemma saying what it does to the state.
-/

/-- Monit's state of a watch (`MonitStates`); the code only tests for `UNMONITORED`. -/
inductive MonitState
  | running
  | unmonitored
  | pending
  | stopped
deriving DecidableEq, Repr

/-- Monit as the instance manager sees it. -/
structure Monit where
  /-- `get_entries()`: the watches Monit lists, with their states, in listing order. -/
  entries : List (Str × MonitState)
  /-- The configuration files, by the name of the process they describe. -/
  configs : List Str
deriving DecidableEq, Repr

namespace Monit

/-- The watch names `get_entries` returns (the keys of its dictionary). -/
def watches (m : Monit) : List Str := m.entries.map Prod.fst

/-- `create_config_file(watch, …, port)`: a configuration for the process `watch-port`. -/
def createConfig (m : Monit) (name : Str) : Monit := { m with configs := m.configs.insert name }

/-- A successful `monit_interface.start(name)`: Monit lists the process as running. -/
def start (m : Monit) (name : Str) : Monit := { m with entries := dictSet name .running m.entries }

/-- An accepted unmonitor POST: the watch stays listed, unmonitored. -/
def unmonitor (m : Monit) (name : Str) : Monit :=
  { m with entries := dictSet name .unmonitored m.entries }

/-- `remove_configuration(name)`. -/
def removeConfiguration (m : Monit) (name : Str) : Monit :=
  { m with configs := m.configs.filter (· ≠ name) }

/-- `reload()`: Monit rereads its configuration and forgets the watches whose file is gone. -/
def reload (m : Monit) : Monit := { m with entries := m.entries.filter (·.1 ∈ m.configs) }

@[simp] theorem mem_watches_start (m : Monit) (name w : Str) :
    w ∈ (m.start name).watches ↔ w = name ∨ w ∈ m.watches := mem_keys_dictSet _ _ _ _

@[simp] theorem mem_watches_unmonitor (m : Monit) (name w : Str) :
    w ∈ (m.unmonitor name).watches ↔ w = name ∨ w ∈ m.watches := mem_keys_dictSet _ _ _ _

@[simp] theorem mem_watches_reload (m : Monit) (w : Str) :
    w ∈ m.reload.watches ↔ w ∈ m.watches ∧ w ∈ m.configs := by
  simp only [watches, reload, List.mem_map, List.mem_filter, decide_eq_true_eq]
  constructor
  · rintro ⟨e, ⟨he, hc⟩, rfl⟩
    exact ⟨⟨e, he, rfl⟩, hc⟩
  · rintro ⟨⟨e, he, rfl⟩, hc⟩
    exact ⟨e, ⟨he, hc⟩, rfl⟩

@[simp] theorem watches_createConfig (m : Monit) (name : Str) :
    (m.createConfig name).watches = m.watches := rfl
@[simp] theorem watches_removeConfiguration (m : Monit) (name : Str) :
    (m.removeConfiguration name).watches = m.watches := rfl
@[simp] theorem configs_start (m : Monit) (name : Str) : (m.start name).configs = m.configs := rfl
@[simp] theorem configs_unmonitor (m : Monit) (name : Str) :
    (m.unmonitor name).configs = m.configs := rfl
@[simp] theorem configs_reload (m : Monit) : m.reload.configs = m.configs := rfl
@[simp] theorem configs_createConfig (m : Monit) (name : Str) :
    (m.createConfig name).configs = m.configs.insert name := rfl
@[simp] theorem configs_removeConfiguration (m : Monit) (name : Str) :
    (m.removeConfiguration name).configs = m.configs.filter (· ≠ name) := rfl

end Monit

/-- The registry below `VERSION_REGISTRATION_NODE`: its version nodes, and their
    `ip:port` children with the revision id each carries. -/
structure Registry where
  versions : List Str
  nodes : List ((Str × Str) × Str)
deriving DecidableEq, Repr

namespace Registry

/-- The payload of the child `entry` of the version node `version`, if it exists. -/
def get (r : Registry) (version entry : Str) : Option Str := dictGet (version, entry) r.nodes

/-- `ensure_path(VERSION_REGISTRATION_NODE/version)`. -/
def ensurePath (r : Registry) (version : Str) : Registry :=
  { r with versions := r.versions.insert version }

/-- `delete(VERSION_REGISTRATION_NODE/version/entry)`; a missing node is left alone. -/
def delete (r : Registry) (version entry : Str) : Registry :=
  { r with nodes := dictDel (version, entry) r.nodes }

/-- `create` of the child, or `set` when it exists (`NodeExistsError`). -/
def put (r : Registry) (version entry payload : Str) : Registry :=
  { r with nodes := dictSet (version, entry) payload r.nodes }

@[simp] theorem get_delete (r : Registry) (v e v' e' : Str) :
    (r.delete v e).get v' e' = if (v', e') = (v, e) then none else r.get v' e' :=
  dictGet_dictDel _ _ _

@[simp] theorem get_put (r : Registry) (v e x v' e' : Str) :
    (r.put v e x).get v' e' = if (v', e') = (v, e) then some x else r.get v' e' :=
  dictGet_dictSet _ _ _ _

@[simp] theorem get_ensurePath (r : Registry) (v v' e' : Str) :
    (r.ensurePath v).get v' e' = r.get v' e' := rfl

@[simp] theorem versions_delete (r : Registry) (v e : Str) :
    (r.delete v e).versions = r.versions := rfl
@[simp] theorem versions_put (r : Registry) (v e x : Str) : (r.put v e x).versions = r.versions := rfl
@[simp] theorem versions_ensurePath (r : Registry) (v : Str) :
    (r.ensurePath v).versions = r.versions.insert v := rfl

end Registry

/-- An exception a handler raises. -/
inductive Err
  /-- `BadConfigurationException`. -/
  | badConfiguration (message : Str)
  /-- `tornado.httpclient.HTTPError`, from a refused request or raised by the handler. -/
  | httpError (code : Nat) (message : Str)
  /-- `ProcessNotFound`, raised by `unmonitor` on a 404. -/
  | processNotFound (message : Str)
  /-- `ValueError`: a failed unpacking or `int()`. -/
  | valueError
  /-- `AssertionError` of a failed `monit_interface.start`. -/
  | assertionError (message : Str)
  /-- `NoNodeError` of a `create` under a missing version node. -/
  | noNode
  /-- A failure of `source_manager.ensure_source`. -/
  | sourceError
  /-- `IndexError`: an index past the end of a list. -/
  | indexError
  /-- `StopIteration` of a `next` on an exhausted generator. -/
  | stopIteration
  /-- `RuntimeError`, raised by a set iterator whose set changed size. -/
  | runtimeError (message : Str)
  /-- `TypeError`: `in` or `[]` on a value of the wrong type. -/
  | typeError
  /-- `KeyError`: a missing key of a dict. -/
  | keyError
deriving DecidableEq, Repr

/-- The node: Monit, the two module globals, the registry and the sources on disk. -/
structure Node where
  monit : Monit
  /-- `api_servers`: project id ↦ API-server port, in insertion order. -/
  apiServers : List (Str × Int)
  /-- `running_instances`. -/
  runningInstances : List Instance
  registry : Registry
  /-- The revision keys whose source is unpacked under `UNPACK_ROOT`. -/
  sources : List Str
deriving DecidableEq, Repr

/-- A handler's code between two suspension points: Python semantics, where a raised
    exception leaves the effects made before it in place. -/
abbrev Py := EStateM Err Node

namespace Py

/-- The node a handler leaves, whether it returned or raised. -/
def after {α : Type} : EStateM.Result Err Node α → Node
  | .ok _ s => s
  | .error _ s => s

/-- Whether a handler returned without raising. -/
def returned {α : Type} : EStateM.Result Err Node α → Bool
  | .ok _ _ => true
  | .error _ _ => false

/-- The exception a handler raised, if it raised one. -/
def raised {α : Type} : EStateM.Result Err Node α → Option Err
  | .ok _ _ => none
  | .error e _ => some e

/-- A bind whose first part returns runs the rest on the node it left. -/
theorem bind_ok {α β : Type} {x : Py α} {f : α → Py β} {s s' : Node} {a : α} (h : x s = .ok a s') :
    (x >>= f) s = f a s' := by
  show EStateM.bind x f s = _
  simp only [EStateM.bind, h]

/-- A bind whose first part raises raises the same exception, on the node it left. -/
theorem bind_error {α β : Type} {x : Py α} {f : α → Py β} {s s' : Node} {e : Err}
    (h : x s = .error e s') : (x >>= f) s = .error e s' := by
  show EStateM.bind x f s = _
  simp only [EStateM.bind, h]

/-- A bind that returns ran its first part to a return. -/
theorem bind_eq_ok {α β : Type} {x : Py α} {f : α → Py β} {s s'' : Node} {b : β}
    (h : (x >>= f) s = .ok b s'') : ∃ a s', x s = .ok a s' ∧ f a s' = .ok b s'' := by
  cases hx : x s with
  | ok a s' => exact ⟨a, s', rfl, by rwa [bind_ok hx] at h⟩
  | error e s' => rw [bind_error hx] at h; cases h

theorem get_apply (s : Node) : (get : Py Node) s = .ok s s := rfl

theorem modify_apply (f : Node → Node) (s : Node) : (modify f : Py Unit) s = .ok () (f s) := rfl

end Py

/-- What Monit answers to the synchronous calls. -/
structure Ext where
  /-- Whether `monit_interface.start(name)` succeeds. -/
  monitStart : Str → Bool
  /-- The status of Monit's reply to the `k`-th unmonitor POST for a process it lists
      (`none` when the POST is accepted). -/
  unmonitorReply : Str → Nat → Option Nat

/-- Monit accepting every request. -/
def Ext.ok : Ext := ⟨fun _ => true, fun _ _ => none⟩

namespace Node

/-- Replace Monit. -/
def withMonit (s : Node) (f : Monit → Monit) : Node := { s with monit := f s.monit }

@[simp] theorem withMonit_withMonit (s : Node) (f g : Monit → Monit) :
    (s.withMonit f).withMonit g = s.withMonit (fun m => g (f m)) := rfl
@[simp] theorem monit_withMonit (s : Node) (f : Monit → Monit) : (s.withMonit f).monit = f s.monit := rfl
@[simp] theorem apiServers_withMonit (s : Node) (f : Monit → Monit) :
    (s.withMonit f).apiServers = s.apiServers := rfl
@[simp] theorem runningInstances_withMonit (s : Node) (f : Monit → Monit) :
    (s.withMonit f).runningInstances = s.runningInstances := rfl
@[simp] theorem registry_withMonit (s : Node) (f : Monit → Monit) :
    (s.withMonit f).registry = s.registry := rfl
@[simp] theorem sources_withMonit (s : Node) (f : Monit → Monit) :
    (s.withMonit f).sources = s.sources := rfl

end Node

end AppManager
