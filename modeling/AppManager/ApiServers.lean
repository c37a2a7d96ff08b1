import AppManager.Helpers
import Mathlib.Data.List.Nodup

namespace AppManager

/-!
# AppManager — the API-server port pool

`ensure_api_server` gives a new project the port `min(MAX_API_SERVER_PORT, min(ports) - 1)`
and `stop_api_server` frees a port without ever handing it out again, so the pool only
moves down.  This file runs the two functions on the node, call after call (`poolRun`):

* `ensureApiServer_port_closed_form` — in every iteration order of `api_servers` the loop
  computes the closed form `specApiServerPort`, below every port held; a new project gets
  it when Monit starts its server and raises `AssertionError` with `api_servers` unchanged
  otherwise (`ensureApiServer_refused_stores_nothing`); a known project keeps its port;
  and the ports stay distinct along every run (`PortsDistinct`);
* `ensureApiServer_drifts_below_1024` — two projects that take turns leaving and
  returning never hold more than two servers, yet after 18975 turns one of them holds
  port 1023, inside the instance port range;
* `poolRun_ports_bounded` — what does hold: after `m` calls of `ensure_api_server`,
  every port held is at least `MAX_API_SERVER_PORT + 1 - m` and at most
  `MAX_API_SERVER_PORT`.
-/

/-! ### The loop of `ensure_api_server` -/

theorem foldl_lowerBelow_le (l : List (Str × Int)) (sp : Int) : l.foldl lowerBelow sp ≤ sp := by
  induction l generalizing sp with
  | nil => exact le_refl sp
  | cons e l ih =>
    refine (ih _).trans ?_
    unfold lowerBelow; split <;> omega

theorem le_foldl_lowerBelow (l : List (Str × Int)) (sp b : Int) (hsp : b - 1 ≤ sp)
    (h : ∀ e ∈ l, b ≤ e.2) : b - 1 ≤ l.foldl lowerBelow sp := by
  induction l generalizing sp with
  | nil => exact hsp
  | cons e l ih =>
    refine ih _ ?_ fun e' he' => h e' (List.mem_cons_of_mem _ he')
    have := h e (List.mem_cons_self _ _)
    unfold lowerBelow; split <;> omega

/-- A new API server never gets a port above `MAX_API_SERVER_PORT`. -/
theorem nextApiServerPort_le (l : List (Str × Int)) : nextApiServerPort l ≤ maxApiServerPort :=
  foldl_lowerBelow_le l _

/-- … nor one more than a step below the lowest port in use. -/
theorem le_nextApiServerPort (l : List (Str × Int)) (b : Int) (hb : b ≤ maxApiServerPort + 1)
    (h : ∀ e ∈ l, b ≤ e.2) : b - 1 ≤ nextApiServerPort l :=
  le_foldl_lowerBelow l _ b (by omega) h

/-- A new API server's port is below every port in use. -/
theorem foldl_lowerBelow_lt {l : List (Str × Int)} {e : Str × Int} (he : e ∈ l) (sp : Int) :
    l.foldl lowerBelow sp < e.2 := by
  induction l generalizing sp with
  | nil => cases he
  | cons e' l ih =>
    rcases List.mem_cons.1 he with rfl | he
    · have h₁ := foldl_lowerBelow_le l (lowerBelow sp e)
      have h₂ : lowerBelow sp e ≤ e.2 - 1 := by rw [lowerBelow_eq_min]; omega
      simp only [List.foldl_cons]
      omega
    · exact ih he _

theorem nextApiServerPort_lt {l : List (Str × Int)} {e : Str × Int} (he : e ∈ l) :
    nextApiServerPort l < e.2 :=
  foldl_lowerBelow_lt he _

/-! ### The port of a new project, in closed form -/

/-- The port the spec gives a new project: `min(MAX_API_SERVER_PORT, min(assigned_ports) - 1)`,
    and `MAX_API_SERVER_PORT` when no port is assigned. -/
def specApiServerPort (ports : List Int) : Int :=
  match ports.min? with
  | none => maxApiServerPort
  | some m => min maxApiServerPort (m - 1)

theorem foldl_lowerBelow_min (l : List (Str × Int)) (a b : Int) :
    l.foldl lowerBelow (min a (b - 1)) = min a ((l.map Prod.snd).foldl min b - 1) := by
  induction l generalizing b with
  | nil => rfl
  | cons e l ih =>
    rw [List.foldl_cons, lowerBelow_eq_min, List.map_cons, List.foldl_cons, ← ih]
    congr 1
    omega

/-- The loop computes the closed form. -/
theorem nextApiServerPort_eq_spec (l : List (Str × Int)) :
    nextApiServerPort l = specApiServerPort (l.map Prod.snd) := by
  cases l with
  | nil => rfl
  | cons e l =>
    show l.foldl lowerBelow (lowerBelow maxApiServerPort e) =
      min maxApiServerPort ((l.map Prod.snd).foldl min e.2 - 1)
    rw [lowerBelow_eq_min, foldl_lowerBelow_min]

/-- The loop's result does not depend on the order it visits the ports in. -/
theorem foldl_lowerBelow_perm {σ l : List (Str × Int)} (h : σ.Perm l) (sp : Int) :
    σ.foldl lowerBelow sp = l.foldl lowerBelow sp :=
  h.foldl_eq' (fun x _ y _ z => by simp only [lowerBelow_eq_min]; omega) sp

/-- `ensure_api_server` of a project that has a server returns its port and changes nothing. -/
theorem ensureApiServer_of_dictGet {P : Str} {s : Node} {port : Int}
    (h : dictGet P s.apiServers = some port) (ext : Ext) : ensureApiServer ext P s = .ok port s := by
  simp [ensureApiServer, h]

/-- `ensure_api_server` of a new project stores and returns `nextApiServerPort` when Monit
    starts its server, and fails its `assert` with `api_servers` unchanged when it does not. -/
theorem ensureApiServer_of_dictGet_eq_none {P : Str} {s : Node} (h : dictGet P s.apiServers = none)
    (ext : Ext) :
    (ext.monitStart (apiServerWatch P (nextApiServerPort s.apiServers)) = true →
      ∃ s', ensureApiServer ext P s = .ok (nextApiServerPort s.apiServers) s' ∧
        s'.apiServers = dictSet P (nextApiServerPort s.apiServers) s.apiServers) ∧
    (ext.monitStart (apiServerWatch P (nextApiServerPort s.apiServers)) = false →
      ∃ s', ensureApiServer ext P s = .error (.assertionError
        ("Monit was unable to start ".toList ++ apiServerPrefix ++ P)) s' ∧
        s'.apiServers = s.apiServers) := by
  refine ⟨fun hstart => by simp [ensureApiServer, h, hstart], fun hstart => ?_⟩
  simp only [ensureApiServer, h, hstart]
  exact ⟨_, rfl, rfl⟩

/-! ### Runs of the pool -/

/-- A call on the API-server pool. -/
inductive PoolCall
  | ensure (projectId : Str)
  | stop (projectId : Str)

/-- Whether a call is to `ensure_api_server`. -/
def PoolCall.isEnsure : PoolCall → Bool
  | .ensure _ => true
  | .stop _ => false

/-- The project a call is about. -/
def PoolCall.projectId : PoolCall → Str
  | .ensure P => P
  | .stop P => P

/-- The node after a sequence of pool calls, each starting where the previous one left it,
    whether it returned or raised. -/
def poolRun (ext : Ext) : Node → List PoolCall → Node
  | s, [] => s
  | s, .ensure P :: calls => poolRun ext (Py.after (ensureApiServer ext P s)) calls
  | s, .stop P :: calls => poolRun ext (Py.after (stopApiServer ext P s)) calls

theorem poolRun_append (ext : Ext) (s : Node) (c₁ c₂ : List PoolCall) :
    poolRun ext s (c₁ ++ c₂) = poolRun ext (poolRun ext s c₁) c₂ := by
  induction c₁ generalizing s with
  | nil => rfl
  | cons c c₁ ih => cases c <;> exact ih _

/-- Along a run the projects holding a server are distinct and among those the calls name. -/
theorem poolRun_keys (ext : Ext) (Ps : List Str) (calls : List PoolCall) (s : Node)
    (hs : s.apiServers.map Prod.fst ⊆ Ps ∧ (s.apiServers.map Prod.fst).Nodup)
    (hc : ∀ c ∈ calls, c.projectId ∈ Ps) :
    (poolRun ext s calls).apiServers.map Prod.fst ⊆ Ps ∧
      ((poolRun ext s calls).apiServers.map Prod.fst).Nodup := by
  induction calls generalizing s with
  | nil => exact hs
  | cons c calls ih =>
    have hrest := fun c' (h : c' ∈ calls) => hc c' (List.mem_cons_of_mem _ h)
    have hP := hc c (List.mem_cons_self _ _)
    cases c with
    | ensure P =>
      refine ih _ ?_ hrest
      rcases ensureApiServer_apiServers ext P s with h | ⟨-, h⟩ <;> rw [h]
      · exact hs
      · refine ⟨fun k hk => ?_, nodup_keys_dictSet _ _ _ hs.2⟩
        rcases (mem_keys_dictSet _ _ _ _).1 hk with rfl | hk
        exacts [hP, hs.1 hk]
    | stop P =>
      refine ih _ ?_ hrest
      rcases stopApiServer_apiServers ext P s with h | h <;> rw [h]
      · exact hs
      · exact ⟨fun k hk => hs.1 ((mem_keys_dictDel _ _ _).1 hk).2, nodup_keys_dictDel _ _ hs.2⟩

/-- A node with nothing on it. -/
def emptyNode : Node := ⟨⟨[], []⟩, [], [], ⟨[], []⟩, []⟩

/-! ### Ports stay distinct -/

/-- No two projects hold the same API-server port. -/
def PortsDistinct (s : Node) : Prop := (s.apiServers.map Prod.snd).Nodup

theorem portsDistinct_ensure (ext : Ext) (P : Str) {s : Node} (h : PortsDistinct s) :
    PortsDistinct (Py.after (ensureApiServer ext P s)) := by
  rcases ensureApiServer_apiServers ext P s with hs | ⟨hnone, hs⟩
  · rwa [PortsDistinct, hs]
  · rw [PortsDistinct, hs, dictSet_of_dictGet_eq_none hnone, List.map_append]
    refine h.append (List.nodup_singleton _) fun v hv hv' => ?_
    obtain ⟨e, he, rfl⟩ := List.mem_map.1 hv
    have := nextApiServerPort_lt he
    simp only [List.map_cons, List.map_nil, List.mem_singleton] at hv'
    omega

theorem portsDistinct_stop (ext : Ext) (P : Str) {s : Node} (h : PortsDistinct s) :
    PortsDistinct (Py.after (stopApiServer ext P s)) := by
  rcases stopApiServer_apiServers ext P s with hs | hs <;> rw [PortsDistinct, hs]
  · exact h
  · exact ((List.filter_sublist _).map _).nodup h

/-- Along every run of the pool, ports stay distinct. -/
theorem poolRun_portsDistinct (ext : Ext) (calls : List PoolCall) {s : Node} (h : PortsDistinct s) :
    PortsDistinct (poolRun ext s calls) := by
  induction calls generalizing s with
  | nil => exact h
  | cons c calls ih =>
    cases c with
    | ensure P => exact ih (portsDistinct_ensure ext P h)
    | stop P => exact ih (portsDistinct_stop ext P h)

/-- **The port of a new API server.**  Whatever order the loop of `ensure_api_server` visits
    the ports of `api_servers` in, it computes `min(MAX_API_SERVER_PORT, min(ports) - 1)`
    (`MAX_API_SERVER_PORT` for none), a port below every port assigned.  For a project not in
    `api_servers` it stores and returns that port when `monit_interface.start` starts the
    server, and raises with `api_servers` unchanged when it does not; for a project in it, it
    returns the stored port and changes nothing.  So every run of `ensure_api_server` and
    `stop_api_server` keeps the ports of distinct projects distinct. -/
theorem ensureApiServer_port_closed_form (ext : Ext) (P : Str) (s : Node) :
    (∀ σ : List (Str × Int), σ.Perm s.apiServers →
      σ.foldl lowerBelow maxApiServerPort = specApiServerPort (s.apiServers.map Prod.snd)) ∧
    (∀ e ∈ s.apiServers, specApiServerPort (s.apiServers.map Prod.snd) < e.2) ∧
    (dictGet P s.apiServers = none →
      (ext.monitStart (apiServerWatch P (specApiServerPort (s.apiServers.map Prod.snd))) = true →
        ∃ s', ensureApiServer ext P s = .ok (specApiServerPort (s.apiServers.map Prod.snd)) s' ∧
          s'.apiServers = dictSet P (specApiServerPort (s.apiServers.map Prod.snd)) s.apiServers) ∧
      (ext.monitStart (apiServerWatch P (specApiServerPort (s.apiServers.map Prod.snd))) = false →
        ∃ s', ensureApiServer ext P s = .error (.assertionError
          ("Monit was unable to start ".toList ++ apiServerPrefix ++ P)) s' ∧
          s'.apiServers = s.apiServers)) ∧
    (∀ port, dictGet P s.apiServers = some port → ensureApiServer ext P s = .ok port s) ∧
    (∀ calls, PortsDistinct s → PortsDistinct (poolRun ext s calls)) := by
  rw [← nextApiServerPort_eq_spec]
  exact ⟨fun σ hσ => foldl_lowerBelow_perm hσ _, fun e he => nextApiServerPort_lt he,
    fun h => ensureApiServer_of_dictGet_eq_none h ext, fun port h => ensureApiServer_of_dictGet h ext,
    fun calls h => poolRun_portsDistinct ext calls h⟩

/-- Monit refusing every start. -/
def Ext.refusing : Ext := ⟨fun _ => false, fun _ _ => none⟩

/-- **A refused start stores nothing.**  When Monit does not start the new API server,
    `ensure_api_server` of a new project fails its `assert` and neither stores nor returns a
    port. -/
theorem ensureApiServer_refused_stores_nothing :
    ∃ s', ensureApiServer Ext.refusing "guestbook".toList emptyNode =
        .error (.assertionError ("Monit was unable to start ".toList ++ apiServerPrefix ++
          "guestbook".toList)) s' ∧ s'.apiServers = [] :=
  ⟨_, rfl, rfl⟩

/-! ### The bound that holds -/

/-- Every port held lies in `[MAX_API_SERVER_PORT + 1 - m, MAX_API_SERVER_PORT]`. -/
def PortsAbove (s : Node) (m : Nat) : Prop :=
  ∀ e ∈ s.apiServers, maxApiServerPort + 1 - m ≤ e.2 ∧ e.2 ≤ maxApiServerPort

theorem portsAbove_ensure (ext : Ext) (P : Str) {s : Node} {m : Nat} (h : PortsAbove s m) :
    PortsAbove (Py.after (ensureApiServer ext P s)) (m + 1) := by
  intro e he
  rcases ensureApiServer_apiServers ext P s with hs | ⟨-, hs⟩ <;> rw [hs] at he
  · have := h e he; push_cast; omega
  · rcases mem_dictSet he with rfl | he
    · have := le_nextApiServerPort s.apiServers (maxApiServerPort + 1 - m) (by omega)
        fun e he => (h e he).1
      exact ⟨by push_cast; omega, nextApiServerPort_le _⟩
    · have := h e he; push_cast; omega

theorem portsAbove_stop (ext : Ext) (P : Str) {s : Node} {m : Nat} (h : PortsAbove s m) :
    PortsAbove (Py.after (stopApiServer ext P s)) m := by
  intro e he
  rcases stopApiServer_apiServers ext P s with hs | hs <;> rw [hs] at he
  exacts [h e he, h e (mem_of_mem_dictDel he)]

theorem poolRun_portsAbove (ext : Ext) (calls : List PoolCall) {s : Node} {m : Nat}
    (h : PortsAbove s m) : PortsAbove (poolRun ext s calls) (m + calls.countP PoolCall.isEnsure) := by
  induction calls generalizing s m with
  | nil => exact h
  | cons c calls ih =>
    cases c with
    | ensure P =>
      have := ih (portsAbove_ensure ext P h)
      simp only [List.countP_cons, PoolCall.isEnsure, if_true]
      rwa [← Nat.add_assoc, Nat.add_right_comm]
    | stop P => simpa [List.countP_cons, PoolCall.isEnsure] using ih (portsAbove_stop ext P h)

/-- **Ports after `m` calls of `ensure_api_server`.**  In every run of `ensure_api_server`
    and `stop_api_server` from an empty pool, each port held lies in
    `[MAX_API_SERVER_PORT + 1 - m, MAX_API_SERVER_PORT]`, `m` the number of
    `ensure_api_server` calls so far; so the ports stay in `[1024, MAX_API_SERVER_PORT]` while
    the run has made at most `MAX_API_SERVER_PORT - 1023` of them. -/
theorem poolRun_ports_bounded (ext : Ext) (calls : List PoolCall) (s : Node) (h : s.apiServers = []) :
    ∀ e ∈ (poolRun ext s calls).apiServers,
      maxApiServerPort + 1 - calls.countP PoolCall.isEnsure ≤ e.2 ∧ e.2 ≤ maxApiServerPort ∧
        ((calls.countP PoolCall.isEnsure : Int) ≤ maxApiServerPort - 1023 → 1024 ≤ e.2) := by
  intro e he
  have := poolRun_portsAbove ext calls (m := 0) (fun e he => by simp [h] at he) e he
  simp only [Nat.cast_add, Nat.cast_zero, zero_add] at this
  exact ⟨this.1, this.2, fun hm => by omega⟩

/-- The bound on a run that starts one project, at the port it gets. -/
theorem poolRun_ports_bounded_one :
    ("a".toList, (19999 : Int)) ∈ (poolRun Ext.ok emptyNode [.ensure "a".toList]).apiServers ∧
      maxApiServerPort + 1 - [PoolCall.ensure "a".toList].countP PoolCall.isEnsure ≤ 19999 ∧
        19999 ≤ maxApiServerPort ∧
        (([PoolCall.ensure "a".toList].countP PoolCall.isEnsure : Int) ≤ maxApiServerPort - 1023 →
          1024 ≤ (19999 : Int)) :=
  have h : ("a".toList, (19999 : Int)) ∈ (poolRun Ext.ok emptyNode [.ensure "a".toList]).apiServers := by
    decide
  ⟨h, poolRun_ports_bounded Ext.ok _ emptyNode rfl _ h⟩

/-! ### The drift -/

/-- With Monit accepting every request, a new project is recorded on `nextApiServerPort`. -/
theorem ensureApiServer_ok_apiServers {P : Str} {s : Node} (h : dictGet P s.apiServers = none) :
    (Py.after (ensureApiServer Ext.ok P s)).apiServers =
      dictSet P (nextApiServerPort s.apiServers) s.apiServers := by
  simp [ensureApiServer, h, Ext.ok, Py.after]

/-- With Monit accepting every request, `stop_api_server` forgets the project. -/
theorem stopApiServer_ok_apiServers (P : Str) (s : Node) :
    (Py.after (stopApiServer Ext.ok P s)).apiServers = dictDel P s.apiServers := by
  unfold stopApiServer
  split
  · exact (dictDel_of_dictGet_eq_none ‹_›).symm
  · rw [unmonitorAndTerminate_ok]
    by_cases h : apiServerWatch P ‹Int› ∈ s.monit.watches <;> simp [h, Py.after]

/-- The project that leaves and comes back in turn `k`: `a` and `b` alternately. -/
def driftProject (k : Nat) : Str := if k % 2 = 0 then "a".toList else "b".toList

/-- Start `a` and `b`, then `k` turns in which the project on the higher port leaves and
    comes back. -/
def driftRun (k : Nat) : List PoolCall :=
  [.ensure "a".toList, .ensure "b".toList] ++
    (List.range k).flatMap fun i => [.stop (driftProject i), .ensure (driftProject i)]

theorem driftRun_succ (k : Nat) :
    driftRun (k + 1) = driftRun k ++ [.stop (driftProject k), .ensure (driftProject k)] := by
  simp [driftRun, List.range_succ]

theorem poolRun_turn (ext : Ext) (s : Node) (P : Str) :
    poolRun ext s [.stop P, .ensure P] = Py.after (ensureApiServer ext P (Py.after (stopApiServer ext P s))) :=
  rfl

theorem driftProject_ne (k : Nat) : driftProject (k + 1) ≠ driftProject k := by
  unfold driftProject; split <;> split <;> first | omega | decide

theorem driftProject_add_two (k : Nat) : driftProject (k + 2) = driftProject k := by
  simp [driftProject, Nat.add_mod_right]

/-- After `k` turns the two servers sit on `19999 - k` and `19998 - k`. -/
theorem poolRun_driftRun (k : Nat) :
    (poolRun Ext.ok emptyNode (driftRun k)).apiServers =
      [(driftProject k, 19999 - (k : Int)), (driftProject (k + 1), 19998 - (k : Int))] := by
  induction k with
  | zero => decide
  | succ k ih =>
    have hne := driftProject_ne k
    have hdel : (Py.after (stopApiServer Ext.ok (driftProject k)
        (poolRun Ext.ok emptyNode (driftRun k)))).apiServers = [(driftProject (k + 1), 19998 - (k : Int))] := by
      rw [stopApiServer_ok_apiServers, ih]; simp [dictDel, hne]
    rw [driftRun_succ, poolRun_append, poolRun_turn, ensureApiServer_ok_apiServers, hdel]
    · simp [dictSet, hne, nextApiServerPort, lowerBelow, maxApiServerPort, driftProject_add_two]
      constructor <;> omega
    · rw [hdel]; simp [dictGet, hne]

/-- **The pool drifts into the instance port range.**  A run from an empty pool in which
    never more than two projects hold a server (`2 ≤ MAX_API_SERVER_PORT - 1023`) ends with
    a server on port 1023. -/
theorem ensureApiServer_drifts_below_1024 :
    let calls := driftRun 18975
    (2 : Int) ≤ maxApiServerPort - 1023 ∧ emptyNode.apiServers = [] ∧
      (∀ n, (poolRun Ext.ok emptyNode (calls.take n)).apiServers.length ≤ 2) ∧
      ∃ e ∈ (poolRun Ext.ok emptyNode calls).apiServers, e.2 < 1024 := by
  refine ⟨by decide, rfl, fun n => ?_, ⟨(driftProject 18976, 1023), ?_, by decide⟩⟩
  · have hc : ∀ c ∈ (driftRun 18975).take n, c.projectId ∈ ["a".toList, "b".toList] := by
      intro c hc
      have hc := List.mem_of_mem_take hc
      simp only [driftRun, List.mem_append, List.mem_flatMap] at hc
      rcases hc with h | ⟨i, -, h⟩
      · simp at h; rcases h with rfl | rfl <;> decide
      · simp only [List.mem_cons, List.mem_singleton, List.not_mem_nil, or_false] at h
        rcases h with rfl | rfl <;> simp only [PoolCall.projectId, driftProject] <;> split <;> simp
    have h := poolRun_keys Ext.ok _ _ emptyNode (by simp [emptyNode]) hc
    simpa using (List.subperm_of_subset h.2 h.1).length_le
  · rw [poolRun_driftRun]; simp

end AppManager
