import AppManager.Handlers

namespace AppManager

/-!
# AppManager — the HTTP handler of `start_app`

`POST /versions/([a-z0-9-_]+)` reaches `VersionHandler.post`, which decodes the body and
runs `start_app`:

    try:
      config = json_decode(self.request.body)
    except ValueError:
      raise HTTPError(HTTPCodes.BAD_REQUEST, 'Payload must be valid JSON')
    try:
      yield start_app(version_key, config)
    except BadConfigurationException as error:
      raise HTTPError(HTTPCodes.BAD_REQUEST, error.message)

`start_app` tests `config` with `in` and `[]`, which Python applies to whatever value
`json_decode` returns, and unpacks `version_key.split(VERSION_PATH_SEPARATOR)` into three
names.  Tornado's `RequestHandler` answers a `tornado.web.HTTPError` with its status and any
other exception with 500, and the `HTTPError` this module imports is `tornado.httpclient`'s.

* `Json` — a value `json_decode` returns; `pyIn`, `pyIndex` and `Json.truthy` — Python's
  `in`, `[]` and truth test on it, with the `TypeError` and `KeyError` they raise;
* `readConfig` — `start_app`'s tests of `config`, which raise only
  `BadConfigurationException` on an object (`readConfig_obj_raises`) and never let any
  other body through (`readConfig_not_obj`);
* `versionHandlerPost` — the handler up to the return of `start_app`, and `replyStatus` —
  Tornado's answer; `versionHandlerPost_valueError` — a version key the route admits that
  does not split into three names raises `ValueError`;
* `versionHandlerPost_answers_500` — a two-part version key, a body that is a number, and a
  body without `app_port` are all answered 500.
-/

/-- A value `json_decode` returns; an object is the decoded dict, its keys in order. -/
inductive Json
  | null
  | bool (b : Bool)
  | num (n : Int)
  | str (s : Str)
  | arr (items : List Json)
  | obj (items : List (Str × Json))
deriving Repr

namespace Json

/-- `value == key` for a string `key`, as `key in list` compares the items. -/
def isStr (key : Str) : Json → Bool
  | .str s => s == key
  | _ => false

/-- Python's truth test. -/
def truthy : Json → Bool
  | .null => false
  | .bool b => b
  | .num n => n ≠ 0
  | .str s => !s.isEmpty
  | .arr items => !items.isEmpty
  | .obj items => !items.isEmpty

end Json

/-- `key in value` for a string `key`: a key of a dict, an item of a list, a substring of a
    string; `None`, a bool and a number raise `TypeError`. -/
def pyIn (key : Str) : Json → Except Err Bool
  | .obj items => pure (items.any (·.1 == key))
  | .arr items => pure (items.any (Json.isStr key))
  | .str s => pure (s.tails.any (startswith · key))
  | _ => throw .typeError

/-- `value[key]` for a string `key`: a dict's value (`KeyError` when the key is missing);
    lists and strings take integer indices, and the other values none, so they raise
    `TypeError`. -/
def pyIndex (key : Str) : Json → Except Err Json
  | .obj items => match dictGet key items with
    | some v => pure v
    | none => throw .keyError
  | _ => throw .typeError

/-- `start_app`'s tests of `config`, `'app_port' not in config` and then
    `'login_server' not in config or not config['login_server']`; it goes on with
    `config['app_port']` and `config['login_server']`. -/
def readConfig (config : Json) : Except Err (Json × Json) := do
  if !(← pyIn "app_port".toList config) then throw (.badConfiguration "app_port is required".toList)
  if !(← pyIn "login_server".toList config) then
    throw (.badConfiguration "login_server is required".toList)
  let loginServer ← pyIndex "login_server".toList config
  if !loginServer.truthy then throw (.badConfiguration "login_server is required".toList)
  let appPort ← pyIndex "app_port".toList config
  pure (appPort, loginServer)

/-- The `StartConfig` of the two values, when they have the types the model gives ports and
    hosts: an integer `app_port` and a string `login_server`. -/
def startConfigOf : Json × Json → Option StartConfig
  | (.num appPort, .str loginServer) => some ⟨some appPort, some loginServer⟩
  | _ => none

/-- `except BadConfigurationException as error: raise HTTPError(HTTPCodes.BAD_REQUEST,
    error.message)`. -/
def reraiseBadConfiguration (x : Py Unit) : Py Unit := fun s =>
  match x s with
  | .error (.badConfiguration message) s' => .error (.httpError 400 message) s'
  | r => r

/-- The route's `[a-z0-9-_]+`. -/
def routeMatches (versionKey : Str) : Bool :=
  !versionKey.isEmpty && versionKey.all fun c => c.isLower || c.isDigit || c == '-' || c == '_'

/-- The status Tornado answers with once `post` has returned or raised: a raised
    `tornado.web.HTTPError` would give its own status, but `post` raises none, so every
    exception is a 500. -/
def replyStatus {α : Type} : EStateM.Result Err Node α → Nat
  | .ok _ _ => 200
  | .error _ _ => 500

variable (D : Deployment) (ext : Ext) (projects : Projects)

/-- `VersionHandler.post(version_key)` until `start_app` returns (the `add_routing` it
    spawns runs after the reply), with `body` the decoded request body, `none` when
    `json_decode` raises `ValueError`; `none` for a body whose `app_port` or `login_server`
    has a type the model does not give them. -/
def versionHandlerPost (fetchOk : Bool) (versionKey : Str) (body : Option Json) : Option (Py Unit) :=
  match body with
  | none => some (throw (.httpError 400 "Payload must be valid JSON".toList))
  | some config =>
    match readConfig config with
    | .error e => some (reraiseBadConfiguration (throw e))
    | .ok values => (startConfigOf values).map fun config =>
      reraiseBadConfiguration do
        let l ← startAppBegin D ext projects versionKey config
        fetchSource fetchOk l.revisionKey
        startAppFinish D ext l

/-! ### `start_app`'s tests of the body -/

section ReadConfig

variable {D ext projects}

theorem pyIn_obj (k : Str) (items : List (Str × Json)) :
    pyIn k (.obj items) = .ok (items.any (·.1 == k)) := rfl

/-- `in` raises nothing but `TypeError`. -/
theorem pyIn_raises {k : Str} {v : Json} {e : Err} (h : pyIn k v = .error e) : e = .typeError := by
  cases v <;> cases h <;> rfl

/-- A key the membership test finds in an object can be read. -/
theorem pyIndex_obj_of_any {k : Str} {items : List (Str × Json)} (h : items.any (·.1 == k) = true) :
    ∃ v, pyIndex k (.obj items) = .ok v := by
  obtain ⟨x, hx, hk⟩ := List.any_eq_true.1 h
  obtain ⟨v, hv⟩ := Option.isSome_iff_exists.1
    (dictGet_isSome_iff.2 (List.mem_map.2 ⟨x, hx, beq_iff_eq.1 hk⟩))
  exact ⟨v, by simp only [pyIndex, hv]; rfl⟩

/-- An object fails a test with `BadConfigurationException`, or yields its two values, the
    login server a true one. -/
theorem readConfig_obj_cases (items : List (Str × Json)) :
    (∃ m, readConfig (.obj items) = .error (.badConfiguration m)) ∨
      ∃ appPort loginServer, loginServer.truthy ∧
        readConfig (.obj items) = .ok (appPort, loginServer) := by
  unfold readConfig
  rw [pyIn_obj, pyIn_obj]
  cases ha : items.any (·.1 == "app_port".toList)
  · exact .inl ⟨_, rfl⟩
  cases hl : items.any (·.1 == "login_server".toList)
  · exact .inl ⟨_, rfl⟩
  obtain ⟨a, hav⟩ := pyIndex_obj_of_any ha
  obtain ⟨l, hlv⟩ := pyIndex_obj_of_any hl
  rw [hav, hlv]
  cases ht : l.truthy
  · exact .inl ⟨_, by simp only [bind, Except.bind, ht]; rfl⟩
  · exact .inr ⟨a, l, ht, by simp only [bind, Except.bind, ht]; rfl⟩

/-- **An object raises only `BadConfigurationException`.**  The membership tests of an
    object cannot raise, and `[]` runs only on a key the test found. -/
theorem readConfig_obj_raises {items : List (Str × Json)} {e : Err}
    (h : readConfig (.obj items) = .error e) : ∃ m, e = .badConfiguration m := by
  rcases readConfig_obj_cases items with ⟨m, hm⟩ | ⟨_, _, _, hok⟩
  · rw [hm] at h
    cases h
    exact ⟨m, rfl⟩
  · rw [hok] at h
    cases h

/-- A body without `app_port`. -/
theorem readConfig_obj_raises_noPort :
    ∃ e, readConfig (.obj [("login_server".toList, .str "10.0.0.1".toList)]) = .error e ∧
      ∃ m, e = .badConfiguration m := by
  obtain ⟨e, h⟩ : ∃ e, readConfig (.obj [("login_server".toList, .str "10.0.0.1".toList)]) = .error e :=
    ⟨_, rfl⟩
  exact ⟨e, h, readConfig_obj_raises h⟩

theorem startConfigOf_eq_some {values : Json × Json} {config : StartConfig}
    (h : startConfigOf values = some config) :
    ∃ appPort loginServer, values = (.num appPort, .str loginServer) ∧
      config = ⟨some appPort, some loginServer⟩ := by
  unfold startConfigOf at h
  split at h
  · cases h
    exact ⟨_, _, rfl, rfl⟩
  · cases h

end ReadConfig

/-! ### The handler -/

/-- With both values present and a login server, `start_app` unpacks the version key before
    anything else can fail: one that does not split into three names raises `ValueError`. -/
theorem startAppBegin_valueError {appPort : Int} {loginServer vk : Str} (hls : loginServer ≠ [])
    (hsplit : (split D.sep vk).length ≠ 3) (s : Node) :
    startAppBegin D ext projects vk ⟨some appPort, some loginServer⟩ s = .error .valueError s := by
  obtain ⟨c, cs, rfl⟩ := List.exists_cons_of_ne_nil hls
  unfold startAppBegin
  dsimp only
  rcases hsp : split D.sep vk with _ | ⟨a, _ | ⟨b, _ | ⟨c, _ | ⟨d, rest⟩⟩⟩⟩
  all_goals first | rfl | simp [hsp] at hsplit

/-- **A version key the route admits can raise `ValueError`.**  For an object body whose
    values the model represents, a version key that does not split into exactly three names
    makes `post` raise the `ValueError` of the unpacking, which is no
    `BadConfigurationException`, before anything changes. -/
theorem versionHandlerPost_valueError {fetchOk : Bool} {vk : Str} {items : List (Str × Json)}
    {values : Json × Json} {config : StartConfig} (hread : readConfig (.obj items) = .ok values)
    (hconfig : startConfigOf values = some config) (hsplit : (split D.sep vk).length ≠ 3) (s : Node) :
    (versionHandlerPost D ext projects fetchOk vk (some (.obj items))).map (· s) =
      some (.error .valueError s) := by
  obtain ⟨appPort, loginServer, rfl, rfl⟩ := startConfigOf_eq_some hconfig
  have hls : loginServer ≠ [] := by
    rcases readConfig_obj_cases items with ⟨m, hm⟩ | ⟨_, l, hl, hok⟩
    · rw [hm] at hread
      cases hread
    · rw [hok] at hread
      cases hread
      simpa [Json.truthy] using hl
  simp only [versionHandlerPost, hread, startConfigOf, Option.map_some']
  rw [reraiseBadConfiguration, Py.bind_error (startAppBegin_valueError D ext projects hls hsplit s)]

/-- **Every failure is answered 500.**  `post('guestbook_default')`, a version key the route
    admits, with a well-formed body raises `ValueError`; a body that is the number 5 raises
    `TypeError`; a body without `app_port` raises `HTTPError(400, 'app_port is required')`,
    which is `tornado.httpclient`'s.  Tornado answers all three with 500, from any node. -/
theorem versionHandlerPost_answers_500 :
    routeMatches "guestbook_default".toList ∧
    (∃ p, versionHandlerPost specDeployment Ext.ok [] true "guestbook_default".toList
        (some (.obj [("app_port".toList, .num 8080), ("login_server".toList, .str "10.0.0.1".toList)])) =
          some p ∧ ∀ s, p s = .error .valueError s ∧ replyStatus (p s) = 500) ∧
    (∃ p, versionHandlerPost specDeployment Ext.ok [] true "guestbook_default_v1".toList
        (some (.num 5)) = some p ∧ ∀ s, p s = .error .typeError s ∧ replyStatus (p s) = 500) ∧
    ∃ p, versionHandlerPost specDeployment Ext.ok [] true "guestbook_default_v1".toList
        (some (.obj [("login_server".toList, .str "10.0.0.1".toList)])) = some p ∧
      ∀ s, p s = .error (.httpError 400 "app_port is required".toList) s ∧ replyStatus (p s) = 500 :=
  ⟨by decide, ⟨_, rfl, fun _ => ⟨rfl, rfl⟩⟩, ⟨_, rfl, fun _ => ⟨rfl, rfl⟩⟩, _, rfl, fun _ => ⟨rfl, rfl⟩⟩

end AppManager
