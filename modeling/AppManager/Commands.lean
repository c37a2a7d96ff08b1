import AppManager.Node

namespace AppManager

/-!
# AppManager — start commands and the process reconciler

`start_app` hands Monit a start command built by `create_python27_start_cmd` or
`create_java_start_cmd`; at boot `recover_state` calls `clean_up_instances`, which reads
every process's command line back into a `(revision, port)` pair and SIGKILLs the process
group of each process whose pair no monitored watch accounts for.  The builders and the
parsers are separate code, so the round trip between them is what keeps a healthy
instance alive across a restart.

* `Layout` — the paths and options the builders and the parsers read.
* `pathJoin`, `dirname` — `os.path.join` and `os.path.dirname` (`posixpath`).
* `createPython27StartCmd`, `createJavaStartCmd` — the two builders.
* `appServerOf` — one iteration of `clean_up_instances`' loop: which branch a command line
  takes and what it parses to; `cleanUpInstances` — the whole selection, which returns
  exactly when no process raises in the loop (`cleanUpInstances_returns_iff`) and otherwise
  raises the exception of the first that does (`cleanUpInstances_error`).
* `startCmds_read_back` — on a consistent `Layout`, the Python argv and the JVM's Java
  arguments read back to `(rk, p)`, so a monitored instance is never selected for SIGKILL;
  it needs `WEB-INF` exactly one directory below the revision, and
  `cleanUpInstances_kills_war_instance` is an `app/war/WEB-INF` instance that is killed.
-/

/-- The paths and options the start commands and `clean_up_instances` read, none of which
    is defined in this repository. -/
structure Layout where
  /-- `constants.APPSCALE_HOME`. -/
  appscaleHome : Str
  /-- `constants.APPS_PATH`. -/
  appsPath : Str
  /-- `UNPACK_ROOT`, where each revision's source is unpacked. -/
  unpackRoot : Str
  /-- `PYTHON_APPSERVER`. -/
  pythonAppserver : Str
  /-- `constants.JAVA_APPSERVER`. -/
  javaAppserver : Str
  /-- `JAVA_APPSERVER_CLASS`. -/
  javaAppserverClass : Str
  /-- `options.db_proxy`. -/
  dbProxy : Str
  /-- `options.tq_proxy`. -/
  tqProxy : Str
  /-- `constants.UA_SERVER_PORT`. -/
  uaServerPort : Int
  /-- `constants.DB_SERVER_PORT`. -/
  dbServerPort : Int

/-! ### Paths -/

/-- `os.path.join(a, *parts)`: an absolute part restarts the path; otherwise a `/` goes
    between the path so far and the part, unless that path is empty or ends in `/`. -/
def pathJoin (a : Str) : List Str → Str
  | [] => a
  | b :: bs => pathJoin (if startswith b ['/'] then b
      else if a = [] ∨ a.getLast? = some '/' then a ++ b else a ++ '/' :: b) bs

/-- `os.path.dirname(p)`: `p` up to its last `/`, with the trailing slashes stripped
    unless that head is nothing but slashes. -/
def dirname (p : Str) : Str :=
  let head := (p.reverse.dropWhile (· ≠ '/')).reverse
  if head ≠ [] ∧ ¬ head.all (· = '/') then (head.reverse.dropWhile (· = '/')).reverse
  else head

/-! ### The start commands -/

/-- `TRUSTED_APPS`. -/
def trustedApps : List Str := ["appscaledashboard".toList]

/-- `TRUSTED_FLAG`. -/
def trustedFlag : Str := "--trusted".toList

/-- `PHP_CGI_LOCATION`. -/
def phpCgiLocation : Str := "/usr/bin/php-cgi".toList

/-- `create_python27_start_cmd(app_name, login_ip, port, pidfile, revision_key,
    api_server_port)`. -/
def createPython27StartCmd (L : Layout) (D : Deployment) (appName loginIp : Str) (port : Int)
    (pidfile revisionKey : Str) (apiServerPort : Int) : Str :=
  let sourceDirectory := pathJoin L.unpackRoot [revisionKey, "app".toList]
  let cmd := ["/usr/bin/python2".toList,
    L.appscaleHome ++ "/AppServer/dev_appserver.py".toList,
    "--application".toList, appName,
    "--port ".toList ++ pyStr port,
    "--admin_port ".toList ++ pyStr (port + 10000),
    "--login_server ".toList ++ loginIp,
    "--skip_sdk_update_check".toList,
    "--nginx_host ".toList ++ loginIp,
    "--require_indexes".toList,
    "--enable_sendmail".toList,
    "--xmpp_path ".toList ++ loginIp,
    "--php_executable_path=".toList ++ phpCgiLocation,
    "--uaserver_path ".toList ++ L.dbProxy ++ ":".toList ++ pyStr L.uaServerPort,
    "--datastore_path ".toList ++ L.dbProxy ++ ":".toList ++ pyStr L.dbServerPort,
    sourceDirectory,
    "--host ".toList ++ D.privateIp,
    "--admin_host ".toList ++ D.privateIp,
    "--automatic_restart".toList, "no".toList,
    "--pidfile".toList, pidfile,
    "--external_api_port".toList, pyStr apiServerPort]
  join [' '] (if appName ∈ trustedApps then cmd ++ [trustedFlag] else cmd)

/-- The list `cmd` that `create_java_start_cmd(app_name, port, load_balancer_host,
    max_heap, pidfile, revision_key, api_server_port)` joins.  `find_web_inf` is not in this
    repository: it is the parameter `findWebInf`, applied to the revision's directory as
    the code does. -/
def javaStartArgs (L : Layout) (D : Deployment) (findWebInf : Str → Str) (appName : Str)
    (port : Int) (loadBalancerHost : Str) (maxHeap : Int) (pidfile revisionKey : Str)
    (apiServerPort : Int) : List Str :=
  let javaStartScript := pathJoin L.javaAppserver
    ["appengine-java-sdk-repacked".toList, "bin".toList, "dev_appserver.sh".toList]
  let revisionBase := pathJoin L.unpackRoot [revisionKey]
  let webInfDirectory := findWebInf revisionBase
  [javaStartScript,
    "--port=".toList ++ pyStr port,
    "--jvm_flag=-Dsocket.permit_connect=true".toList,
    "--jvm_flag=-Xmx".toList ++ pyStr maxHeap ++ "m".toList,
    "--jvm_flag=-Djava.security.egd=file:/dev/./urandom".toList,
    "--jvm_flag=-Djdk.tls.client.protocols=TLSv1.1,TLSv1.2".toList,
    "--disable_update_check".toList,
    "--address=".toList ++ D.privateIp,
    "--datastore_path=".toList ++ L.dbProxy,
    "--login_server=".toList ++ loadBalancerHost,
    "--appscale_version=1".toList,
    "--APP_NAME=".toList ++ appName,
    "--NGINX_ADDRESS=".toList ++ loadBalancerHost,
    "--TQ_PROXY=".toList ++ L.tqProxy,
    "--pidfile=".toList ++ pidfile,
    "--external_api_port=".toList ++ pyStr apiServerPort,
    "--api_using_python_stub=app_identity_service".toList,
    dirname webInfDirectory]

/-- `create_java_start_cmd(...)`: `' '.join(cmd)`. -/
def createJavaStartCmd (L : Layout) (D : Deployment) (findWebInf : Str → Str) (appName : Str)
    (port : Int) (loadBalancerHost : Str) (maxHeap : Int) (pidfile revisionKey : Str)
    (apiServerPort : Int) : Str :=
  join [' '] (javaStartArgs L D findWebInf appName port loadBalancerHost maxHeap pidfile
    revisionKey apiServerPort)

/-! ### `clean_up_instances` -/

/-- A process as `psutil` shows it: its pid, the group `os.getpgid` reports, and its
    command line. -/
structure Process where
  pid : Nat
  pgid : Nat
  cmdline : List Str
deriving DecidableEq, Repr

/-- The Java branch: `cmd[-1].split(os.sep)[-2]`, the first `--port=` argument and the
    `int` after its last `=`; the exceptions are those of the indexing, of `next` and of
    `int`, in the code's order. -/
def javaRevisionPort (cmd : List Str) : Except Err (Str × Int) := do
  let some revision := (split '/' (cmd.getLastD [])).reverse.get? 1 | throw .indexError
  let some portArg := cmd.find? (startswith · "--port=".toList) | throw .stopIteration
  let some port := pyInt ((split '=' portArg).getLastD []) | throw .valueError
  pure (revision, port)

/-- The Python branch: the first argument under `APPS_PATH`, its second-to-last path
    component, and the `int` of the argument after the first `--port`. -/
def pythonRevisionPort (L : Layout) (cmd : List Str) : Except Err (Str × Int) := do
  let some sourceArg := cmd.find? (startswith · L.appsPath) | throw .stopIteration
  let some revision := (split '/' sourceArg).reverse.get? 1 | throw .indexError
  let some i := cmd.indexOf? "--port".toList | throw .valueError
  let some portArg := cmd.get? (i + 1) | throw .indexError
  let some port := pyInt portArg | throw .valueError
  pure (revision, port)

/-- One iteration of `clean_up_instances`' loop: `none` for a process it skips
    (`continue`), else the `(revision, port)` pair it parses or the exception it raises. -/
def appServerOf (L : Layout) (cmd : List Str) : Option (Except Err (Str × Int)) :=
  if cmd.length < 2 then none
  else if L.javaAppserverClass ∈ cmd then some (javaRevisionPort cmd)
  else if cmd.get? 1 = some L.pythonAppserver then some (pythonRevisionPort L cmd)
  else none

/-- Whether `clean_up_instances` selects one process: a process it skips is not selected,
    one it parses is selected when no monitored watch has its `(revision, port)`. -/
def selectsProcess (L : Layout) (monitored : List (Str × Int)) (p : Process) :
    Except Err Bool :=
  match appServerOf L p.cmdline with
  | none => pure false
  | some r => r.map fun rp => decide (rp ∉ monitored)

/-- `clean_up_instances(monit_entries)`, with `monitored` the set of `(revision, port)`
    pairs it builds: the processes it selects, in table order, whose process groups it
    then SIGKILLs.  An exception in the loop escapes before anything is killed. -/
def cleanUpInstances (L : Layout) (monitored : List (Str × Int)) :
    List Process → Except Err (List Process)
  | [] => pure []
  | p :: ps => do
    let stop ← selectsProcess L monitored p
    let rest ← cleanUpInstances L monitored ps
    pure (if stop then p :: rest else rest)

/-- The process groups `clean_up_instances` kills. -/
def killedGroups (L : Layout) (monitored : List (Str × Int)) (procs : List Process) :
    Except Err (List Nat) :=
  (cleanUpInstances L monitored procs).map (·.map Process.pgid)

/-! ### Path lemmas -/

/-- Joining relative components without `/` to a path that does not end in one puts a
    single `/` before each. -/
theorem pathJoin_of_components {q : Str} (bs : List Str) (hq : q ≠ [])
    (hq' : q.getLast? ≠ some '/') (hbs : ∀ b ∈ bs, b ≠ [] ∧ '/' ∉ b) :
    pathJoin q bs = q ++ (bs.map ('/' :: ·)).flatten := by
  induction bs generalizing q with
  | nil => simp [pathJoin]
  | cons b bs ih =>
    obtain ⟨hb, hb'⟩ := hbs b (by simp)
    obtain ⟨c, cs, rfl⟩ := List.exists_cons_of_ne_nil hb
    have hc : c ≠ '/' := fun h => hb' (by simp [h])
    have hlast : (q ++ '/' :: c :: cs).getLast? ≠ some '/' := fun h =>
      hb' (List.mem_of_getLast?_eq_some (by simpa [List.getLast?_cons_cons] using h))
    rw [pathJoin, if_neg (by simpa [startswith] using hc.symm), if_neg (by simp [hq, hq']),
      ih (by simp) hlast fun b hb => hbs b (by simp [hb])]
    simp

/-- Dropping up to a character that occurs, when the text before it has none. -/
theorem dropWhile_ne_of_not_mem {c : Char} {b : Str} (hb : c ∉ b) (rest : Str) :
    (b ++ c :: rest).dropWhile (· ≠ c) = c :: rest := by
  induction b with
  | nil => simp
  | cons x xs ih =>
    simp only [List.mem_cons, not_or] at hb
    rw [List.cons_append, List.dropWhile_cons, if_pos (by simpa using Ne.symm hb.1), ih hb.2]

/-- The directory of `q/b`, for a last component `b` without `/` and a non-empty `q` that
    does not end in one, is `q`. -/
theorem dirname_append {q b : Str} (hq : q ≠ []) (hq' : q.getLast? ≠ some '/') (hb : '/' ∉ b) :
    dirname (q ++ '/' :: b) = q := by
  obtain ⟨q0, x, rfl⟩ := (List.eq_nil_or_concat q).resolve_left hq
  rw [List.concat_eq_append] at hq' ⊢
  have hx : x ≠ '/' := by simpa using hq'
  have hhead : ((q0 ++ [x] ++ '/' :: b).reverse.dropWhile (· ≠ '/')).reverse = q0 ++ [x, '/'] := by
    rw [List.reverse_append, List.reverse_cons, List.append_assoc, List.singleton_append,
      dropWhile_ne_of_not_mem (by simpa using hb)]
    simp
  rw [dirname, hhead, if_pos ⟨by simp, by simp [hx]⟩]
  simp [List.dropWhile_cons, hx]

/-- A component list joined under a revision's directory. -/
theorem pathJoin_revision {L : Str} (hL : L ≠ []) (hL' : L.getLast? ≠ some '/') {rk : Str}
    (hrk : rk ≠ [] ∧ '/' ∉ rk) (ds : List Str) (hds : ∀ d ∈ ds, d ≠ [] ∧ '/' ∉ d) :
    pathJoin L (rk :: ds) = L ++ ((rk :: ds).map ('/' :: ·)).flatten :=
  pathJoin_of_components _ hL hL' (by simpa [forall_eq_or_imp] using ⟨hrk, hds⟩)

/-- A path ending in a non-empty component without `/` does not end in `/`. -/
theorem getLast?_ne_slash {q x : Str} (hx : x ≠ []) (hx' : '/' ∉ x) :
    (q ++ x).getLast? ≠ some '/' := by
  rw [List.getLast?_append_of_ne_nil _ hx]
  exact fun h => hx' (List.mem_of_getLast?_eq_some h)

/-- The second-to-last component of `q/x/y`, for components without `/`, is `x`: the
    `split(os.sep)[-2]` both parsers apply. -/
theorem secondLast_split {q x y : Str} (hx : '/' ∉ x) (hy : '/' ∉ y) :
    (split '/' (q ++ '/' :: (x ++ '/' :: y))).reverse[1]? = some x := by
  rw [split_append_cons, split_append_cons, split_of_not_mem hx, split_of_not_mem hy]
  simp

theorem isWord_pathJoin_single {a b : Str} (ha : noSpace a) (hb : isWord b) :
    isWord (pathJoin a [b]) := by
  simp only [pathJoin]
  split_ifs <;> simp_all [isWord_iff, isSpace]

/-- Joining words to a path without whitespace gives a word. -/
theorem isWord_pathJoin {a b : Str} {bs : List Str} (ha : noSpace a) (hb : isWord b)
    (hbs : ∀ c ∈ bs, isWord c) : isWord (pathJoin a (b :: bs)) := by
  induction bs generalizing a b with
  | nil => exact isWord_pathJoin_single ha hb
  | cons c cs ih =>
    exact ih (isWord_iff.1 (isWord_pathJoin_single ha hb)).2 (hbs c (by simp))
      fun d hd => hbs d (by simp [hd])

/-! ### Reading the start commands back -/

/-- What the round trip needs of the installation: `PYTHON_APPSERVER` is the
    `dev_appserver.py` the Python command runs; `UNPACK_ROOT` is a directory (no trailing
    `/`) under the absolute `APPS_PATH`, and neither launcher is; the database proxy is a
    host, not a path; and the paths and options the commands embed have no whitespace. -/
structure Layout.Consistent (L : Layout) : Prop where
  pythonAppserver_eq : L.pythonAppserver = L.appscaleHome ++ "/AppServer/dev_appserver.py".toList
  appsPath_absolute : L.appsPath.head? = some '/'
  unpackRoot_under : startswith L.unpackRoot L.appsPath
  unpackRoot_no_trailing_slash : L.unpackRoot.getLast? ≠ some '/'
  python_outside : startswith "/usr/bin/python2".toList L.appsPath = false
  pythonAppserver_outside : startswith L.pythonAppserver L.appsPath = false
  dbProxy_not_path : L.dbProxy.head? ≠ some '/'
  noSpace_paths :
    ∀ w ∈ [L.appscaleHome, L.unpackRoot, L.javaAppserver, L.dbProxy, L.tqProxy], noSpace w

theorem Layout.Consistent.unpackRoot_ne_nil {L : Layout} (hL : L.Consistent) :
    L.unpackRoot ≠ [] := by
  obtain ⟨r, hr⟩ := List.head?_eq_some_iff.1 hL.appsPath_absolute
  intro h
  simpa [h, hr, startswith] using hL.unpackRoot_under

/-- The source directory of a revision key without `/`. -/
theorem sourceDirectory_eq {L : Layout} (hL : L.Consistent) {rk : Str} (hrk : rk ≠ [] ∧ '/' ∉ rk) :
    pathJoin L.unpackRoot [rk, "app".toList] = L.unpackRoot ++ '/' :: (rk ++ '/' :: "app".toList) := by
  rw [pathJoin_revision hL.unpackRoot_ne_nil hL.unpackRoot_no_trailing_slash hrk _ (by simp)]
  simp

/-- The `WEB-INF` parent of a directory `d` directly under the revision's directory. -/
theorem dirname_webInf {L : Layout} (hL : L.Consistent) {rk d : Str} (hrk : rk ≠ [] ∧ '/' ∉ rk)
    (hd : d ≠ [] ∧ '/' ∉ d) :
    dirname (pathJoin L.unpackRoot [rk, d, "WEB-INF".toList]) =
      L.unpackRoot ++ '/' :: (rk ++ '/' :: d) := by
  rw [pathJoin_revision hL.unpackRoot_ne_nil hL.unpackRoot_no_trailing_slash hrk _ (by simp [hd])]
  have h : L.unpackRoot ++ ([rk, d, "WEB-INF".toList].map ('/' :: ·)).flatten =
      (L.unpackRoot ++ '/' :: (rk ++ '/' :: d)) ++ '/' :: "WEB-INF".toList := by simp
  rw [h, dirname_append (by simp) _ (by decide)]
  rw [show L.unpackRoot ++ '/' :: (rk ++ '/' :: d) = (L.unpackRoot ++ '/' :: rk ++ ['/']) ++ d by simp]
  exact getLast?_ne_slash hd.1 hd.2

/-- The words `s.split()` finds in a Python start command (`splitWhitespace_python27StartCmd`). -/
def python27Argv (L : Layout) (D : Deployment) (app login : Str) (port : Int) (pidfile rk : Str)
    (api : Int) : List Str :=
  ["/usr/bin/python2".toList, L.appscaleHome ++ "/AppServer/dev_appserver.py".toList,
    "--application".toList, app, "--port".toList, pyStr port, "--admin_port".toList,
    pyStr (port + 10000), "--login_server".toList, login, "--skip_sdk_update_check".toList,
    "--nginx_host".toList, login, "--require_indexes".toList, "--enable_sendmail".toList,
    "--xmpp_path".toList, login] ++
  ["--php_executable_path=/usr/bin/php-cgi".toList, "--uaserver_path".toList,
    L.dbProxy ++ ':' :: pyStr L.uaServerPort, "--datastore_path".toList,
    L.dbProxy ++ ':' :: pyStr L.dbServerPort, pathJoin L.unpackRoot [rk, "app".toList],
    "--host".toList, D.privateIp, "--admin_host".toList, D.privateIp,
    "--automatic_restart".toList, "no".toList, "--pidfile".toList, pidfile,
    "--external_api_port".toList, pyStr api] ++
  (if app ∈ trustedApps then [trustedFlag] else [])

/-- Splitting a Python start command whose values are words: every `"--flag " + value`
    element gives two words, every other element one. -/
theorem splitWhitespace_python27StartCmd (L : Layout) (D : Deployment) (app login pidfile rk : Str)
    (port api : Int) (h1 : isWord app) (h2 : isWord login) (h3 : isWord pidfile)
    (h4 : isWord D.privateIp) (h5 : isWord (pathJoin L.unpackRoot [rk, "app".toList]))
    (hhome : noSpace L.appscaleHome) (hdb : noSpace L.dbProxy) :
    splitWhitespace (createPython27StartCmd L D app login port pidfile rk api) =
      python27Argv L D app login port pidfile rk api := by
  have hh : isWord (L.appscaleHome ++ "/AppServer/dev_appserver.py".toList) :=
    isWord_append hhome (by decide)
  have hu : isWord (L.dbProxy ++ (":".toList ++ pyStr L.uaServerPort)) :=
    isWord_append hdb (isWord_append rfl (isWord_pyStr _))
  have hd : isWord (L.dbProxy ++ (":".toList ++ pyStr L.dbServerPort)) :=
    isWord_append hdb (isWord_append rfl (isWord_pyStr _))
  have hp := isWord_pyStr port
  have hp' := isWord_pyStr (port + 10000)
  have ha := isWord_pyStr api
  rw [createPython27StartCmd, apply_ite (fun c => splitWhitespace (join [' '] c))]
  simp only [splitWhitespace_join, List.map_cons, List.map_nil, List.flatten_cons,
    List.flatten_nil, List.map_append, List.flatten_append]
  simp (disch := decide) only [splitWhitespace_append_of_space, List.append_assoc]
  simp (disch := first | assumption | decide) only [splitWhitespace_word, List.singleton_append,
    List.append_nil]
  rw [python27Argv]
  split <;> rfl

/-- The first word of a Python start command under `APPS_PATH` is the source directory,
    when neither the application name nor the login server is an absolute path. -/
theorem python27Argv_find_source {L : Layout} (hL : L.Consistent) (D : Deployment)
    {app login pidfile rk : Str} (p : Nat) (api : Int) (hrk : rk ≠ [] ∧ '/' ∉ rk)
    (hrel : app.head? ≠ some '/' ∧ login.head? ≠ some '/') :
    (python27Argv L D app login p pidfile rk api).find? (startswith · L.appsPath) =
      some (pathJoin L.unpackRoot [rk, "app".toList]) := by
  obtain ⟨r, hr⟩ := List.head?_eq_some_iff.1 hL.appsPath_absolute
  have hs_home : startswith (L.appscaleHome ++ "/AppServer/dev_appserver.py".toList) ('/' :: r) =
      false := hr ▸ hL.pythonAppserver_eq ▸ hL.pythonAppserver_outside
  have hs_py : startswith "/usr/bin/python2".toList ('/' :: r) = false := hr ▸ hL.python_outside
  have hs_p (n : Nat) : startswith (pyStr n) ('/' :: r) = false := startswith_slash (head_pyStr_ne n)
  have hs_p' : startswith (pyStr (↑p + 10000)) ('/' :: r) = false := by exact_mod_cast hs_p (p + 10000)
  have hs_db (i : Int) : startswith (L.dbProxy ++ ':' :: pyStr i) ('/' :: r) = false := by
    have := hL.dbProxy_not_path
    apply startswith_slash
    rw [List.head?_append]
    cases h : L.dbProxy.head? <;> simp_all
  have hs_src : startswith (pathJoin L.unpackRoot [rk, "app".toList]) ('/' :: r) = true := by
    obtain ⟨t, ht⟩ := (startswith_iff _ _).1 (hr ▸ hL.unpackRoot_under)
    rw [sourceDirectory_eq hL hrk, ht, List.append_assoc]
    exact startswith_append _ _
  -- the admin port's word is kept out of `find?_cons`, whose kernel check would unfold it
  rw [hr, python27Argv, List.find?_append, List.find?_append, List.find?_eq_none.2]
  · simp (disch := decide) only [List.find?_cons, startswith_slash, hs_db, hs_src,
      List.find?_nil, Option.or_some, Option.none_or]
  · simp (disch := decide) only [List.mem_cons, List.mem_singleton, forall_eq_or_imp, forall_eq,
      startswith_slash, hs_home, hs_py, hs_p, hs_p', startswith_slash hrel.1, startswith_slash hrel.2]
    simp

/-- The first `--port` of a Python start command is the fifth word, unless the application
    is itself called `--port`. -/
theorem python27Argv_indexOf_port (L : Layout) (D : Deployment) {app : Str} (login : Str)
    (port : Int) (pidfile rk : Str) (api : Int) (happ : app ≠ "--port".toList) :
    (python27Argv L D app login port pidfile rk api).indexOf? "--port".toList = some 4 := by
  have hhome : L.appscaleHome ++ "/AppServer/dev_appserver.py".toList ≠ "--port".toList :=
    fun h => by simpa using congrArg List.length h
  have e1 : ("/usr/bin/python2".toList == "--port".toList) = false := by decide
  have e3 : ("--application".toList == "--port".toList) = false := by decide
  have e5 : ("--port".toList == "--port".toList) = true := by decide
  simp only [python27Argv, List.cons_append, List.indexOf?_cons, e1, e3, e5,
    beq_eq_false_iff_ne.2 hhome, beq_eq_false_iff_ne.2 happ]
  rfl

/-- **The Python start command reads back.**  On a consistent layout, the argv of
    `create_python27_start_cmd(app, login, p, pidfile, rk, api)` for words that are not
    absolute paths is parsed by `clean_up_instances`' Python branch into `(rk, p)`. -/
theorem python27StartCmd_read_back {L : Layout} (hL : L.Consistent) (D : Deployment)
    {app login pidfile rk : Str} (p : Nat) (api : Int)
    (hwords : ∀ w ∈ [app, login, pidfile, D.privateIp, rk], isWord w) (hrk : '/' ∉ rk)
    (hrel : ∀ w ∈ [app, login], w.head? ≠ some '/') (happ : app ≠ "--port".toList)
    (hclass : L.javaAppserverClass ∉
      splitWhitespace (createPython27StartCmd L D app login p pidfile rk api)) :
    appServerOf L (splitWhitespace (createPython27StartCmd L D app login p pidfile rk api)) =
      some (.ok (rk, p)) := by
  simp only [List.mem_cons, List.mem_singleton, forall_eq_or_imp, forall_eq, List.not_mem_nil,
    false_imp_iff, imp_true_iff, and_true] at hwords hrel
  obtain ⟨h1, h2, h3, h4, h5⟩ := hwords
  have hrk' : rk ≠ [] ∧ '/' ∉ rk := ⟨(isWord_iff.1 h5).1, hrk⟩
  have hspaces := hL.noSpace_paths
  simp only [List.mem_cons, List.mem_singleton, forall_eq_or_imp, forall_eq, List.not_mem_nil,
    false_imp_iff, imp_true_iff, and_true] at hspaces
  have hsw : isWord (pathJoin L.unpackRoot [rk, "app".toList]) := by
    rw [sourceDirectory_eq hL hrk', isWord_iff]
    simp [(isWord_iff.1 h5).2, hspaces.2.1, isSpace]
  have hargv := splitWhitespace_python27StartCmd L D app login pidfile rk p api h1 h2 h3 h4 hsw
    hspaces.1 hspaces.2.2.2.1
  have hrev : (split '/' (pathJoin L.unpackRoot [rk, "app".toList])).reverse.get? 1 = some rk := by
    rw [sourceDirectory_eq hL hrk', List.get?_eq_getElem?]
    exact secondLast_split hrk (by decide)
  have hget : (python27Argv L D app login p pidfile rk api).get? (4 + 1) = some (pyStr p) := rfl
  rw [hargv] at hclass ⊢
  rw [appServerOf, if_neg (by simp [python27Argv]), if_neg hclass,
    if_pos (by rw [hL.pythonAppserver_eq]; rfl)]
  simp only [pythonRevisionPort, python27Argv_find_source hL D p api hrk' hrel, hrev,
    python27Argv_indexOf_port L D login p pidfile rk api happ, hget, pyInt_pyStr]
  rfl

/-- **The Java start command reads back**, when `find_web_inf` finds `WEB-INF` in a
    directory `d` directly under the revision's directory: the arguments the JVM gets after
    `JAVA_APPSERVER_CLASS` are parsed by the Java branch into `(rk, p)`. -/
theorem javaStartCmd_read_back {L : Layout} (hL : L.Consistent) (D : Deployment)
    {findWebInf : Str → Str} {app lb pidfile rk d : Str} (p : Nat) (maxHeap api : Int)
    {jvm : List Str} (hvals : ∀ w ∈ [app, lb, pidfile, D.privateIp], noSpace w)
    (hrk : isWord rk ∧ '/' ∉ rk) (hd : isWord d ∧ '/' ∉ d)
    (hjvm : ∀ a ∈ L.javaAppserverClass :: jvm, startswith a "--port=".toList = false)
    (hweb : findWebInf (pathJoin L.unpackRoot [rk]) =
      pathJoin L.unpackRoot [rk, d, "WEB-INF".toList]) :
    appServerOf L (jvm ++ L.javaAppserverClass ::
      (splitWhitespace (createJavaStartCmd L D findWebInf app p lb maxHeap pidfile rk api)).tail) =
      some (.ok (rk, p)) := by
  have hrk0 := isWord_iff.1 hrk.1
  have hd0 := isWord_iff.1 hd.1
  have hdir := dirname_webInf hL ⟨hrk0.1, hrk.2⟩ ⟨hd0.1, hd.2⟩
  have hspaces := hL.noSpace_paths
  simp only [List.mem_cons, List.mem_singleton, forall_eq_or_imp, forall_eq, List.not_mem_nil,
    false_imp_iff, imp_true_iff, and_true] at hspaces hvals hjvm
  have hsplit : splitWhitespace (createJavaStartCmd L D findWebInf app p lb maxHeap pidfile rk api) =
      javaStartArgs L D findWebInf app p lb maxHeap pidfile rk api := by
    apply splitWhitespace_join_words
    have hscript : isWord (pathJoin L.javaAppserver ["appengine-java-sdk-repacked".toList,
        "bin".toList, "dev_appserver.sh".toList]) :=
      isWord_pathJoin hspaces.2.2.1 (by decide) (by decide)
    simp only [javaStartArgs, hweb, hdir, List.mem_cons, List.mem_singleton, forall_eq_or_imp,
      forall_eq]
    refine ⟨hscript, ?_⟩
    simp [isWord_iff, noSpace_pyStr, hvals, hspaces, hrk0.2, hd0.2, isSpace]
  have hport : split '=' ("--port=".toList ++ pyStr p) = ["--port".toList, pyStr p] := by
    rw [show "--port=".toList ++ pyStr p = "--port".toList ++ '=' :: pyStr p from rfl,
      split_append_cons, split_of_not_mem (not_mem_pyStr (d := '=') rfl),
      split_of_not_mem (by decide)]
    rfl
  have hfind : (jvm ++ L.javaAppserverClass ::
      (javaStartArgs L D findWebInf app p lb maxHeap pidfile rk api).tail).find?
        (startswith · "--port=".toList) = some ("--port=".toList ++ pyStr p) := by
    rw [List.find?_append, List.find?_eq_none.2 fun a ha => by simp only [hjvm.2 a ha]; decide]
    simp only [javaStartArgs, List.tail_cons, List.find?_cons, hjvm.1, startswith_append,
      Option.none_or]
  rw [hsplit, appServerOf, if_neg (by simp [javaStartArgs]), if_pos (by simp)]
  simp only [javaRevisionPort, hfind, hport]
  simp only [javaStartArgs, hweb, hdir]
  simp [secondLast_split hrk.2 hd.2, pyInt_pyStr]
  rfl

/-! ### What `clean_up_instances` selects -/

theorem selectsProcess_eq_true {L : Layout} {m : List (Str × Int)} {p : Process}
    (h : selectsProcess L m p = .ok true) :
    ∃ x, appServerOf L p.cmdline = some (.ok x) ∧ x ∉ m := by
  unfold selectsProcess at h
  split at h
  · cases h
  · rename_i r hr
    cases r with
    | error e => cases h
    | ok x => exact ⟨x, hr, by simpa [Except.map] using h⟩

/-- Every process `clean_up_instances` selects for SIGKILL is in the table, and its command
    line parses to a pair that no monitored watch accounts for. -/
theorem mem_cleanUpInstances {L : Layout} {m : List (Str × Int)} {procs toStop : List Process}
    {q : Process} (h : cleanUpInstances L m procs = .ok toStop) (hq : q ∈ toStop) :
    q ∈ procs ∧ ∃ x, appServerOf L q.cmdline = some (.ok x) ∧ x ∉ m := by
  induction procs generalizing toStop with
  | nil => cases h; simp at hq
  | cons p ps ih =>
    cases hs : selectsProcess L m p with
    | error e => simp [cleanUpInstances, hs] at h; cases h
    | ok stop =>
      cases hr : cleanUpInstances L m ps with
      | error e => simp [cleanUpInstances, hs, hr] at h; cases h
      | ok rest =>
        simp only [cleanUpInstances, hs, hr, bind, Except.bind, pure, Except.pure,
          Except.ok.injEq] at h
        subst h
        cases stop with
        | false => exact (ih hr hq).imp_left (List.mem_cons_of_mem p)
        | true =>
          rcases List.mem_cons.1 hq with rfl | hq
          · exact ⟨List.mem_cons_self _ _, selectsProcess_eq_true hs⟩
          · exact (ih hr hq).imp_left (List.mem_cons_of_mem p)

/-- A process that does not raise in the loop's body is selected or not. -/
theorem selectsProcess_ok {L : Layout} {m : List (Str × Int)} {p : Process}
    (h : ∀ e, appServerOf L p.cmdline ≠ some (.error e)) : ∃ stop, selectsProcess L m p = .ok stop := by
  unfold selectsProcess
  split
  · exact ⟨false, rfl⟩
  · rename_i r hr
    cases r with
    | error e => exact absurd hr (h e)
    | ok x => exact ⟨_, rfl⟩

/-- `clean_up_instances` raises only on a process it recognises and cannot parse. -/
theorem cleanUpInstances_ok {L : Layout} {m : List (Str × Int)} {procs : List Process}
    (h : ∀ p ∈ procs, ∀ e, appServerOf L p.cmdline ≠ some (.error e)) :
    ∃ toStop, cleanUpInstances L m procs = .ok toStop := by
  induction procs with
  | nil => exact ⟨[], rfl⟩
  | cons p ps ih =>
    obtain ⟨rest, hrest⟩ := ih fun q hq => h q (List.mem_cons_of_mem p hq)
    obtain ⟨stop, hs⟩ := selectsProcess_ok (m := m) (h p (List.mem_cons_self _ _))
    exact ⟨_, by simp only [cleanUpInstances, hs, hrest]; rfl⟩

/-- **`clean_up_instances` raises** the exception of the first process it recognises and
    cannot parse, wherever that process stands in the table. -/
theorem cleanUpInstances_error {L : Layout} {m : List (Str × Int)} {pre post : List Process}
    {p : Process} {e : Err} (hpre : ∀ q ∈ pre, ∀ e, appServerOf L q.cmdline ≠ some (.error e))
    (hp : appServerOf L p.cmdline = some (.error e)) :
    cleanUpInstances L m (pre ++ p :: post) = .error e := by
  induction pre with
  | nil => simp [cleanUpInstances, selectsProcess, hp, Except.map]; rfl
  | cons q pre ih =>
    obtain ⟨stop, hs⟩ := selectsProcess_ok (m := m) (hpre q (List.mem_cons_self _ _))
    rw [List.cons_append, cleanUpInstances, hs, ih fun q' hq' => hpre q' (List.mem_cons_of_mem q hq')]
    rfl

/-- So `clean_up_instances` returns exactly when no process of the table is one it
    recognises and cannot parse. -/
theorem cleanUpInstances_returns_iff {L : Layout} {m : List (Str × Int)} {procs : List Process} :
    (∃ toStop, cleanUpInstances L m procs = .ok toStop) ↔
      ∀ p ∈ procs, ∀ e, appServerOf L p.cmdline ≠ some (.error e) := by
  refine ⟨?_, cleanUpInstances_ok⟩
  rintro ⟨toStop, h⟩
  induction procs generalizing toStop with
  | nil => simp
  | cons p ps ih =>
    cases hs : selectsProcess L m p with
    | error e => simp [cleanUpInstances, hs] at h; cases h
    | ok stop =>
      cases hr : cleanUpInstances L m ps with
      | error e => simp [cleanUpInstances, hs, hr] at h; cases h
      | ok rest =>
        intro q hq e he
        rcases List.mem_cons.1 hq with rfl | hq
        · simp [selectsProcess, he, Except.map] at hs
        · exact ih rest hr q hq e he

/-- A command line with `JAVA_APPSERVER_CLASS` among its arguments whose last argument has
    no `/` (a `grep` for the class, say) makes the Java branch raise `IndexError`. -/
theorem appServerOf_java_indexError {L : Layout} {cmd : List Str} (hlen : 2 ≤ cmd.length)
    (hclass : L.javaAppserverClass ∈ cmd) (hlast : '/' ∉ cmd.getLastD []) :
    appServerOf L cmd = some (.error .indexError) := by
  rw [appServerOf, if_neg (by omega), if_pos hclass, javaRevisionPort, split_of_not_mem hlast]
  rfl

/-! ### The round trip, and a layout it misses -/

/-- Both start commands read back on a consistent layout, and so `clean_up_instances`
    selects neither process for the SIGKILL of its group while `(rk, p)` is monitored: the
    Python argv for words that are not absolute paths (and an application not called
    `--port`), and the Java arguments after `JAVA_APPSERVER_CLASS` when `WEB-INF` sits in a
    directory `d` directly under the revision's directory. -/
theorem startCmds_read_back (L : Layout) (hL : L.Consistent) (D : Deployment)
    (findWebInf : Str → Str) (app login pidfile rk d : Str) (p : Nat) (maxHeap api : Int)
    (jvm : List Str) (hwords : ∀ w ∈ [app, login, pidfile, D.privateIp, rk, d], isWord w)
    (hslash : '/' ∉ rk ∧ '/' ∉ d) (hrel : ∀ w ∈ [app, login], w.head? ≠ some '/')
    (happ : app ≠ "--port".toList)
    (hclass : L.javaAppserverClass ∉
      splitWhitespace (createPython27StartCmd L D app login p pidfile rk api))
    (hjvm : ∀ a ∈ L.javaAppserverClass :: jvm, startswith a "--port=".toList = false)
    (hweb : findWebInf (pathJoin L.unpackRoot [rk]) =
      pathJoin L.unpackRoot [rk, d, "WEB-INF".toList]) :
    appServerOf L (splitWhitespace (createPython27StartCmd L D app login p pidfile rk api)) =
      some (.ok (rk, p)) ∧
    appServerOf L (jvm ++ L.javaAppserverClass :: (splitWhitespace
      (createJavaStartCmd L D findWebInf app p login maxHeap pidfile rk api)).tail) =
      some (.ok (rk, p)) ∧
    ∀ monitored procs toStop, (rk, (p : Int)) ∈ monitored →
      cleanUpInstances L monitored procs = .ok toStop → ∀ q ∈ toStop,
        q.cmdline ≠ splitWhitespace (createPython27StartCmd L D app login p pidfile rk api) ∧
        q.cmdline ≠ jvm ++ L.javaAppserverClass :: (splitWhitespace
          (createJavaStartCmd L D findWebInf app p login maxHeap pidfile rk api)).tail := by
  simp only [List.mem_cons, List.mem_singleton, forall_eq_or_imp, forall_eq, List.not_mem_nil,
    false_imp_iff, imp_true_iff, and_true] at hwords
  obtain ⟨h1, h2, h3, h4, h5, h6⟩ := hwords
  have hpy := python27StartCmd_read_back hL D p api (by simp [h1, h2, h3, h4, h5]) hslash.1 hrel
    happ hclass
  have hjava := @javaStartCmd_read_back L hL D findWebInf app login pidfile rk d p maxHeap api
    jvm (by simp [(isWord_iff.1 h1).2, (isWord_iff.1 h2).2, (isWord_iff.1 h3).2,
      (isWord_iff.1 h4).2]) ⟨h5, hslash.1⟩ ⟨h6, hslash.2⟩ hjvm hweb
  refine ⟨hpy, hjava, fun m procs toStop hm h q hq => ?_⟩
  obtain ⟨-, x, hx, hxm⟩ := mem_cleanUpInstances h hq
  constructor <;> intro hcmd <;> rw [hcmd] at hx
  · rw [hpy] at hx
    cases hx
    exact hxm hm
  · rw [hjava] at hx
    cases hx
    exact hxm hm

/-- A layout of the shape the code expects: `UNPACK_ROOT` under `APPS_PATH`, and
    `PYTHON_APPSERVER` the `dev_appserver.py` under `APPSCALE_HOME`. -/
def sampleLayout : Layout where
  appscaleHome := "/root/appscale".toList
  appsPath := "/opt/appscale".toList
  unpackRoot := "/opt/appscale/apps".toList
  pythonAppserver := "/root/appscale/AppServer/dev_appserver.py".toList
  javaAppserver := "/root/appscale/AppServer_Java".toList
  javaAppserverClass := "com.google.appengine.tools.development.DevAppServerMain".toList
  dbProxy := "10.0.0.3".toList
  tqProxy := "10.0.0.4".toList
  uaServerPort := 4343
  dbServerPort := 8888

theorem sampleLayout_consistent : sampleLayout.Consistent := by
  constructor <;> decide

/-- The round trip at `guestbook_default_v1_1` on port 8080, with `WEB-INF` in `app/`. -/
theorem startCmds_read_back_guestbook :
    appServerOf sampleLayout (splitWhitespace (createPython27StartCmd sampleLayout specDeployment
      "guestbook".toList "10.0.0.1".toList 8080 "/var/run/guestbook.pid".toList
      "guestbook_default_v1_1".toList 19999)) = some (.ok ("guestbook_default_v1_1".toList, 8080)) ∧
    appServerOf sampleLayout (["java".toList] ++ sampleLayout.javaAppserverClass :: (splitWhitespace
      (createJavaStartCmd sampleLayout specDeployment
        (fun base => pathJoin base ["app".toList, "WEB-INF".toList]) "guestbook".toList 8080
        "10.0.0.1".toList 200 "/var/run/guestbook.pid".toList "guestbook_default_v1_1".toList
        19999)).tail) = some (.ok ("guestbook_default_v1_1".toList, 8080)) :=
  let h := startCmds_read_back sampleLayout sampleLayout_consistent specDeployment
    (fun base => pathJoin base ["app".toList, "WEB-INF".toList]) "guestbook".toList
    "10.0.0.1".toList "/var/run/guestbook.pid".toList "guestbook_default_v1_1".toList
    "app".toList 8080 200 19999 ["java".toList] (by decide) (by decide) (by decide) (by decide)
    (by decide) (by decide) (by decide)
  ⟨h.1, h.2.1⟩

/-- The Java process of `guestbook_default_v1_1` on port 8080 when its `WEB-INF` is
    `app/war/WEB-INF` under the revision's directory, as the JVM sees its arguments. -/
def warInstanceProcess : Process :=
  ⟨4242, 4242, "java".toList :: sampleLayout.javaAppserverClass :: (splitWhitespace
    (createJavaStartCmd sampleLayout specDeployment
      (fun base => pathJoin base ["app".toList, "war".toList, "WEB-INF".toList])
      "guestbook".toList 8080 "10.0.0.1".toList 200 "/var/run/guestbook.pid".toList
      "guestbook_default_v1_1".toList 19999)).tail⟩

/-- With `WEB-INF` two directories below the revision, the Java branch reads the revision
    as `app`, and `clean_up_instances` selects the monitored instance for SIGKILL. -/
theorem cleanUpInstances_kills_war_instance :
    appServerOf sampleLayout warInstanceProcess.cmdline = some (.ok ("app".toList, 8080)) ∧
    cleanUpInstances sampleLayout [("guestbook_default_v1_1".toList, 8080)] [warInstanceProcess] =
      .ok [warInstanceProcess] :=
  ⟨rfl, rfl⟩

end AppManager
