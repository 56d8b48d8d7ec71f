import Krb5TokenService.Minting.Ccache
import Krb5TokenService.Minting.Classify

/-! `minting.py`: the three operations that run a child process. Buffers that
hold a secret are bytearrays on the shared heap, so that zeroing one is seen
by its owner. Everything the operating system may refuse is in `Env`. -/
namespace Krb5TokenService.Minting

open Python EventLoop Krb5TokenService.Action

structure MintedTicket where
  ccache : Bytes
  principal : PyStr
  realm : PyStr
  expiresAt : ℤ
  renewUntil : Option ℤ

section Bytearrays

/-- A reference to a bytearray on the heap. -/
abbrev Ref := Nat

def newBytearray (contents : Bytes) : Action Ref :=
  .act (fun w => { w with heap := w.heap ++ [contents] }) fun w => pure w.heap.length

def readBytearray (buf : Ref) : Action Bytes :=
  .act id fun w => pure (w.heap.getD buf [])

def updateBytearray (buf : Ref) (update : Bytes → Bytes) : Action Unit :=
  Task.modify fun w => { w with heap := w.heap.set buf (update (w.heap.getD buf [])) }

/-- `for i in range(i, i + count): buf[i] = 0`. -/
def zeroFrom (buf : Ref) : Nat → Nat → Action Unit
  | _, 0 => pure ()
  | i, count + 1 => do
      updateBytearray buf fun bytes => bytes.set i 0
      zeroFrom buf (i + 1) count

/-- `_zero_bytearray`. -/
def zeroBytearray (buf : Ref) : Action Unit := do
  let bytes ← readBytearray buf
  zeroFrom buf 0 bytes.length

def zeroIfGiven : Option Ref → Action Unit
  | none => pure ()
  | some buf => zeroBytearray buf

/-- `bytearray(password)` with `extend(b"\n")`. -/
def newStdinPayload (password : Ref) : Action Ref := do
  newBytearray ((← readBytearray password) ++ [0x0A])

end Bytearrays

section Files

def writeBytes (env : Env) (path : PyStr) (contents : Bytes) : Action Unit := do
  fileSystemStep env.writeInput
  Task.modify fun w => w.store path (some contents)

def readBytes (env : Env) (path : PyStr) : Action Bytes := do
  fileSystemStep env.readBack
  let w ← world
  match w.files path with
  | none => throw (.osError (py "No such file or directory"))
  | some contents => pure contents

def removeDirectory (env : Env) (directory : PyStr) : Action Unit := do
  fileSystemStep env.rmtree
  Task.modify fun w =>
    { w with files := fun path => if (directory ++ py "/") <+: path then none else w.files path }

/-- `with tempfile.TemporaryDirectory(dir=tmp_root) as tmpdir`. An error while
the directory is removed replaces whatever the body ended with. -/
def withTemporaryDirectory {α : Type} (env : Env) (body : PyStr → Action α) : Action α := do
  fileSystemStep env.mkdtemp
  (body env.tmpdir).andFinally (removeDirectory env env.tmpdir)

end Files

structure CompletedProcess where
  returncode : ℤ
  stdout : Bytes
  stderr : Bytes

/-- What `_run_subprocess` makes of the child's end: only a failed spawn and a
timeout are translated. -/
def completed (spec : ChildSpec) : ChildReply → Action CompletedProcess
  | .spawnFailed error => do
      log .error "subprocess_spawn_failed"
        [("binary", .str spec.binary), ("error", .str error), ("exc_info", .exc (.osError error))]
      throw (.minting (py "failed to invoke " ++ spec.binary))
  | .timedOut => do
      log .error "subprocess_timed_out"
        [("binary", .str spec.binary), ("context", .str spec.context),
          ("timeout", .int spec.timeoutSeconds), ("exc_info", .exc .timeoutExpired)]
      throw (.minting (spec.binary ++ py " timed out"))
  | .cancelled => throw .cancelled
  | .exited returncode stdout stderr output => do
      Task.modify fun w => w.store spec.output output
      pure ⟨returncode, stdout, stderr⟩

/-- `_run_subprocess`. -/
def runSubprocess (spec : ChildSpec) : Action CompletedProcess := do
  let reply : ChildReply ← Task.ask (Query.child spec)
  completed spec reply

/-- The branch for a non-zero exit status, shared by `mint_ticket` and
`mint_keytab`: a classified failure is raised, and logged with the child's
stderr unless it is the `expected` one of a mistyped credential. -/
def raiseFailure {α : Type} (event : String) (username stderr : PyStr) (returncode : ℤ)
    (classified : Option PyExc) (expected : PyExc → Bool) (unclassified : PyStr) : Action α :=
  match classified with
  | some exc => do
      if expected exc then pure ()
      else
        log .warning event
          [("returncode", .int returncode), ("stderr", .str stderr), ("username", .str username),
            ("classified", .str (exceptionName exc))]
      throw exc
  | none => do
      log .error event
        [("returncode", .int returncode), ("stderr", .str stderr), ("username", .str username)]
      throw (.minting (unclassified ++ py " exited " ++ py (toString returncode)))

/-- The read-back of `mint_ticket` and `mint_keytab`: a missing or unreadable
file and an empty one are `MintingError`s. -/
def readOutput (env : Env) (path username : PyStr) (missing empty : String)
    (noFile emptyFile : PyStr) : Action Bytes := do
  let contents ← tryCatch (readBytes env path) fun exc =>
    match exc with
    | .osError message => do
        log .error missing [("username", .str username), ("exc_info", .exc (.osError message))]
        throw (.minting noFile)
    | exc => throw exc
  if contents = [] then
    log .error empty [("username", .str username)]
    throw (.minting emptyFile)
  pure contents

section

variable (settings : Settings) (krb5 : Krb5) (env : Env)

def readCcacheFile (failure : Option PyStr) (path : PyStr) : Action CcacheInfo := do
  let w ← world
  Task.ofExcept (readCcache krb5 failure (w.files path))

/-- The `kinit` of `mint_ticket`, in a private directory. -/
def kinitSpec (username lifetime renewableLifetime : PyStr) (keytabMode : Bool)
    (stdin : Option Bytes) (tmpdir : PyStr) : ChildSpec where
  argv := [settings.kinitBin, py "-c", py "FILE:" ++ tmpdir ++ py "/ccache"] ++
    (if keytabMode then [py "-k", py "-t", tmpdir ++ py "/keytab"] else []) ++
    [py "-l", lifetime, py "-r", renewableLifetime, username ++ py "@" ++ settings.defaultRealm]
  stdin := stdin
  timeoutSeconds := settings.kinitTimeoutSeconds
  binary := settings.kinitBin
  context := username
  krb5Config := settings.krb5Config
  output := tmpdir ++ py "/ccache"

/-- The rest of `mint_ticket`'s private directory, once the child has ended. -/
def afterKinit (username : PyStr) (keytabMode : Bool) (tmpdir : PyStr)
    (result : CompletedProcess) : Action (Bytes × CcacheInfo) :=
  if result.returncode ≠ 0 then
    let stderr := stderrText result.stderr
    let classify := if keytabMode then classifyKeytabStderr else classifyPasswordStderr
    raiseFailure "kinit_failed" username stderr result.returncode (classify stderr)
      isBadCredential (py "kinit")
  else do
    let ccacheBytes ← readOutput env (tmpdir ++ py "/ccache") username
      "kinit_no_output" "kinit_empty_output"
      (py "kinit produced no ccache file") (py "kinit produced an empty ccache file")
    let info ← readCcacheFile krb5 env.krb5Output (tmpdir ++ py "/ccache")
    pure (ccacheBytes, info)

/-- The keytab, written where `kinit -k -t` reads it. -/
def writeKeytab (tmpdir : PyStr) : Option Ref → Action Unit
  | none => pure ()
  | some buf => do
      writeBytes env (tmpdir ++ py "/keytab") (← readBytearray buf)
      fileSystemStep env.chmodInput

def stdinBytes : Option Ref → Action (Option Bytes)
  | none => pure none
  | some payload => some <$> readBytearray payload

/-- The part of `mint_ticket` inside the private directory. -/
def kinitInDirectory (username : PyStr) (stdinPayload : Option Ref)
    (lifetime renewableLifetime : PyStr) (keytab : Option Ref) (tmpdir : PyStr) :
    Action (Bytes × CcacheInfo) := do
  writeKeytab env tmpdir keytab
  let stdin ← stdinBytes stdinPayload
  let result ← runSubprocess
    (kinitSpec settings username lifetime renewableLifetime keytab.isSome stdin tmpdir)
  afterKinit krb5 env username keytab.isSome tmpdir result

def stdinPayloadFor : Option Ref → Action (Option Ref)
  | none => pure none
  | some password => some <$> newStdinPayload password

def mintedTicket (ccache : Bytes × CcacheInfo) : MintedTicket :=
  ⟨ccache.1, ccache.2.principal, ccache.2.realm, ccache.2.expiresAt, ccache.2.renewUntil⟩

/-- `mint_ticket`. -/
def mintTicket (username : PyStr) (password : Option Ref) (lifetime renewableLifetime : PyStr)
    (keytab : Option Ref) : Action MintedTicket :=
  if password.isNone = keytab.isNone then
    throw (.valueError (py "mint_ticket requires exactly one of password or keytab"))
  else do
    fileSystemStep env.mkdirRoot
    let stdinPayload ← stdinPayloadFor password
    let ccache ← Task.andFinally
      (withTemporaryDirectory env
        (kinitInDirectory settings krb5 env username stdinPayload lifetime renewableLifetime
          keytab))
      (do
        zeroIfGiven stdinPayload
        zeroIfGiven password
        zeroIfGiven keytab)
    pure (mintedTicket ccache)

/-- The `kinit -R` of `renew_ticket`. -/
def renewSpec (tmpdir : PyStr) : ChildSpec where
  argv := [settings.kinitBin, py "-R", py "-c", py "FILE:" ++ tmpdir ++ py "/ccache"]
  stdin := none
  timeoutSeconds := settings.kinitTimeoutSeconds
  binary := settings.kinitBin
  context := py "renew"
  krb5Config := settings.krb5Config
  output := tmpdir ++ py "/ccache"

def afterRenew (tmpdir : PyStr) (result : CompletedProcess) : Action (Bytes × CcacheInfo) :=
  if result.returncode ≠ 0 then
    let stderr := stderrText result.stderr
    match classifyRenewStderr stderr with
    | some exc => throw exc
    | none => do
        log .error "kinit_renew_failed"
          [("returncode", .int result.returncode), ("stderr", .str stderr)]
        throw (.minting (py "kinit -R exited " ++ py (toString result.returncode)))
  else do
    let renewedBytes ← readBytes env (tmpdir ++ py "/ccache")
    if renewedBytes = [] then
      log .error "kinit_renew_empty_output" []
      throw (.minting (py "kinit -R produced an empty ccache file"))
    let info ← readCcacheFile krb5 env.krb5Output (tmpdir ++ py "/ccache")
    pure (renewedBytes, info)

/-- The part of `renew_ticket` inside the private directory. The caller's
cache is parsed before the child is started, and again afterwards. -/
def renewInDirectory (ccache : Bytes) (tmpdir : PyStr) : Action (Bytes × CcacheInfo) := do
  writeBytes env (tmpdir ++ py "/ccache") ccache
  fileSystemStep env.chmodInput
  let _ ← readCcacheFile krb5 env.krb5Input (tmpdir ++ py "/ccache")
  let result ← runSubprocess (renewSpec settings tmpdir)
  afterRenew krb5 env tmpdir result

/-- `renew_ticket`. -/
def renewTicket (ccache : Bytes) : Action MintedTicket := do
  fileSystemStep env.mkdirRoot
  let renewed ← withTemporaryDirectory env (renewInDirectory settings krb5 env ccache)
  pure (mintedTicket renewed)

/-- The `cern-get-keytab` of `mint_keytab`. -/
def keytabSpec (username : PyStr) (stdin : Bytes) (tmpdir : PyStr) : ChildSpec where
  argv := [env.executable, settings.cernGetKeytabBin, py "-u", py "-v", py "-l", username,
    py "--keytab", tmpdir ++ py "/keytab"]
  stdin := some stdin
  timeoutSeconds := settings.cernGetKeytabTimeoutSeconds
  binary := settings.cernGetKeytabBin
  context := username
  krb5Config := settings.krb5Config
  output := tmpdir ++ py "/keytab"

def afterKeytab (username : PyStr) (tmpdir : PyStr) (result : CompletedProcess) :
    Action Bytes :=
  if result.returncode ≠ 0 then
    let stderr := stderrText result.stderr
    raiseFailure "cern_get_keytab_failed" username stderr result.returncode
      (classifyCernGetKeytabStderr stderr) isBadPassword (py "cern-get-keytab")
  else
    readOutput env (tmpdir ++ py "/keytab") username
      "cern_get_keytab_no_output" "cern_get_keytab_empty_output"
      (py "cern-get-keytab produced no keytab file")
      (py "cern-get-keytab produced an empty keytab file")

/-- The part of `mint_keytab` inside the private directory. -/
def keytabInDirectory (username : PyStr) (stdinPayload : Ref) (tmpdir : PyStr) :
    Action Bytes := do
  let stdin ← readBytearray stdinPayload
  let result ← runSubprocess (keytabSpec settings env username stdin tmpdir)
  afterKeytab env username tmpdir result

/-- `mint_keytab`. -/
def mintKeytab (username : PyStr) (password : Ref) : Action Bytes := do
  fileSystemStep env.mkdirRoot
  let stdinPayload ← newStdinPayload password
  Task.andFinally
    (withTemporaryDirectory env (keytabInDirectory settings env username stdinPayload))
    (do
      zeroBytearray stdinPayload
      zeroBytearray password)

end

end Krb5TokenService.Minting
