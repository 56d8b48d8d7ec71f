import Krb5TokenService.EventLoop.Recorded
import Krb5TokenService.Minting.Verdict

/-! What the three operations log after their child, and the state in which
they start it: its arguments, its input and the file it is given. -/
namespace Krb5TokenService.Minting

open Python EventLoop EventLoop.Task Krb5TokenService.Action

abbrev Record := Recorded PyExc LogEvent

def recordLine (level : LogLevel) (event : String) (fields : List (String × LogValue)) :
    Record Unit :=
  .event (.line level event fields)

section Records

variable {α : Type}

/-- The child's end, as `_run_subprocess` logs it. -/
def childRecord (binary context : PyStr) (timeoutSeconds : Nat)
    (failed : ℤ → PyStr → Record α) (succeeded : Option Bytes → Record α) : ChildReply → Record α
  | .spawnFailed error => do
      recordLine .error "subprocess_spawn_failed"
        [("binary", .str binary), ("error", .str error), ("exc_info", .exc (.osError error))]
      throw (.minting (py "failed to invoke " ++ binary))
  | .timedOut => do
      recordLine .error "subprocess_timed_out"
        [("binary", .str binary), ("context", .str context), ("timeout", .int timeoutSeconds),
          ("exc_info", .exc .timeoutExpired)]
      throw (.minting (binary ++ py " timed out"))
  | .cancelled => throw .cancelled
  | .exited returncode _ stderr output =>
      if returncode ≠ 0 then failed returncode (stderrText stderr) else succeeded output

/-- What `raiseFailure` logs and raises. -/
def failureRecord (event : String) (username : PyStr) (classify : PyStr → Option PyExc)
    (expected : PyExc → Bool) (unclassified : PyStr) (returncode : ℤ) (stderr : PyStr) :
    Record α :=
  match classify stderr with
  | some exc => do
      if expected exc then pure ()
      else
        recordLine .warning event
          [("returncode", .int returncode), ("stderr", .str stderr), ("username", .str username),
            ("classified", .str (exceptionName exc))]
      throw exc
  | none => do
      recordLine .error event
        [("returncode", .int returncode), ("stderr", .str stderr), ("username", .str username)]
      throw (.minting (unclassified ++ py " exited " ++ py (toString returncode)))

def readRecord (env : Env) (output : Option Bytes) : Record Bytes :=
  .ofExcept (match env.readBack, output with
    | none, some contents => .ok contents
    | some message, _ => .error (.osError message)
    | none, none => .error (.osError (py "No such file or directory")))

def outputRecord (env : Env) (username : PyStr) (missing empty : String)
    (noFile emptyFile : PyStr) (output : Option Bytes) : Record Bytes := do
  let contents ← tryCatch (readRecord env output) fun exc =>
    match exc with
    | .osError message => do
        recordLine .error missing
          [("username", .str username), ("exc_info", .exc (.osError message))]
        throw (.minting noFile)
    | exc => throw exc
  if contents = [] then
    recordLine .error empty [("username", .str username)]
    throw (.minting emptyFile)
  pure contents

end Records

section

variable (settings : Settings) (krb5 : Krb5) (env : Env)

def parseRecord (ccache : Bytes) : Record (Bytes × CcacheInfo) := do
  let info ← .ofExcept (readCcache krb5 env.krb5Output (some ccache))
  pure (ccache, info)

def kinitRecord (username : PyStr) (keytabMode : Bool) :
    ChildReply → Record (Bytes × CcacheInfo) :=
  childRecord settings.kinitBin username settings.kinitTimeoutSeconds
    (failureRecord "kinit_failed" username (classifierOf keytabMode) isBadCredential (py "kinit"))
    fun output => do
      let ccache ← outputRecord env username "kinit_no_output" "kinit_empty_output"
        (py "kinit produced no ccache file") (py "kinit produced an empty ccache file") output
      parseRecord krb5 env ccache

def removalRecord : Record Unit := .ofExcept (removed env (.ok ()))

def ticketRecord (username : PyStr) (keytabMode : Bool) (reply : ChildReply) :
    Record MintedTicket := do
  let ccache ← (kinitRecord settings krb5 env username keytabMode reply).andFinally
    (removalRecord env)
  pure (mintedTicket ccache)

def renewFailureRecord {α : Type} (returncode : ℤ) (stderr : PyStr) : Record α :=
  match classifyRenewStderr stderr with
  | some exc => throw exc
  | none => do
      recordLine .error "kinit_renew_failed"
        [("returncode", .int returncode), ("stderr", .str stderr)]
      throw (.minting (py "kinit -R exited " ++ py (toString returncode)))

def kinitRenewRecord : ChildReply → Record (Bytes × CcacheInfo) :=
  childRecord settings.kinitBin (py "renew") settings.kinitTimeoutSeconds renewFailureRecord
    fun output => do
      let renewed ← readRecord env output
      if renewed = [] then
        recordLine .error "kinit_renew_empty_output" []
        throw (.minting (py "kinit -R produced an empty ccache file"))
      parseRecord krb5 env renewed

def renewalRecord (reply : ChildReply) : Record MintedTicket := do
  let ccache ← (kinitRenewRecord settings krb5 env reply).andFinally (removalRecord env)
  pure (mintedTicket ccache)

def keytabRecord (username : PyStr) (reply : ChildReply) : Record Bytes :=
  (childRecord settings.cernGetKeytabBin username settings.cernGetKeytabTimeoutSeconds
    (failureRecord "cern_get_keytab_failed" username classifyCernGetKeytabStderr isBadPassword
      (py "cern-get-keytab"))
    (outputRecord env username "cern_get_keytab_no_output" "cern_get_keytab_empty_output"
      (py "cern-get-keytab produced no keytab file")
      (py "cern-get-keytab produced an empty keytab file")) reply).andFinally
    (removalRecord env)

end

section Parts

variable {env : Env} {w : World} {α : Type}

theorem records_log (level : LogLevel) (event : String) (fields : List (String × LogValue)) :
    (log level event fields).Records World.log w (recordLine level event fields) :=
  ⟨_, rfl, rfl⟩

theorem records_log_throw (level : LogLevel) (event : String) (fields : List (String × LogValue))
    (exc : PyExc) :
    (do log level event fields; throw exc : Action α).Records World.log w
      (do recordLine level event fields; throw exc) :=
  (records_log level event fields).bind fun _ _ => records_throw exc

theorem records_raiseFailure (event : String) (username : PyStr)
    (classify : PyStr → Option PyExc) (expected : PyExc → Bool) (unclassified : PyStr)
    (returncode : ℤ) (stderr : PyStr) :
    (raiseFailure event username stderr returncode (classify stderr) expected unclassified :
      Action α).Records World.log w
        (failureRecord event username classify expected unclassified returncode stderr) := by
  unfold raiseFailure failureRecord
  cases classify stderr with
  | none => exact records_log_throw ..
  | some exc =>
      by_cases hExpected : expected exc = true
      · simp only [if_pos hExpected]
        exact records_throw exc
      · simp only [if_neg hExpected]
        exact records_log_throw ..

/-- Reading a file back: its contents, or an `OSError`, with no effect. -/
theorem advance_readBytes (path : PyStr) :
    (readBytes env path).advance w =
      (.finished
        (match env.readBack, w.files path with
        | none, some contents => .ok contents
        | some message, _ => .error (.osError message)
        | none, none => .error (.osError (py "No such file or directory"))), w) := by
  cases hRead : env.readBack with
  | some message => simp [readBytes, hRead, advance_bind]
  | none => cases hFile : w.files path <;> simp [readBytes, hRead, hFile, advance_bind]

variable (env) in
theorem advance_readOutput (path username : PyStr) (missing empty : String)
    (noFile emptyFile : PyStr) :
    ∃ w', (readOutput env path username missing empty noFile emptyFile).advance w =
      (.finished (outputVerdict env noFile emptyFile (w.files path)), w') ∧
      w'.files = w.files := by
  unfold readOutput outputVerdict
  cases hRead : env.readBack with
  | some message => simp [advance_bind, advance_tryCatch, advance_readBytes, hRead]
  | none =>
      cases hFile : w.files path with
      | none => simp [advance_bind, advance_tryCatch, advance_readBytes, hRead, hFile]
      | some contents =>
          by_cases hEmpty : contents = []
          · simp [advance_bind, advance_tryCatch, advance_readBytes, hRead, hFile, hEmpty]
          · simp [advance_bind, advance_tryCatch, advance_readBytes, hRead, hFile, hEmpty]

theorem advance_readCcacheFile (krb5 : Krb5) (failure : Option PyStr) {path : PyStr}
    {contents : Option Bytes} (hContents : w.files path = contents) :
    (readCcacheFile krb5 failure path).advance w =
      (.finished (readCcache krb5 failure contents), w) := by
  rw [← hContents]
  rfl

theorem writeBytes_finishes (hWrite : env.writeInput = none) (path : PyStr) (contents : Bytes) :
    (writeBytes env path contents).advance w =
      (.finished (.ok ()),
        w.store path (some contents)) := by
  simp [writeBytes, hWrite, advance_bind]

/-- Reading a file back leaves the state as it is. -/
theorem records_readBytes (path : PyStr) :
    (readBytes env path).Records World.log w (readRecord env (w.files path)) :=
  ⟨w, advance_readBytes path, (List.append_nil _).symm⟩

theorem records_readOutput (path username : PyStr) (missing empty : String)
    (noFile emptyFile : PyStr) :
    (readOutput env path username missing empty noFile emptyFile).Records World.log w
      (outputRecord env username missing empty noFile emptyFile (w.files path)) := by
  refine Records.bind (Records.tryCatch (records_readBytes path) fun exc _ => ?_)
    fun contents _ => ?_
  · cases exc with
    | osError message => exact records_log_throw ..
    | _ => exact records_throw _
  · by_cases hEmpty : contents = []
    · simp only [if_pos hEmpty]
      exact (records_log ..).bind fun _ _ =>
        (records_throw _).bind fun _ _ => records_pure contents
    · simp only [if_neg hEmpty]
      exact records_pure contents

/-- Whatever follows the child logs and decides by the child's result and the
file it left. -/
theorem runSubprocess_pauses (spec : ChildSpec) {after : CompletedProcess → Action α}
    {failed : ℤ → PyStr → Record α} {succeeded : Option Bytes → Record α}
    (hFailed : ∀ result w', result.returncode ≠ 0 →
      (after result).Records World.log w' (failed result.returncode (stderrText result.stderr)))
    (hSucceeded : ∀ result w', result.returncode = 0 →
      (after result).Records World.log w' (succeeded (w'.files spec.output))) :
    (runSubprocess spec >>= after).Pauses World.log w (.child spec) (· = w)
      (childRecord spec.binary spec.context spec.timeoutSeconds failed succeeded) := by
  refine ⟨_, w, rfl, rfl, fun reply w' => ?_⟩
  cases reply with
  | spawnFailed error => exact (records_log_throw _ _ _ _).error_bind after
  | timedOut => exact (records_log_throw _ _ _ _).error_bind after
  | cancelled => exact (records_throw PyExc.cancelled).error_bind after
  | exited returncode stdout stderr output =>
      refine Records.of_bind (f := after) rfl rfl ?_
      by_cases hZero : returncode = 0
      · have hEnd := hSucceeded ⟨returncode, stdout, stderr⟩
          (w'.store spec.output output) hZero
        simpa [childRecord, hZero] using hEnd
      · simpa [childRecord, hZero] using hFailed ⟨returncode, stdout, stderr⟩ _ hZero

theorem records_removeDirectory (directory : PyStr) :
    (removeDirectory env directory).Records World.log w (removalRecord env) := by
  unfold removalRecord removed removeDirectory
  cases env.rmtree with
  | none => exact ⟨_, rfl, (List.append_nil _).symm⟩
  | some message => exact ⟨_, rfl, (List.append_nil _).symm⟩

theorem withTemporaryDirectory_pauses (hMake : env.mkdtemp = none) {body : PyStr → Action α}
    {query : Query} {Found : World → Prop} {records : Reply query → Record α}
    (hBody : (body env.tmpdir).Pauses World.log w query Found records) :
    (withTemporaryDirectory env body).Pauses World.log w query Found fun r =>
      (records r).andFinally (removalRecord env) := by
  refine Pauses.of_bind (t := w) (a := ()) (by rw [hMake]; rfl) ?_
  exact hBody.andFinally fun _ => records_removeDirectory env.tmpdir

theorem records_zeroFrom (buf : Ref) (i count : Nat) :
    (zeroFrom buf i count).Records World.log w (pure ()) := by
  induction count generalizing i w with
  | zero => exact records_pure ()
  | succ count ih => exact .of_bind rfl rfl (ih (i + 1))

theorem records_zeroBytearray (buf : Ref) :
    (zeroBytearray buf).Records World.log w (pure ()) :=
  .of_bind rfl rfl (records_zeroFrom buf 0 _)

theorem records_zeroIfGiven (buf : Option Ref) :
    (zeroIfGiven buf).Records World.log w (pure ()) := by
  cases buf with
  | none => exact records_pure ()
  | some buf => exact records_zeroBytearray buf

/-- Zeroing the buffers logs nothing. -/
theorem records_zeroing (payload password keytab : Option Ref) :
    (do zeroIfGiven payload; zeroIfGiven password; zeroIfGiven keytab : Action Unit).Records
      World.log w (pure ()) :=
  (records_zeroIfGiven payload).bind fun _ _ =>
    (records_zeroIfGiven password).bind fun _ _ => records_zeroIfGiven keytab

theorem records_zeroBoth (payload password : Ref) :
    (do zeroBytearray payload; zeroBytearray password : Action Unit).Records World.log w
      (pure ()) :=
  (records_zeroBytearray payload).bind fun _ _ => records_zeroBytearray password

theorem andFinally_pure (record : Record α) : record.andFinally (pure ()) = record := by
  obtain ⟨outcome, events⟩ := record
  simp [Recorded.andFinally, pure, bind, Except.bind]

end Parts

section Operations

variable (settings : Settings) (krb5 : Krb5) {env : Env} {w : World}

theorem records_readCcacheFile (failure : Option PyStr) (path : PyStr) :
    (readCcacheFile krb5 failure path).Records World.log w
      (.ofExcept (readCcache krb5 failure (w.files path))) :=
  ⟨w, rfl, (List.append_nil _).symm⟩

theorem afterKinit_fails_records (username : PyStr) (keytabMode : Bool) (tmpdir : PyStr)
    (result : CompletedProcess) (hStatus : result.returncode ≠ 0) :
    (afterKinit krb5 env username keytabMode tmpdir result).Records World.log w
      (failureRecord "kinit_failed" username (classifierOf keytabMode) isBadCredential
        (py "kinit") result.returncode (stderrText result.stderr)) := by
  simp only [afterKinit, hStatus, if_true, ne_eq, not_false_eq_true]
  exact records_raiseFailure _ username (classifierOf keytabMode) ..

/-- The ccache is parsed from the file whose bytes were just read. -/
theorem afterKinit_succeeds_records (username : PyStr) (keytabMode : Bool) (tmpdir : PyStr)
    (result : CompletedProcess) (hStatus : result.returncode = 0) :
    (afterKinit krb5 env username keytabMode tmpdir result).Records World.log w
      (do
        let ccache ← outputRecord env username "kinit_no_output" "kinit_empty_output"
          (py "kinit produced no ccache file") (py "kinit produced an empty ccache file")
          (w.files (tmpdir ++ py "/ccache"))
        parseRecord krb5 env ccache) := by
  simp only [afterKinit, hStatus, ne_eq, not_true, if_false]
  refine (records_readOutput ..).bind_of fun ccache t hRead => ?_
  obtain ⟨w', hAdvance, hFiles⟩ := advance_readOutput (w := w) env
    (tmpdir ++ py "/ccache") username "kinit_no_output" "kinit_empty_output"
    (py "kinit produced no ccache file") (py "kinit produced an empty ccache file")
  obtain ⟨hOutput, rfl⟩ := Prod.mk.inj (hAdvance.symm.trans hRead)
  have hContents : w'.files (tmpdir ++ py "/ccache") = some ccache := by
    rw [hFiles]
    have hOutput := Turn.finished.inj hOutput
    unfold outputVerdict at hOutput
    grind
  have hParse := records_readCcacheFile krb5 (w := w') env.krb5Output (tmpdir ++ py "/ccache")
  rw [hContents] at hParse
  exact hParse.bind fun info _ => records_pure (ccache, info)

theorem afterRenew_fails_records (tmpdir : PyStr) (result : CompletedProcess)
    (hStatus : result.returncode ≠ 0) :
    (afterRenew krb5 env tmpdir result).Records World.log w
      (renewFailureRecord result.returncode (stderrText result.stderr)) := by
  simp only [afterRenew, hStatus, if_true, ne_eq, not_false_eq_true, renewFailureRecord]
  cases classifyRenewStderr (stderrText result.stderr) with
  | some exc => exact records_throw exc
  | none => exact records_log_throw ..

theorem afterRenew_succeeds_records (tmpdir : PyStr) (result : CompletedProcess)
    (hStatus : result.returncode = 0) :
    (afterRenew krb5 env tmpdir result).Records World.log w
      (do
        let renewed ← readRecord env (w.files (tmpdir ++ py "/ccache"))
        if renewed = [] then
          recordLine .error "kinit_renew_empty_output" []
          throw (.minting (py "kinit -R produced an empty ccache file"))
        parseRecord krb5 env renewed) := by
  simp only [afterRenew, hStatus, ne_eq, not_true, if_false]
  refine (records_readBytes ..).bind_of fun renewed t hRead => ?_
  rw [advance_readBytes] at hRead
  obtain ⟨hOutput, rfl⟩ := Prod.mk.inj hRead
  have hContents : w.files (tmpdir ++ py "/ccache") = some renewed := by
    have hOutput := Turn.finished.inj hOutput
    grind
  have hParse := records_readCcacheFile krb5 (w := w) env.krb5Output (tmpdir ++ py "/ccache")
  rw [hContents] at hParse
  have hRest := hParse.bind fun info _ => records_pure (renewed, info)
  by_cases hEmpty : renewed = []
  · simp only [if_pos hEmpty]
    exact (records_log ..).bind fun _ _ => (records_throw _).error_bind _
  · simp only [if_neg hEmpty]
    exact hRest

theorem afterKeytab_fails_records (username tmpdir : PyStr) (result : CompletedProcess)
    (hStatus : result.returncode ≠ 0) :
    (afterKeytab env username tmpdir result).Records World.log w
      (failureRecord "cern_get_keytab_failed" username classifyCernGetKeytabStderr isBadPassword
        (py "cern-get-keytab") result.returncode (stderrText result.stderr)) := by
  simp only [afterKeytab, hStatus, if_true, ne_eq, not_false_eq_true]
  exact records_raiseFailure _ username classifyCernGetKeytabStderr ..

theorem afterKeytab_succeeds_records (username tmpdir : PyStr) (result : CompletedProcess)
    (hStatus : result.returncode = 0) :
    (afterKeytab env username tmpdir result).Records World.log w
      (outputRecord env username "cern_get_keytab_no_output" "cern_get_keytab_empty_output"
        (py "cern-get-keytab produced no keytab file")
        (py "cern-get-keytab produced an empty keytab file")
        (w.files (tmpdir ++ py "/keytab"))) := by
  simp only [afterKeytab, hStatus, ne_eq, not_true, if_false]
  exact records_readOutput ..

variable (username lifetime renewableLifetime : PyStr)

/-- A private directory around a child, and what follows it. -/
theorem ticket_pauses {body : PyStr → Action (Bytes × CcacheInfo)} {query : Query}
    {Found : World → Prop} {records : Reply query → Record (Bytes × CcacheInfo)}
    (hMake : env.mkdtemp = none) (hBody : (body env.tmpdir).Pauses World.log w query Found records)
    {cleanup : Action Unit} (hCleanup : ∀ t, cleanup.Records World.log t (pure ())) :
    (do
        let ccache ← (withTemporaryDirectory env body).andFinally cleanup
        pure (mintedTicket ccache)).Pauses World.log w query Found fun r =>
      (records r).andFinally (removalRecord env) >>= fun ccache => pure (mintedTicket ccache) := by
  have hDirectory := ((withTemporaryDirectory_pauses hMake hBody).andFinally hCleanup).bind
    (f := fun ccache => pure (mintedTicket ccache)) (g := fun ccache => pure (mintedTicket ccache))
    fun ccache _ => records_pure (mintedTicket ccache)
  simpa only [andFinally_pure] using hDirectory

/-- With a password, `kinit` reads it and a line feed, and no file is written. -/
theorem mintTicket_pauses_password (hPrepared : Prepared env false) (buf : Ref) :
    (mintTicket settings krb5 env username (some buf) lifetime renewableLifetime none).Pauses
      World.log w
      (.child (kinitSpec settings username lifetime renewableLifetime false
        (some (w.heap.getD buf [] ++ [0x0A])) env.tmpdir))
      (fun t => t.log = w.log ∧ t.files = w.files)
      (ticketRecord settings krb5 env username false) := by
  have hStdin : (w.heap ++ [w.heap.getD buf [] ++ [0x0A]]).getD w.heap.length [] =
      w.heap.getD buf [] ++ [0x0A] := by simp
  have hBody : (kinitInDirectory settings krb5 env username (some w.heap.length) lifetime
      renewableLifetime none env.tmpdir).Pauses World.log
        { w with heap := w.heap ++ [w.heap.getD buf [] ++ [0x0A]] }
        (.child (kinitSpec settings username lifetime renewableLifetime false
          (some (w.heap.getD buf [] ++ [0x0A])) env.tmpdir))
        (fun t => t.log = w.log ∧ t.files = w.files)
        (kinitRecord settings krb5 env username false) := by
    refine .of_bind rfl (.of_bind rfl ?_)
    rw [hStdin]
    refine (runSubprocess_pauses _ ?_ ?_).mono fun t hFound =>
      ⟨by rw [hFound]; rfl, by rw [hFound]; rfl⟩
    · exact fun result w' hStatus =>
        afterKinit_fails_records krb5 username _ env.tmpdir result hStatus
    · exact fun result w' hStatus =>
        afterKinit_succeeds_records krb5 username _ env.tmpdir result hStatus
  unfold mintTicket
  rw [if_neg (by simp)]
  refine .of_bind (t := w) (a := ()) (by rw [hPrepared.mkdirRoot]; rfl) (.of_bind rfl ?_)
  exact ticket_pauses hPrepared.mkdtemp hBody fun _ => records_zeroing _ _ _

/-- With a keytab, it is written where `kinit` reads it. -/
theorem mintTicket_pauses_keytab (hPrepared : Prepared env true) (buf : Ref) :
    (mintTicket settings krb5 env username none lifetime renewableLifetime (some buf)).Pauses
      World.log w
      (.child (kinitSpec settings username lifetime renewableLifetime true none env.tmpdir))
      (fun t => t.log = w.log ∧
        t.files (env.tmpdir ++ py "/keytab") = some (w.heap.getD buf []))
      (ticketRecord settings krb5 env username true) := by
  obtain ⟨hWrite, hChmod⟩ := hPrepared.input rfl
  have hBody : (kinitInDirectory settings krb5 env username none lifetime
      renewableLifetime (some buf) env.tmpdir).Pauses World.log w
        (.child (kinitSpec settings username lifetime renewableLifetime true none env.tmpdir))
        (fun t => t.log = w.log ∧
          t.files (env.tmpdir ++ py "/keytab") = some (w.heap.getD buf []))
        (kinitRecord settings krb5 env username true) := by
    have hKeytab : (writeKeytab env env.tmpdir (some buf)).advance w = (.finished (.ok ()),
        w.store (env.tmpdir ++ py "/keytab") (some (w.heap.getD buf []))) := by
      rw [writeKeytab, advance_bind_ok (a := w.heap.getD buf []) (t := w) rfl,
        advance_bind_ok (writeBytes_finishes hWrite _ _), hChmod]
      rfl
    refine .of_bind hKeytab (.of_bind rfl ?_)
    refine (runSubprocess_pauses _ ?_ ?_).mono fun t hFound => ?_
    · exact fun result w' hStatus =>
        afterKinit_fails_records krb5 username _ env.tmpdir result hStatus
    · exact fun result w' hStatus =>
        afterKinit_succeeds_records krb5 username _ env.tmpdir result hStatus
    · rw [hFound]
      exact ⟨rfl, World.files_store_self ..⟩
  unfold mintTicket
  rw [if_neg (by simp)]
  refine .of_bind (t := w) (a := ()) (by rw [hPrepared.mkdirRoot]; rfl) (.of_bind rfl ?_)
  exact ticket_pauses hPrepared.mkdtemp hBody fun _ => records_zeroing _ _ _

/-- `kinit -R` finds the caller's cache, and works on it in place. -/
theorem renewTicket_pauses (hPrepared : Prepared env true) (ccache : Bytes) {info : CcacheInfo}
    (hInput : readCcache krb5 env.krb5Input (some ccache) = .ok info) :
    (renewTicket settings krb5 env ccache).Pauses World.log w
      (.child (renewSpec settings env.tmpdir))
      (fun t => t.log = w.log ∧ t.files (env.tmpdir ++ py "/ccache") = some ccache)
      (renewalRecord settings krb5 env) := by
  obtain ⟨hWrite, hChmod⟩ := hPrepared.input rfl
  have hBody : (renewInDirectory settings krb5 env ccache env.tmpdir).Pauses World.log w
      (.child (renewSpec settings env.tmpdir))
      (fun t => t.log = w.log ∧ t.files (env.tmpdir ++ py "/ccache") = some ccache)
      (kinitRenewRecord settings krb5 env) := by
    refine .of_bind (writeBytes_finishes hWrite _ _) (.of_bind (by rw [hChmod]; rfl) ?_)
    have hRead := advance_readCcacheFile krb5 env.krb5Input
      (w.files_store_self (env.tmpdir ++ py "/ccache") (some ccache))
    rw [hInput] at hRead
    refine .of_bind hRead ((runSubprocess_pauses _ ?_ ?_).mono fun t hFound => ?_)
    · exact fun result w' hStatus => afterRenew_fails_records krb5 env.tmpdir result hStatus
    · exact fun result w' hStatus => afterRenew_succeeds_records krb5 env.tmpdir result hStatus
    · rw [hFound]
      exact ⟨rfl, World.files_store_self ..⟩
  refine .of_bind (t := w) (a := ()) (by rw [hPrepared.mkdirRoot]; rfl) ?_
  exact (withTemporaryDirectory_pauses hPrepared.mkdtemp hBody).bind fun renewed _ =>
    records_pure (mintedTicket renewed)

theorem mintKeytab_pauses (hPrepared : Prepared env false) (password : Ref) :
    (mintKeytab settings env username password).Pauses World.log w
      (.child (keytabSpec settings env username (w.heap.getD password [] ++ [0x0A]) env.tmpdir))
      (fun t => t.log = w.log ∧ t.files = w.files) (keytabRecord settings env username) := by
  have hStdin : (w.heap ++ [w.heap.getD password [] ++ [0x0A]]).getD w.heap.length [] =
      w.heap.getD password [] ++ [0x0A] := by simp
  have hBody : (keytabInDirectory settings env username w.heap.length env.tmpdir).Pauses World.log
      { w with heap := w.heap ++ [w.heap.getD password [] ++ [0x0A]] }
      (.child (keytabSpec settings env username (w.heap.getD password [] ++ [0x0A]) env.tmpdir))
      (fun t => t.log = w.log ∧ t.files = w.files)
      (childRecord settings.cernGetKeytabBin username settings.cernGetKeytabTimeoutSeconds
        (failureRecord "cern_get_keytab_failed" username classifyCernGetKeytabStderr isBadPassword
          (py "cern-get-keytab"))
        (outputRecord env username "cern_get_keytab_no_output" "cern_get_keytab_empty_output"
          (py "cern-get-keytab produced no keytab file")
          (py "cern-get-keytab produced an empty keytab file"))) := by
    refine .of_bind rfl ?_
    rw [hStdin]
    refine (runSubprocess_pauses _ ?_ ?_).mono fun t hFound =>
      ⟨by rw [hFound]; rfl, by rw [hFound]; rfl⟩
    · exact fun result w' hStatus => afterKeytab_fails_records username env.tmpdir result hStatus
    · exact fun result w' hStatus => afterKeytab_succeeds_records username env.tmpdir result hStatus
  refine .of_bind (t := w) (a := ()) (by rw [hPrepared.mkdirRoot]; rfl) (.of_bind rfl ?_)
  have hEnd := (withTemporaryDirectory_pauses hPrepared.mkdtemp hBody).andFinally fun _ =>
    records_zeroBoth w.heap.length password
  simp only [andFinally_pure] at hEnd
  exact hEnd

end Operations

end Krb5TokenService.Minting
