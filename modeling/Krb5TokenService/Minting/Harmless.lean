import Krb5TokenService.EventLoop.Keeps
import Krb5TokenService.Minting.Mint

/-! The minting operations allocate buffers, overwrite them at their length,
change files and write log lines that are no audit lines. What all such changes
respect, they respect. -/
namespace Krb5TokenService.Minting

open Python EventLoop EventLoop.Task Krb5TokenService.Action

/-- A relation that all these changes respect. -/
structure Harmless (R : World → World → Prop) : Prop where
  refl : ∀ w, R w w
  alloc : ∀ w contents, R w { w with heap := w.heap ++ [contents] }
  update : ∀ (w : World) (buf : Ref) (bytes : Bytes),
    bytes.length = (w.heap.getD buf []).length → R w { w with heap := w.heap.set buf bytes }
  files : ∀ w files, R w { w with files := files }
  line : ∀ w level event fields, R w { w with log := w.log ++ [.line level event fields] }

namespace Harmless

variable {R : World → World → Prop} (h : Harmless R)

include h

section Steps

theorem keeps_log (level : LogLevel) (event : String) (fields : List (String × LogValue)) :
    (log level event fields).Keeps R :=
  keeps_modify fun w => h.line w level event fields

theorem keeps_world : world.Keeps R := keeps_get h.refl

theorem keeps_store (path : PyStr) (contents : Option Bytes) :
    (Task.modify fun w => w.store path contents : Action Unit).Keeps R :=
  keeps_modify fun w => h.files w _

/-- A new buffer is an allocation. -/
theorem keeps_newBytearray (contents : Bytes) : (newBytearray contents).Keeps R :=
  fun w => ⟨h.alloc w _, trivial⟩

theorem keeps_readBytearray (buf : Ref) : (readBytearray buf).Keeps R :=
  fun w => ⟨h.refl w, trivial⟩

omit h in
/-- A file-system step that fails changes nothing that the process sees. -/
theorem keeps_fileSystemStep (failure : Option PyStr) : (fileSystemStep failure).Keeps R := by
  cases failure with
  | none => exact keeps_pure ()
  | some message => exact keeps_throw _

/-- An update of one bytearray that keeps its length. -/
theorem keeps_updateBytearray (buf : Ref) {update : Bytes → Bytes}
    (hLength : ∀ bytes, (update bytes).length = bytes.length) :
    (updateBytearray buf update).Keeps R :=
  keeps_modify fun w => h.update w buf _ (hLength _)

/-- Zeroing goes byte by byte, so by induction on how many are left. -/
theorem keeps_zeroFrom (buf : Ref) (i count : Nat) : (zeroFrom buf i count).Keeps R := by
  induction count generalizing i with
  | zero => exact keeps_pure ()
  | succ count ih =>
      exact (h.keeps_updateBytearray buf fun _ => List.length_set).bind fun _ => ih (i + 1)

theorem keeps_zeroBytearray (buf : Ref) : (zeroBytearray buf).Keeps R :=
  (h.keeps_readBytearray buf).bind fun _ => h.keeps_zeroFrom buf 0 _

theorem keeps_zeroIfGiven (buf : Option Ref) : (zeroIfGiven buf).Keeps R := by
  cases buf with
  | none => exact keeps_pure ()
  | some buf => exact h.keeps_zeroBytearray buf

theorem keeps_newStdinPayload (password : Ref) : (newStdinPayload password).Keeps R :=
  (h.keeps_readBytearray password).bind fun _ => h.keeps_newBytearray _

end Steps

section Files

variable (env : Env)

theorem keeps_writeBytes (path : PyStr) (contents : Bytes) :
    (writeBytes env path contents).Keeps R :=
  (keeps_fileSystemStep env.writeInput).bind fun _ => h.keeps_store path (some contents)

theorem keeps_readBytes (path : PyStr) : (readBytes env path).Keeps R := by
  refine (keeps_fileSystemStep env.readBack).bind fun _ => h.keeps_world.bind fun w => ?_
  cases w.files path with
  | none => exact keeps_throw _
  | some contents => exact keeps_pure contents

/-- A private directory, around a body that keeps the relation. -/
theorem keeps_withTemporaryDirectory {α : Type} {body : PyStr → Action α}
    (hBody : ∀ tmpdir, (body tmpdir).Keeps R) : (withTemporaryDirectory env body).Keeps R :=
  (keeps_fileSystemStep env.mkdtemp).bind fun _ => (hBody env.tmpdir).andFinally
    ((keeps_fileSystemStep env.rmtree).bind fun _ => keeps_modify fun w => h.files w _)

theorem keeps_readOutput (path username : PyStr) (missing empty : String)
    (noFile emptyFile : PyStr) :
    (readOutput env path username missing empty noFile emptyFile).Keeps R := by
  refine ((h.keeps_readBytes env path).tryCatch fun exc => ?_).bind fun contents => ?_
  · cases exc with
    | osError message => exact (h.keeps_log _ _ _).bind fun _ => keeps_throw _
    | _ => exact keeps_throw _
  · by_cases hEmpty : contents = []
    · simp only [hEmpty, if_true]
      exact (h.keeps_log _ _ _).bind fun _ => keeps_throw _
    · simp only [hEmpty, if_false]
      exact keeps_pure contents

theorem keeps_readCcacheFile (krb5 : Krb5) (failure : Option PyStr) (path : PyStr) :
    (readCcacheFile krb5 failure path).Keeps R :=
  h.keeps_world.bind fun w => keeps_ofExcept (readCcache krb5 failure (w.files path))

end Files

section Children

/-- An await, and what the child's end logs or leaves behind. -/
theorem keeps_runSubprocess (spec : ChildSpec) : (runSubprocess spec).Keeps R := by
  refine (keeps_ask (Query.child spec)).bind fun reply => ?_
  cases reply with
  | spawnFailed error => exact (h.keeps_log _ _ _).bind fun _ => keeps_throw _
  | timedOut => exact (h.keeps_log _ _ _).bind fun _ => keeps_throw _
  | cancelled => exact keeps_throw _
  | exited returncode stdout stderr output =>
      exact (h.keeps_store _ _).bind fun _ => keeps_pure _

theorem keeps_raiseFailure {α : Type} (event : String) (username stderr : PyStr)
    (returncode : ℤ) (classified : Option PyExc) (expected : PyExc → Bool)
    (unclassified : PyStr) :
    (raiseFailure event username stderr returncode classified expected unclassified :
      Action α).Keeps R := by
  cases classified with
  | none => exact (h.keeps_log _ _ _).bind fun _ => keeps_throw _
  | some exc =>
      cases hExpected : expected exc with
      | false =>
          simp only [raiseFailure, hExpected]
          exact (h.keeps_log _ _ _).bind fun _ => keeps_throw _
      | true =>
          simp only [raiseFailure, hExpected]
          exact (keeps_pure ()).bind fun _ => keeps_throw _

end Children

section Operations

variable (settings : Settings) (krb5 : Krb5) (env : Env)

theorem keeps_afterKinit (username : PyStr) (keytabMode : Bool) (tmpdir : PyStr)
    (result : CompletedProcess) :
    (afterKinit krb5 env username keytabMode tmpdir result).Keeps R := by
  unfold afterKinit
  split
  · exact h.keeps_raiseFailure ..
  · exact (h.keeps_readOutput ..).bind fun _ =>
      (h.keeps_readCcacheFile krb5 _ _).bind fun _ => keeps_pure _

theorem keeps_kinitInDirectory (username : PyStr) (stdinPayload : Option Ref)
    (lifetime renewableLifetime : PyStr) (keytab : Option Ref) (tmpdir : PyStr) :
    (kinitInDirectory settings krb5 env username stdinPayload lifetime renewableLifetime keytab
      tmpdir).Keeps R := by
  refine Keeps.bind ?_ fun _ => Keeps.bind ?_ fun _ =>
    (h.keeps_runSubprocess _).bind fun _ => h.keeps_afterKinit ..
  · cases keytab with
    | none => exact keeps_pure ()
    | some buf =>
        exact (h.keeps_readBytearray buf).bind fun _ => (h.keeps_writeBytes ..).bind fun _ =>
          keeps_fileSystemStep env.chmodInput
  · cases stdinPayload with
    | none => exact keeps_pure none
    | some buf => exact (h.keeps_readBytearray buf).map some

/-- All of `mint_ticket`. -/
theorem keeps_mintTicket (username : PyStr) (password : Option Ref)
    (lifetime renewableLifetime : PyStr) (keytab : Option Ref) :
    (mintTicket settings krb5 env username password lifetime renewableLifetime keytab).Keeps
      R := by
  unfold mintTicket
  split
  · exact keeps_throw _
  · refine (keeps_fileSystemStep env.mkdirRoot).bind fun _ => Keeps.bind ?_ fun payload =>
      Keeps.bind ?_ fun _ => keeps_pure _
    · cases password with
      | none => exact keeps_pure none
      | some buf => exact (h.keeps_newStdinPayload buf).map some
    · exact (h.keeps_withTemporaryDirectory env fun _ => h.keeps_kinitInDirectory ..).andFinally
        ((h.keeps_zeroIfGiven payload).bind fun _ => (h.keeps_zeroIfGiven password).bind fun _ =>
          h.keeps_zeroIfGiven keytab)

theorem keeps_afterRenew (tmpdir : PyStr) (result : CompletedProcess) :
    (afterRenew krb5 env tmpdir result).Keeps R := by
  unfold afterRenew
  split
  · cases hClass : classifyRenewStderr (stderrText result.stderr) with
    | some exc => simpa only [hClass] using keeps_throw exc
    | none =>
        simp only [hClass]
        exact (h.keeps_log _ _ _).bind fun _ => keeps_throw _
  · refine (h.keeps_readBytes ..).bind fun renewed => ?_
    by_cases hEmpty : renewed = []
    · simp only [hEmpty, if_true]
      exact (h.keeps_log _ _ _).bind fun _ => keeps_throw _
    · simp only [hEmpty, if_false]
      exact (h.keeps_readCcacheFile krb5 _ _).bind fun _ => keeps_pure _

/-- All of `renew_ticket`. -/
theorem keeps_renewTicket (ccache : Bytes) :
    (renewTicket settings krb5 env ccache).Keeps R := by
  refine (keeps_fileSystemStep env.mkdirRoot).bind fun _ => Keeps.bind ?_ fun _ => keeps_pure _
  exact h.keeps_withTemporaryDirectory env fun tmpdir => (h.keeps_writeBytes ..).bind fun _ =>
    (keeps_fileSystemStep env.chmodInput).bind fun _ =>
      (h.keeps_readCcacheFile krb5 _ _).bind fun _ =>
        (h.keeps_runSubprocess _).bind fun _ => h.keeps_afterRenew ..

theorem keeps_afterKeytab (username tmpdir : PyStr) (result : CompletedProcess) :
    (afterKeytab env username tmpdir result).Keeps R := by
  unfold afterKeytab
  split
  · exact h.keeps_raiseFailure ..
  · exact h.keeps_readOutput ..

theorem keeps_keytabInDirectory (username : PyStr) (payload : Ref) (tmpdir : PyStr) :
    (keytabInDirectory settings env username payload tmpdir).Keeps R :=
  (h.keeps_readBytearray payload).bind fun _ => (h.keeps_runSubprocess _).bind fun _ =>
    h.keeps_afterKeytab ..

/-- All of `mint_keytab`. -/
theorem keeps_mintKeytab (username : PyStr) (password : Ref) :
    (mintKeytab settings env username password).Keeps R := by
  refine (keeps_fileSystemStep env.mkdirRoot).bind fun _ =>
    (h.keeps_newStdinPayload password).bind fun payload => Keeps.andFinally ?_
      ((h.keeps_zeroBytearray payload).bind fun _ => h.keeps_zeroBytearray password)
  exact h.keeps_withTemporaryDirectory env fun tmpdir =>
    h.keeps_keytabInDirectory settings env username payload tmpdir

end Operations

end Harmless

end Krb5TokenService.Minting
