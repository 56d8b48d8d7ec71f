import Krb5TokenService.Minting.Logged

/-! How each operation behaves for its caller: it fails before a child is
started, or it awaits one child, whose end alone decides the outcome. -/
namespace Krb5TokenService.Minting

open Python EventLoop EventLoop.Task Krb5TokenService.Action

section Outcomes

variable {α : Type}

@[simp] theorem recordLine_outcome (level : LogLevel) (event : String)
    (fields : List (String × LogValue)) : (recordLine level event fields).outcome = .ok () := rfl

/-- The outcome of a child is decided by its end, whatever is logged of it. -/
theorem childRecord_outcome {binary context : PyStr} {timeoutSeconds : Nat}
    {failed : ℤ → PyStr → Record α} {succeeded : Option Bytes → Record α}
    {fails : ℤ → PyStr → PyExc} {succeeds : Option Bytes → Except PyExc α}
    (hFailed : ∀ returncode stderr,
      (failed returncode stderr).outcome = .error (fails returncode stderr))
    (hSucceeded : ∀ output, (succeeded output).outcome = succeeds output) (reply : ChildReply) :
    (childRecord binary context timeoutSeconds failed succeeded reply).outcome =
      childVerdict binary fails succeeds reply := by
  cases reply with
  | exited returncode stdout stderr output =>
      by_cases hZero : returncode = 0
      · simp [childRecord, childVerdict, hZero, hSucceeded]
      · simp [childRecord, childVerdict, hZero, hFailed]
  | _ => rfl

/-- An exit status other than 0 is raised as its stderr is classified. -/
theorem failureRecord_outcome (event : String) (username : PyStr)
    (classify : PyStr → Option PyExc) (expected : PyExc → Bool) (unclassified : PyStr)
    (returncode : ℤ) (stderr : PyStr) :
    (failureRecord event username classify expected unclassified returncode stderr :
      Record α).outcome = .error (failureVerdict classify unclassified returncode stderr) := by
  unfold failureRecord failureVerdict
  cases classify stderr with
  | none => rfl
  | some exc =>
      by_cases hExpected : expected exc = true
      · simp only [if_pos hExpected]
        rfl
      · simp only [if_neg hExpected]
        rfl

theorem renewFailureRecord_outcome (returncode : ℤ) (stderr : PyStr) :
    (renewFailureRecord returncode stderr : Record α).outcome =
      .error (failureVerdict classifyRenewStderr (py "kinit -R") returncode stderr) := by
  unfold renewFailureRecord failureVerdict
  cases classifyRenewStderr stderr <;> rfl

/-- An output file that is missing or empty is an error of its own. -/
theorem outputRecord_outcome (env : Env) (username : PyStr) (missing empty : String)
    (noFile emptyFile : PyStr) (output : Option Bytes) :
    (outputRecord env username missing empty noFile emptyFile output).outcome =
      outputVerdict env noFile emptyFile output := by
  unfold outputRecord readRecord outputVerdict
  cases env.readBack with
  | some message => rfl
  | none =>
      cases output with
      | none => rfl
      | some contents => cases contents <;> rfl

variable (settings : Settings) (krb5 : Krb5) (env : Env)

theorem parseRecord_outcome (ccache : Bytes) :
    (parseRecord krb5 env ccache).outcome = (do
      let info ← readCcache krb5 env.krb5Output (some ccache)
      pure (ccache, info)) := by
  unfold parseRecord
  cases readCcache krb5 env.krb5Output (some ccache) <;> rfl

theorem kinitRecord_outcome (username : PyStr) (keytabMode : Bool) (reply : ChildReply) :
    (kinitRecord settings krb5 env username keytabMode reply).outcome =
      kinitVerdict settings krb5 env keytabMode reply :=
  childRecord_outcome (failureRecord_outcome _ username _ _ _)
    (fun output => by
      simp only [Recorded.outcome_bind, outputRecord_outcome, parseRecord_outcome]) reply

/-- Reading the renewed cache back, with the check for an empty file. -/
theorem renewedRecord_outcome (output : Option Bytes) :
    (do
        let renewed ← readRecord env output
        if renewed = [] then
          recordLine .error "kinit_renew_empty_output" []
          throw (.minting (py "kinit -R produced an empty ccache file"))
        parseRecord krb5 env renewed : Record (Bytes × CcacheInfo)).outcome =
      (do
        let renewed ← renewedBytesVerdict env output
        let info ← readCcache krb5 env.krb5Output (some renewed)
        pure (renewed, info)) := by
  unfold readRecord renewedBytesVerdict
  cases env.readBack with
  | some message => rfl
  | none =>
      cases output with
      | none => rfl
      | some contents =>
          cases contents with
          | nil => rfl
          | cons byte bytes => exact parseRecord_outcome krb5 env (byte :: bytes)

/-- The private directory is removed last, and that may fail. -/
theorem removal_outcome (record : Record α) :
    (record.andFinally (removalRecord env)).outcome = removed env record.outcome :=
  removed_bind record.outcome

/-- `mint_ticket`, from its child's end on. -/
theorem ticketRecord_outcome (username : PyStr) (keytabMode : Bool) (reply : ChildReply) :
    (ticketRecord settings krb5 env username keytabMode reply).outcome =
      ticketVerdict settings krb5 env keytabMode reply := by
  rw [ticketRecord, Recorded.outcome_bind, removal_outcome, kinitRecord_outcome, ticketVerdict]
  cases removed env (kinitVerdict settings krb5 env keytabMode reply) <;> rfl

/-- `renew_ticket`, from its child's end on. -/
theorem renewalRecord_outcome (reply : ChildReply) :
    (renewalRecord settings krb5 env reply).outcome = renewalVerdict settings krb5 env reply := by
  have hKinit : (kinitRenewRecord settings krb5 env reply).outcome =
      kinitRenewVerdict settings krb5 env reply :=
    childRecord_outcome renewFailureRecord_outcome (renewedRecord_outcome krb5 env) reply
  rw [renewalRecord, Recorded.outcome_bind, removal_outcome, hKinit, renewalVerdict]
  cases removed env (kinitRenewVerdict settings krb5 env reply) <;> rfl

/-- `mint_keytab`, from its child's end on. -/
theorem keytabRecord_outcome (username : PyStr) (reply : ChildReply) :
    (keytabRecord settings env username reply).outcome = keytabVerdict settings env reply := by
  rw [keytabRecord, removal_outcome, keytabVerdict, cernGetKeytabVerdict]
  rw [childRecord_outcome (failureRecord_outcome _ username _ _ _)
    (outputRecord_outcome env username _ _ _ _)]

end Outcomes

section Directory

variable {env : Env} {w : World} {α : Type}

/-- A private directory that is made: the body decides, then the removal. -/
theorem withTemporaryDirectory_finishes (hMake : env.mkdtemp = none) {body : PyStr → Action α}
    {result : Except PyExc α} (hBody : (body env.tmpdir).Finishes w result) :
    (withTemporaryDirectory env body).Finishes w (removed env result) := by
  refine Finishes.of_bind (t := w) (a := ()) (by rw [hMake]; rfl) ?_
  rw [← removed_bind]
  exact hBody.andFinally fun _ => (records_removeDirectory env.tmpdir).finishes

/-- A private directory that cannot be made. -/
theorem withTemporaryDirectory_fails {message : PyStr} (hMake : env.mkdtemp = some message)
    (body : PyStr → Action α) :
    (withTemporaryDirectory env body).Finishes w (.error (.osError message)) :=
  ⟨w, by simp [withTemporaryDirectory, hMake, advance_bind]⟩

variable (env) in
/-- A directory that cannot be made, or a body that ends in an `OSError`. -/
theorem withTemporaryDirectory_osError {body : PyStr → Action α}
    (hBody : env.mkdtemp = none →
      ∃ message, (body env.tmpdir).Finishes w (.error (.osError message))) :
    ∃ message, (withTemporaryDirectory env body).Finishes w (.error (.osError message)) := by
  cases hMake : env.mkdtemp with
  | some message => exact ⟨message, withTemporaryDirectory_fails hMake body⟩
  | none =>
      obtain ⟨message, hEnd⟩ := hBody hMake
      obtain ⟨text, hText⟩ := removed_osError env α message
      exact ⟨text, hText ▸ withTemporaryDirectory_finishes hMake hEnd⟩

end Directory

section Operations

variable (settings : Settings) (krb5 : Krb5) (env : Env) {w : World}

/-- A keytab that cannot be written, or not be made private. -/
theorem writeKeytab_unprepared (tmpdir : PyStr) {keytab : Option Ref}
    (hInput : ¬ (keytab.isSome = true → env.writeInput = none ∧ env.chmodInput = none)) :
    ∃ message, (writeKeytab env tmpdir keytab).Finishes w (.error (.osError message)) := by
  cases keytab with
  | none => simp at hInput
  | some buf =>
      cases hWrite : env.writeInput with
      | some message =>
          have hFails : (writeBytes env (tmpdir ++ py "/keytab") (w.heap.getD buf [])).Finishes w
              (.error (.osError message)) :=
            ⟨w, by simp [writeBytes, hWrite, advance_bind]⟩
          exact ⟨message, Finishes.of_bind (a := w.heap.getD buf []) (t := w) rfl
            (hFails.error_bind _)⟩
      | none =>
          cases hChmod : env.chmodInput with
          | some message =>
              refine ⟨message, Finishes.of_bind (a := w.heap.getD buf []) (t := w) rfl ?_⟩
              exact .of_bind (writeBytes_finishes hWrite _ _) ⟨_, by rw [hChmod]; rfl⟩
          | none => simp [hWrite, hChmod] at hInput

section MintTicket

variable (username lifetime renewableLifetime : PyStr) {password keytab : Option Ref}

/-- Without its files `mint_ticket` ends in an `OSError`, and starts no child.
-/
theorem mintTicket_unprepared (hOne : password.isNone ≠ keytab.isNone)
    (hUnprepared : ¬ Prepared env keytab.isSome) :
    ∃ message, (mintTicket settings krb5 env username password lifetime renewableLifetime
      keytab).Finishes w (.error (.osError message)) := by
  unfold mintTicket
  rw [if_neg hOne]
  cases hRoot : env.mkdirRoot with
  | some message => exact ⟨message, w, by simp [advance_bind]⟩
  | none =>
      obtain ⟨payload, w₁, hPayload⟩ : ∃ payload w₁,
          (stdinPayloadFor password).advance w = (.finished (.ok payload), w₁) := by
        cases password <;> exact ⟨_, _, rfl⟩
      have hDirectory : ∃ message, (withTemporaryDirectory env (kinitInDirectory settings krb5 env
          username payload lifetime renewableLifetime keytab)).Finishes w₁
            (.error (.osError message)) := by
        refine withTemporaryDirectory_osError env fun hMake => ?_
        have hInput : ¬ (keytab.isSome = true → env.writeInput = none ∧ env.chmodInput = none) :=
          fun hInput => hUnprepared ⟨hRoot, hMake, hInput⟩
        obtain ⟨message, hWrite⟩ := writeKeytab_unprepared env (w := w₁) env.tmpdir hInput
        exact ⟨message, hWrite.error_bind _⟩
      obtain ⟨message, hEnd⟩ := hDirectory
      refine ⟨message, .of_bind (t := w) (a := ()) rfl (.of_bind hPayload ?_)⟩
      exact (hEnd.andFinally fun _ =>
        (records_zeroing payload password keytab).finishes).error_bind _

/-- With them it awaits one `kinit`. -/
theorem mintTicket_asks (hOne : password.isNone ≠ keytab.isNone)
    (hPrepared : Prepared env keytab.isSome) :
    ∃ stdin, (mintTicket settings krb5 env username password lifetime renewableLifetime
      keytab).Asks w
        (.child (kinitSpec settings username lifetime renewableLifetime keytab.isSome stdin
          env.tmpdir))
        (ticketVerdict settings krb5 env keytab.isSome) := by
  have hOutcome := ticketRecord_outcome settings krb5 env username keytab.isSome
  cases password with
  | none =>
      cases keytab with
      | none => exact absurd rfl hOne
      | some buf =>
          exact ⟨none, (mintTicket_pauses_keytab settings krb5 username lifetime
            renewableLifetime hPrepared buf).asks hOutcome⟩
  | some buf =>
      cases keytab with
      | none =>
          exact ⟨_, (mintTicket_pauses_password settings krb5 username lifetime
            renewableLifetime hPrepared buf).asks hOutcome⟩
      | some _ => exact absurd rfl hOne

end MintTicket

section RenewTicket

variable (ccache : Bytes)

/-- Without its files `renew_ticket` ends in an `OSError` too. -/
theorem renewTicket_unprepared (hUnprepared : ¬ Prepared env true) :
    ∃ message, (renewTicket settings krb5 env ccache).Finishes w (.error (.osError message)) := by
  unfold renewTicket
  cases hRoot : env.mkdirRoot with
  | some message => exact ⟨message, w, by simp [advance_bind]⟩
  | none =>
      have hDirectory : ∃ message, (withTemporaryDirectory env
          (renewInDirectory settings krb5 env ccache)).Finishes w (.error (.osError message)) := by
        refine withTemporaryDirectory_osError env fun hMake => ?_
        cases hWrite : env.writeInput with
        | some message =>
            exact ⟨message, w, by simp [renewInDirectory, writeBytes, hWrite, advance_bind]⟩
        | none =>
            cases hChmod : env.chmodInput with
            | some message =>
                refine ⟨message, .of_bind (writeBytes_finishes hWrite _ _) ?_⟩
                exact Finishes.error_bind ⟨_, by rw [hChmod]; rfl⟩ _
            | none => exact absurd ⟨hRoot, hMake, fun _ => ⟨hWrite, hChmod⟩⟩ hUnprepared
      obtain ⟨message, hEnd⟩ := hDirectory
      exact ⟨message, .of_bind (t := w) (a := ()) rfl (hEnd.error_bind _)⟩

/-- The caller's own cache does not parse: no child is started. -/
theorem renewTicket_rejects (hPrepared : Prepared env true) {exc : PyExc}
    (hInput : readCcache krb5 env.krb5Input (some ccache) = .error exc) :
    (renewTicket settings krb5 env ccache).Finishes w (removed env (.error exc)) := by
  obtain ⟨hWrite, hChmod⟩ := hPrepared.input rfl
  have hBody : (renewInDirectory settings krb5 env ccache env.tmpdir).Finishes w (.error exc) := by
    refine .of_bind (writeBytes_finishes hWrite _ _) (.of_bind (by rw [hChmod]; rfl) ?_)
    refine Finishes.error_bind ⟨w.store (env.tmpdir ++ py "/ccache") (some ccache), ?_⟩ _
    rw [advance_readCcacheFile krb5 env.krb5Input (w.files_store_self _ _), hInput]
  have hEnd := (withTemporaryDirectory_finishes hPrepared.mkdtemp hBody).bind
    (f := fun renewed => pure (mintedTicket renewed))
    (g := fun renewed => .ok (mintedTicket renewed)) fun renewed _ => finishes_pure _
  refine .of_bind (t := w) (a := ()) (by rw [hPrepared.mkdirRoot]; rfl) ?_
  cases hRemoved : env.rmtree <;> simpa [removed, hRemoved, bind, Except.bind] using hEnd

/-- A cache that parses is handed to one `kinit -R`. -/
theorem renewTicket_asks (hPrepared : Prepared env true) {info : CcacheInfo}
    (hInput : readCcache krb5 env.krb5Input (some ccache) = .ok info) :
    (renewTicket settings krb5 env ccache).Asks w (.child (renewSpec settings env.tmpdir))
      (renewalVerdict settings krb5 env) :=
  (renewTicket_pauses settings krb5 hPrepared ccache hInput).asks
    (renewalRecord_outcome settings krb5 env)

end RenewTicket

section MintKeytab

variable (username : PyStr) (password : Ref)

/-- `mint_keytab` writes no input, so only its directory can be missing. -/
theorem mintKeytab_unprepared (hUnprepared : ¬ Prepared env false) :
    ∃ message, (mintKeytab settings env username password).Finishes w
      (.error (.osError message)) := by
  unfold mintKeytab
  cases hRoot : env.mkdirRoot with
  | some message => exact ⟨message, w, by simp [advance_bind]⟩
  | none =>
      cases hMake : env.mkdtemp with
      | some message =>
          refine ⟨message, .of_bind (t := w) (a := ()) rfl (.of_bind rfl ?_)⟩
          exact (withTemporaryDirectory_fails hMake _).andFinally fun _ =>
            (records_zeroBoth _ _).finishes
      | none => exact absurd ⟨hRoot, hMake, by simp⟩ hUnprepared

/-- Then it awaits one `cern-get-keytab`. -/
theorem mintKeytab_asks (hPrepared : Prepared env false) :
    ∃ stdin, (mintKeytab settings env username password).Asks w
      (.child (keytabSpec settings env username stdin env.tmpdir))
      (keytabVerdict settings env) :=
  ⟨_, (mintKeytab_pauses settings username hPrepared password).asks
    (keytabRecord_outcome settings env username)⟩

end MintKeytab

end Operations

end Krb5TokenService.Minting
