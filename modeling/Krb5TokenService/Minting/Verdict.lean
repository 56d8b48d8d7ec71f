import Krb5TokenService.Minting.Mint

/-! What each minting operation comes to: whether its child is started, and
the outcome that the child's end then decides. -/
namespace Krb5TokenService.Minting

open Python EventLoop EventLoop.Task Krb5TokenService.Action

/-- The outcome of a child: the translated failures, and for an exit whatever
`failed` and `succeeded` make of its status, stderr and output file. -/
def childVerdict {α : Type} (binary : PyStr) (failed : ℤ → PyStr → PyExc)
    (succeeded : Option Bytes → Except PyExc α) : ChildReply → Except PyExc α
  | .spawnFailed _ => .error (.minting (py "failed to invoke " ++ binary))
  | .timedOut => .error (.minting (binary ++ py " timed out"))
  | .cancelled => .error .cancelled
  | .exited returncode _ stderr output =>
      if returncode ≠ 0 then .error (failed returncode (stderrText stderr))
      else succeeded output

/-- A non-zero exit: the classified exception, or a `MintingError`. -/
def failureVerdict (classify : PyStr → Option PyExc) (unclassified : PyStr) (returncode : ℤ)
    (stderr : PyStr) : PyExc :=
  (classify stderr).getD (.minting (unclassified ++ py " exited " ++ py (toString returncode)))

/-- The read-back of `mint_ticket` and `mint_keytab`. -/
def outputVerdict (env : Env) (noFile emptyFile : PyStr) (output : Option Bytes) :
    Except PyExc Bytes :=
  match env.readBack, output with
  | none, some contents => if contents = [] then .error (.minting emptyFile) else .ok contents
  | _, _ => .error (.minting noFile)

/-- The removal of the private directory has the last word. -/
def removed {α : Type} (env : Env) (result : Except PyExc α) : Except PyExc α :=
  match env.rmtree with
  | none => result
  | some message => .error (.osError message)

def classifierOf (keytabMode : Bool) : PyStr → Option PyExc :=
  if keytabMode then classifyKeytabStderr else classifyPasswordStderr

/-- The child exits with an error that `classify` takes for a bad password. -/
def BadPasswordExit (classify : PyStr → Option PyExc) (reply : ChildReply) : Prop :=
  ∃ returncode stdout stderr output message, reply = .exited returncode stdout stderr output ∧
    returncode ≠ 0 ∧ classify (stderrText stderr) = some (.badPassword message)

instance (classify : PyStr → Option PyExc) : DecidablePred (BadPasswordExit classify)
  | .spawnFailed _ | .timedOut | .cancelled =>
      .isFalse fun ⟨_, _, _, _, _, hReply, _⟩ => by cases hReply
  | .exited returncode stdout stderr output =>
      decidable_of_iff (returncode ≠ 0 ∧ (classify (stderrText stderr)).any isBadPassword = true)
        (by
          constructor
          · rintro ⟨hStatus, hClass⟩
            cases hSome : classify (stderrText stderr) with
            | none => simp [hSome] at hClass
            | some exc =>
                cases exc with
                | badPassword message =>
                    exact ⟨returncode, stdout, stderr, output, message, rfl, hStatus, hSome⟩
                | _ => simp [hSome, isBadPassword] at hClass
          · rintro ⟨_, _, _, _, _, hReply, hStatus, hClass⟩
            cases hReply
            exact ⟨hStatus, by rw [hClass]; rfl⟩)

section

variable (settings : Settings) (krb5 : Krb5) (env : Env)

def kinitVerdict (keytabMode : Bool) : ChildReply → Except PyExc (Bytes × CcacheInfo) :=
  childVerdict settings.kinitBin (failureVerdict (classifierOf keytabMode) (py "kinit"))
    fun output => do
      let ccache ← outputVerdict env (py "kinit produced no ccache file")
        (py "kinit produced an empty ccache file") output
      let info ← readCcache krb5 env.krb5Output (some ccache)
      pure (ccache, info)

def ticketVerdict (keytabMode : Bool) (reply : ChildReply) : Except PyExc MintedTicket :=
  mintedTicket <$> removed env (kinitVerdict settings krb5 env keytabMode reply)

/-- The read-back of `renew_ticket`, which has no `except OSError`. -/
def renewedBytesVerdict (output : Option Bytes) : Except PyExc Bytes :=
  match env.readBack, output with
  | some message, _ => .error (.osError message)
  | none, none => .error (.osError (py "No such file or directory"))
  | none, some contents =>
      if contents = [] then .error (.minting (py "kinit -R produced an empty ccache file"))
      else .ok contents

def kinitRenewVerdict : ChildReply → Except PyExc (Bytes × CcacheInfo) :=
  childVerdict settings.kinitBin (failureVerdict classifyRenewStderr (py "kinit -R"))
    fun output => do
      let renewed ← renewedBytesVerdict env output
      let info ← readCcache krb5 env.krb5Output (some renewed)
      pure (renewed, info)

def renewalVerdict (reply : ChildReply) : Except PyExc MintedTicket :=
  mintedTicket <$> removed env (kinitRenewVerdict settings krb5 env reply)

def cernGetKeytabVerdict : ChildReply → Except PyExc Bytes :=
  childVerdict settings.cernGetKeytabBin
    (failureVerdict classifyCernGetKeytabStderr (py "cern-get-keytab"))
    (outputVerdict env (py "cern-get-keytab produced no keytab file")
      (py "cern-get-keytab produced an empty keytab file"))

def keytabVerdict (reply : ChildReply) : Except PyExc Bytes :=
  removed env (cernGetKeytabVerdict settings env reply)

/-- Every file-system step before the child succeeds. -/
structure Prepared (writesInput : Bool) : Prop where
  mkdirRoot : env.mkdirRoot = none
  mkdtemp : env.mkdtemp = none
  input : writesInput = true → env.writeInput = none ∧ env.chmodInput = none

instance (writesInput : Bool) : Decidable (Prepared env writesInput) :=
  decidable_of_iff
    (env.mkdirRoot = none ∧ env.mkdtemp = none ∧
      (writesInput = true → env.writeInput = none ∧ env.chmodInput = none))
    ⟨fun h => ⟨h.1, h.2.1, h.2.2⟩, fun h => ⟨h.mkdirRoot, h.mkdtemp, h.input⟩⟩

end

section Values

variable {settings : Settings} {krb5 : Krb5} {env : Env} {reply : ChildReply}

theorem childVerdict_ok {α : Type} {value : α} {binary : PyStr} {failed : ℤ → PyStr → PyExc}
    {succeeded : Option Bytes → Except PyExc α}
    (h : childVerdict binary failed succeeded reply = .ok value) :
    ∃ stdout stderr output, reply = .exited 0 stdout stderr output ∧
      succeeded output = .ok value := by
  cases reply with
  | exited returncode stdout stderr output =>
      by_cases hZero : returncode = 0
      · subst hZero
        exact ⟨stdout, stderr, output, rfl, by simpa [childVerdict] using h⟩
      · simp [childVerdict, hZero] at h
  | _ => cases h

theorem removed_ok {α : Type} {value : α} {result : Except PyExc α}
    (h : removed env result = .ok value) : result = .ok value := by
  unfold removed at h
  split at h
  · exact h
  · cases h

/-- An error stays an error; which one, the removal may change. -/
theorem removed_error (env : Env) (α : Type) (exc : PyExc) :
    ∃ exc', removed env (.error exc : Except PyExc α) = .error exc' := by
  unfold removed
  cases env.rmtree with
  | none => exact ⟨exc, rfl⟩
  | some text => exact ⟨.osError text, rfl⟩

theorem removed_osError (env : Env) (α : Type) (message : PyStr) :
    ∃ text, removed env (.error (.osError message) : Except PyExc α) = .error (.osError text) := by
  unfold removed
  cases env.rmtree with
  | none => exact ⟨message, rfl⟩
  | some text => exact ⟨text, rfl⟩

theorem removed_bind {α : Type} (result : Except PyExc α) :
    (removed env (.ok ()) >>= fun _ => result) = removed env result := by
  unfold removed
  cases env.rmtree <;> rfl

theorem outputVerdict_ok {noFile emptyFile : PyStr} {output : Option Bytes} {contents : Bytes}
    (h : outputVerdict env noFile emptyFile output = .ok contents) : output = some contents := by
  unfold outputVerdict at h
  split at h
  · split at h
    · cases h
    · rw [Except.ok.inj h]
  · cases h

theorem renewedBytesVerdict_ok {output : Option Bytes} {contents : Bytes}
    (h : renewedBytesVerdict env output = .ok contents) : output = some contents := by
  unfold renewedBytesVerdict at h
  split at h
  · cases h
  · cases h
  · split at h
    · cases h
    · rw [Except.ok.inj h]

/-- The cache that is read back, with what it parses to. -/
theorem parsed_ok {output : Except PyExc Bytes} {ccache : Bytes × CcacheInfo}
    (h : (do
        let contents ← output
        let info ← readCcache krb5 env.krb5Output (some contents)
        pure (contents, info)) = .ok ccache) :
    output = .ok ccache.1 ∧ readCcache krb5 env.krb5Output (some ccache.1) = .ok ccache.2 := by
  cases output with
  | error exc => cases h
  | ok contents =>
      cases hInfo : readCcache krb5 env.krb5Output (some contents) with
      | error exc => simp [hInfo, bind, Except.bind] at h
      | ok info =>
          simp only [hInfo, bind, Except.bind, pure, Except.pure, Except.ok.injEq] at h
          subst h
          exact ⟨rfl, hInfo⟩

theorem mintedTicket_ok {result : Except PyExc (Bytes × CcacheInfo)} {minted : MintedTicket}
    (h : mintedTicket <$> result = .ok minted) :
    ∃ ccache, result = .ok ccache ∧ minted = mintedTicket ccache := by
  cases result with
  | error exc => cases h
  | ok ccache => exact ⟨ccache, rfl, (Except.ok.inj h).symm⟩

/-- A minted ticket is the cache that the child left, as it parses. -/
theorem ticketVerdict_ok {keytabMode : Bool} {minted : MintedTicket}
    (h : ticketVerdict settings krb5 env keytabMode reply = .ok minted) :
    ∃ stdout stderr contents info, reply = .exited 0 stdout stderr (some contents) ∧
      readCcache krb5 env.krb5Output (some contents) = .ok info ∧
      minted = mintedTicket (contents, info) := by
  obtain ⟨⟨contents, info⟩, hRemoved, hMinted⟩ := mintedTicket_ok h
  obtain ⟨stdout, stderr, output, hReply, hOutput⟩ := childVerdict_ok (removed_ok hRemoved)
  obtain ⟨hRead, hInfo⟩ := parsed_ok hOutput
  obtain rfl := outputVerdict_ok hRead
  exact ⟨stdout, stderr, contents, info, hReply, hInfo, hMinted⟩

theorem renewalVerdict_ok {minted : MintedTicket}
    (h : renewalVerdict settings krb5 env reply = .ok minted) :
    ∃ stdout stderr contents info, reply = .exited 0 stdout stderr (some contents) ∧
      readCcache krb5 env.krb5Output (some contents) = .ok info ∧
      minted = mintedTicket (contents, info) := by
  obtain ⟨⟨contents, info⟩, hRemoved, hMinted⟩ := mintedTicket_ok h
  obtain ⟨stdout, stderr, output, hReply, hOutput⟩ := childVerdict_ok (removed_ok hRemoved)
  obtain ⟨hRead, hInfo⟩ := parsed_ok hOutput
  obtain rfl := renewedBytesVerdict_ok hRead
  exact ⟨stdout, stderr, contents, info, hReply, hInfo, hMinted⟩

theorem keytabVerdict_ok {keytab : Bytes} (h : keytabVerdict settings env reply = .ok keytab) :
    ∃ stdout stderr, reply = .exited 0 stdout stderr (some keytab) := by
  obtain ⟨stdout, stderr, output, hReply, hOutput⟩ := childVerdict_ok (removed_ok h)
  obtain rfl := outputVerdict_ok hOutput
  exact ⟨stdout, stderr, hReply⟩

end Values

section Errors

variable {exc : PyExc}

/-- How a child's verdict can be an error: cancelled, an infrastructure
failure, a classified exit, or what an exit of 0 left behind. -/
theorem childVerdict_error {α : Type} {binary unclassified : PyStr}
    {classify : PyStr → Option PyExc} {succeeded : Option Bytes → Except PyExc α}
    {reply : ChildReply}
    (h : childVerdict binary (failureVerdict classify unclassified) succeeded reply = .error exc) :
    (reply = .cancelled ∧ exc = .cancelled) ∨ (∃ message, exc = .minting message) ∨
      (∃ returncode stdout stderr output, reply = .exited returncode stdout stderr output ∧
        returncode ≠ 0 ∧ classify (stderrText stderr) = some exc) ∨
      ∃ stdout stderr output, reply = .exited 0 stdout stderr output ∧
        succeeded output = .error exc := by
  cases reply with
  | spawnFailed error =>
      cases h
      exact .inr (.inl ⟨_, rfl⟩)
  | timedOut =>
      cases h
      exact .inr (.inl ⟨_, rfl⟩)
  | cancelled =>
      cases h
      exact .inl ⟨rfl, rfl⟩
  | exited returncode stdout stderr output =>
      by_cases hZero : returncode = 0
      · subst hZero
        exact .inr (.inr (.inr ⟨stdout, stderr, output, rfl, by simpa [childVerdict] using h⟩))
      · simp only [childVerdict, failureVerdict, ne_eq, hZero, not_false_eq_true, if_true,
          Except.error.injEq] at h
        cases hClass : classify (stderrText stderr) with
        | none =>
            rw [hClass] at h
            exact .inr (.inl ⟨_, h.symm⟩)
        | some classified =>
            rw [hClass] at h
            obtain rfl : classified = exc := h
            exact .inr (.inr (.inl ⟨returncode, stdout, stderr, output, rfl, hZero, hClass⟩))

theorem outputVerdict_error {env : Env} {noFile emptyFile : PyStr} {output : Option Bytes}
    (h : outputVerdict env noFile emptyFile output = .error exc) :
    ∃ message, exc = .minting message := by
  unfold outputVerdict at h
  split at h
  · split at h
    · cases h
      exact ⟨_, rfl⟩
    · simp at h
  · cases h
    exact ⟨_, rfl⟩

variable {settings : Settings} {krb5 : Krb5} {env : Env} {reply : ChildReply}

theorem kinitVerdict_error {keytabMode : Bool}
    (h : kinitVerdict settings krb5 env keytabMode reply = .error exc) :
    (reply = .cancelled ∧ exc = .cancelled) ∨ (∃ message, exc = .minting message) ∨
      (∃ returncode stdout stderr output, reply = .exited returncode stdout stderr output ∧
        returncode ≠ 0 ∧ classifierOf keytabMode (stderrText stderr) = some exc) ∨
      ∃ stdout stderr output ccache, reply = .exited 0 stdout stderr output ∧
        outputVerdict env (py "kinit produced no ccache file")
          (py "kinit produced an empty ccache file") output = .ok ccache ∧
        readCcache krb5 env.krb5Output (some ccache) = .error exc := by
  obtain hCancelled | hMinting | hClass | ⟨stdout, stderr, output, hReply, hRead⟩ :=
    childVerdict_error h
  · exact .inl hCancelled
  · exact .inr (.inl hMinting)
  · exact .inr (.inr (.inl hClass))
  · cases hOutput : outputVerdict env (py "kinit produced no ccache file")
        (py "kinit produced an empty ccache file") output with
    | error exc' =>
        rw [hOutput] at hRead
        obtain rfl : exc' = exc := Except.error.inj hRead
        exact .inr (.inl (outputVerdict_error hOutput))
    | ok ccache =>
        refine .inr (.inr (.inr ⟨stdout, stderr, output, ccache, hReply, hOutput, ?_⟩))
        rw [hOutput] at hRead
        cases hInfo : readCcache krb5 env.krb5Output (some ccache) with
        | error exc' => simpa [hInfo, bind, Except.bind] using hRead
        | ok info => simp [hInfo, bind, Except.bind, pure, Except.pure] at hRead

/-- A ticket is refused for a bad password exactly when the child exited so
and the private directory was removed. -/
theorem ticketVerdict_badPassword_iff {keytabMode : Bool} :
    (∃ message, ticketVerdict settings krb5 env keytabMode reply = .error (.badPassword message)) ↔
      BadPasswordExit (classifierOf keytabMode) reply ∧ env.rmtree = none := by
  unfold ticketVerdict removed BadPasswordExit
  cases hRemove : env.rmtree with
  | some text => simp
  | none =>
      constructor
      · rintro ⟨message, h⟩
        have hKinit : kinitVerdict settings krb5 env keytabMode reply =
            .error (.badPassword message) := by
          cases hKinit : kinitVerdict settings krb5 env keytabMode reply with
          | ok ccache => simp [hKinit] at h
          | error exc => simpa [hKinit] using h
        obtain ⟨_, hExc⟩ | ⟨_, hExc⟩ | ⟨returncode, stdout, stderr, output, hExit⟩ |
          ⟨_, _, _, _, _, _, hRead⟩ := kinitVerdict_error hKinit
        · cases hExc
        · cases hExc
        · exact ⟨⟨returncode, stdout, stderr, output, message, hExit⟩, rfl⟩
        · have hCases := readCcache_error hRead
          simp at hCases
      · rintro ⟨⟨returncode, stdout, stderr, output, message, rfl, hStatus, hClass⟩, _⟩
        exact ⟨message, by simp [kinitVerdict, childVerdict, failureVerdict, hStatus, hClass]⟩

/-- In keytab mode no outcome is a bad password. -/
theorem ticketVerdict_keytab_ne_badPassword (message : PyStr) :
    ticketVerdict settings krb5 env true reply ≠ .error (.badPassword message) := by
  intro h
  obtain ⟨⟨_, _, _, _, _, _, _, hClass⟩, _⟩ := ticketVerdict_badPassword_iff.mp ⟨message, h⟩
  have hCases := classifyKeytabStderr_cases hClass
  simp at hCases

theorem keytabVerdict_badPassword_iff :
    (∃ message, keytabVerdict settings env reply = .error (.badPassword message)) ↔
      BadPasswordExit classifyCernGetKeytabStderr reply ∧ env.rmtree = none := by
  unfold keytabVerdict removed BadPasswordExit
  cases hRemove : env.rmtree with
  | some text => simp
  | none =>
      constructor
      · rintro ⟨message, h⟩
        obtain ⟨_, hExc⟩ | ⟨_, hExc⟩ | ⟨returncode, stdout, stderr, output, hExit⟩ |
          ⟨_, _, _, _, hOutput⟩ := childVerdict_error h
        · cases hExc
        · cases hExc
        · exact ⟨⟨returncode, stdout, stderr, output, message, hExit⟩, rfl⟩
        · obtain ⟨_, hExc⟩ := outputVerdict_error hOutput
          cases hExc
      · rintro ⟨⟨returncode, stdout, stderr, output, message, rfl, hStatus, hClass⟩, _⟩
        exact ⟨message,
          by simp [cernGetKeytabVerdict, childVerdict, failureVerdict, hStatus, hClass]⟩

end Errors

end Krb5TokenService.Minting
