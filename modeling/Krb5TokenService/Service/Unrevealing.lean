import Krb5TokenService.Service.Started

/-! What the log says of a secret: nothing. Two requests that differ only in
the password, the keytab or the cache they carry, and whose children end alike,
log the same events. -/
namespace Krb5TokenService.Service

open Python Python.Base64 EventLoop EventLoop.Task EventLoop.Recorded
open RateLimit Identity Minting

/-- The two requests differ at most in the secret they carry. -/
def SameButSecret : Endpoint → Endpoint → Prop
  | .mint body, .mint body' =>
      body.username = body'.username ∧ body.lifetime = body'.lifetime ∧
        body.renewableLifetime = body'.renewableLifetime ∧
        body.password.isNone = body'.password.isNone
  | .renew _, .renew _ => True
  | .keytab body, .keytab body' => body.username = body'.username
  | _, _ => False

/-- Both caches are empty or neither is, and they parse to the same principal,
realm and times, or fail to with the same error. -/
def ParsesAlike (krb5 : Krb5) (env : Env) (ccache ccache' : Bytes) : Prop :=
  (ccache = [] ↔ ccache' = []) ∧
    readCcache krb5 env.krb5Output (some ccache) = readCcache krb5 env.krb5Output (some ccache')

/-- The two children end the same way: they are not started, are timed out,
fail with the same status and stderr, or succeed and both leave an output,
which `Same` relates, or none. -/
inductive EndsAlike (Same : Bytes → Bytes → Prop) : ChildReply → ChildReply → Prop
  | spawnFailed (error : PyStr) : EndsAlike Same (.spawnFailed error) (.spawnFailed error)
  | timedOut : EndsAlike Same .timedOut .timedOut
  | cancelled : EndsAlike Same .cancelled .cancelled
  | failed {returncode : ℤ} (hStatus : returncode ≠ 0) (stderr stdout stdout' : Bytes)
      (output output' : Option Bytes) :
      EndsAlike Same (.exited returncode stdout stderr output)
        (.exited returncode stdout' stderr output')
  | succeeded {output output' : Option Bytes} (hOutput : Option.Rel Same output output')
      (stdout stdout' stderr stderr' : Bytes) :
      EndsAlike Same (.exited 0 stdout stderr output) (.exited 0 stdout' stderr' output')

/-- What the outputs of two children have in common: what a cache parses to, or
that the keytab is not empty. -/
def Endpoint.SameOutput (krb5 : Krb5) (env : Env) : Endpoint → Bytes → Bytes → Prop
  | .mint _ | .renew _ => ParsesAlike krb5 env
  | .keytab _ => fun keytab keytab' => keytab = [] ↔ keytab' = []

section Operations

variable {α : Type} {Same : Bytes → Bytes → Prop} {reply reply' : ChildReply}

theorem childRecord_matches (h : EndsAlike Same reply reply') {SameValue : α → α → Prop}
    (binary context : PyStr) (timeoutSeconds : Nat) {failed : ℤ → PyStr → Record α}
    {succeeded : Option Bytes → Record α}
    (hFailed : ∀ returncode stderr,
      Matches SameValue (failed returncode stderr) (failed returncode stderr))
    (hSucceeded : ∀ output output', Option.Rel Same output output' →
      Matches SameValue (succeeded output) (succeeded output')) :
    Matches SameValue (childRecord binary context timeoutSeconds failed succeeded reply)
      (childRecord binary context timeoutSeconds failed succeeded reply') := by
  cases h with
  | spawnFailed error => exact .error _ _
  | timedOut => exact .error _ _
  | cancelled => exact .throw _
  | failed hStatus stderr stdout stdout' output output' =>
      simp only [childRecord, hStatus, ne_eq, not_false_eq_true, if_true]
      exact hFailed _ _
  | succeeded hOutput stdout stdout' stderr stderr' =>
      simp only [childRecord, ne_eq, not_true_eq_false, if_false]
      exact hSucceeded _ _ hOutput

/-- A failure raises, so no value is compared. -/
theorem failureRecord_matches (SameValue : α → α → Prop) (event : String) (username : PyStr)
    (classify : PyStr → Option PyExc) (expected : PyExc → Bool) (unclassified : PyStr)
    (returncode : ℤ) (stderr : PyStr) :
    Matches SameValue
      (failureRecord event username classify expected unclassified returncode stderr : Record α)
      (failureRecord event username classify expected unclassified returncode stderr) := by
  unfold failureRecord
  cases classify stderr with
  | none => exact .error _ _
  | some exc =>
      by_cases hExpected : expected exc = true
      · simp only [if_pos hExpected]
        exact .throw exc
      · simp only [if_neg hExpected]
        exact .error _ _

theorem renewFailureRecord_matches (SameValue : α → α → Prop) (returncode : ℤ) (stderr : PyStr) :
    Matches SameValue (renewFailureRecord returncode stderr : Record α)
      (renewFailureRecord returncode stderr) := by
  unfold renewFailureRecord
  cases classifyRenewStderr stderr with
  | none => exact .error _ _
  | some exc => exact .throw exc

variable (env : Env)

theorem readRecord_matches {output output' : Option Bytes} (h : Option.Rel Same output output') :
    Matches Same (readRecord env output) (readRecord env output') := by
  unfold readRecord
  cases h with
  | none =>
      cases env.readBack with
      | none => exact .error _ _
      | some message => exact .error _ _
  | some hSame =>
      cases env.readBack with
      | none => exact .ok hSame _
      | some message => exact .error _ _

theorem outputRecord_matches {output output' : Option Bytes} (h : Option.Rel Same output output')
    (hEmpty : ∀ contents contents', Same contents contents' →
      (contents = [] ↔ contents' = []))
    (username : PyStr) (missing empty : String) (noFile emptyFile : PyStr) :
    Matches Same (outputRecord env username missing empty noFile emptyFile output)
      (outputRecord env username missing empty noFile emptyFile output') := by
  unfold outputRecord
  refine ((readRecord_matches env h).tryCatch fun exc => ?_).bind fun contents contents' hSame => ?_
  · cases exc with
    | osError message => exact .error _ _
    | _ => exact .throw _
  · by_cases hContents : contents = []
    · simp only [if_pos hContents, if_pos ((hEmpty _ _ hSame).mp hContents)]
      exact .error _ _
    · simp only [if_neg hContents, if_neg fun h => hContents ((hEmpty _ _ hSame).mpr h)]
      exact .ok hSame _

variable (krb5 : Krb5)

/-- The two caches read back have the same principal and times. -/
def SameInfo (ccache ccache' : Bytes × CcacheInfo) : Prop := ccache.2 = ccache'.2

theorem parseRecord_matches {ccache ccache' : Bytes} (h : ParsesAlike krb5 env ccache ccache') :
    Matches SameInfo (parseRecord krb5 env ccache) (parseRecord krb5 env ccache') := by
  unfold parseRecord
  rw [h.2]
  exact .bind_same _ fun info => .pure rfl

theorem kinitRecord_matches (settings : Settings)
    (h : EndsAlike (ParsesAlike krb5 env) reply reply') (username : PyStr) (keytabMode : Bool) :
    Matches SameInfo (kinitRecord settings krb5 env username keytabMode reply)
      (kinitRecord settings krb5 env username keytabMode reply') := by
  refine childRecord_matches h _ _ _ (fun _ _ => failureRecord_matches ..)
    fun output output' h => ?_
  exact (outputRecord_matches env h (fun _ _ hSame => hSame.1) ..).bind fun _ _ =>
    parseRecord_matches env krb5

theorem kinitRenewRecord_matches (settings : Settings)
    (h : EndsAlike (ParsesAlike krb5 env) reply reply') :
    Matches SameInfo (kinitRenewRecord settings krb5 env reply)
      (kinitRenewRecord settings krb5 env reply') := by
  refine childRecord_matches h _ _ _ (fun _ _ => renewFailureRecord_matches ..)
    fun output output' h => ?_
  refine (readRecord_matches env h).bind fun renewed renewed' hSame => ?_
  by_cases hEmpty : renewed = []
  · simp only [if_pos hEmpty, if_pos (hSame.1.mp hEmpty)]
    exact .error _ _
  · simp only [if_neg hEmpty, if_neg fun h => hEmpty (hSame.1.mpr h)]
    exact parseRecord_matches env krb5 hSame

/-- The two tickets are for the same principal. -/
def SamePrincipal (minted minted' : MintedTicket) : Prop := minted.principal = minted'.principal

theorem ticketRecord_matches (settings : Settings)
    (h : EndsAlike (ParsesAlike krb5 env) reply reply') (username : PyStr) (keytabMode : Bool) :
    Matches SamePrincipal (ticketRecord settings krb5 env username keytabMode reply)
      (ticketRecord settings krb5 env username keytabMode reply') := by
  refine ((kinitRecord_matches env krb5 settings h username keytabMode).andFinally _).bind ?_
  exact fun _ _ hSame => .pure (congrArg CcacheInfo.principal hSame)

theorem renewalRecord_matches (settings : Settings)
    (h : EndsAlike (ParsesAlike krb5 env) reply reply') :
    Matches SamePrincipal (renewalRecord settings krb5 env reply)
      (renewalRecord settings krb5 env reply') := by
  refine ((kinitRenewRecord_matches env krb5 settings h).andFinally _).bind ?_
  exact fun _ _ hSame => .pure (congrArg CcacheInfo.principal hSame)

theorem keytabRecord_matches (settings : Settings)
    (h : EndsAlike (fun keytab keytab' => keytab = [] ↔ keytab' = []) reply reply')
    (username : PyStr) :
    Matches (fun keytab keytab' => keytab = [] ↔ keytab' = [])
      (keytabRecord settings env username reply) (keytabRecord settings env username reply') := by
  refine (childRecord_matches h _ _ _ (fun _ _ => failureRecord_matches ..) ?_).andFinally _
  exact fun output output' h => outputRecord_matches env h (fun _ _ hSame => hSame) ..

end Operations

section Answers

variable {reply reply' : ChildReply} (caller : Caller)

theorem refusalRecord_matches {α : Type} (Same : α → α → Prop) (username : Option PyStr)
    (outcome : Outcome) (status : Nat) (detail : PyStr) :
    Matches Same (refusalRecord caller username outcome status detail : Record α)
      (refusalRecord caller username outcome status detail) := .error _ _

theorem mintExitRecord_matches (Same : MintedTicket → MintedTicket → Prop) (username : PyStr)
    (exc : PyExc) :
    Matches Same (mintExitRecord caller username exc) (mintExitRecord caller username exc) := by
  cases exc with
  | badPassword | badKeytab | unknownPrincipal | accountUnusable | minting =>
      exact refusalRecord_matches ..
  | _ => exact .throw _

theorem renewExitRecord_matches (Same : MintedTicket → MintedTicket → Prop) (exc : PyExc) :
    Matches Same (renewExitRecord caller exc) (renewExitRecord caller exc) := by
  cases exc with
  | ccacheParse | ticketExpired | minting => exact refusalRecord_matches ..
  | _ => exact .throw _

theorem keytabExitRecord_matches (Same : Bytes → Bytes → Prop) (username : PyStr) (exc : PyExc) :
    Matches Same (keytabExitRecord caller username exc) (keytabExitRecord caller username exc) := by
  cases exc with
  | badPassword | minting => exact refusalRecord_matches ..
  | _ => exact .throw _

/-- The audit line of a success names the principal, and not the value. -/
theorem issueRecord_matches {α : Type} (username : Option PyStr) (principal : PyStr)
    (value value' : α) :
    Matches (fun _ _ => True) (issueRecord caller username principal value)
      (issueRecord caller username principal value') := .ok trivial _

/-- The responses may differ: the log is compared, and nothing else. -/
theorem answeredRecord_matches {α : Type} (body : α → Body) {record record' : Record α}
    (h : Matches (fun _ _ => True) record record') :
    Matches (fun _ _ => True) (answeredRecord body record) (answeredRecord body record') :=
  (h.bind fun _ _ _ => .pure trivial).tryCatch fun _ => .pure trivial

end Answers

namespace Job

variable (d : Deployment) {job job' : Job}

/-- The secret reaches the child on its stdin or in a file, and not by its
arguments. -/
theorem argv_of_sameButSecret (hSecret : SameButSecret job.endpoint job'.endpoint)
    (hEnv : job.env = job'.env) : (job.childSpec d).argv = (job'.childSpec d).argv := by
  unfold childSpec
  rw [hEnv]
  cases hEndpoint : job.endpoint with
  | mint body =>
      cases hEndpoint' : job'.endpoint with
      | mint body' =>
          rw [hEndpoint, hEndpoint'] at hSecret
          obtain ⟨hUsername, hLifetime, hRenewable, hMode⟩ := hSecret
          simp only [hUsername, hLifetime, hRenewable, hMode, kinitSpec]
      | _ => simp [hEndpoint, hEndpoint', SameButSecret] at hSecret
  | renew body =>
      cases hEndpoint' : job'.endpoint with
      | renew body' => rfl
      | _ => simp [hEndpoint, hEndpoint', SameButSecret] at hSecret
  | keytab body =>
      cases hEndpoint' : job'.endpoint with
      | keytab body' =>
          rw [hEndpoint, hEndpoint'] at hSecret
          change body.username = body'.username at hSecret
          simp only [hSecret, keytabSpec]
      | _ => simp [hEndpoint, hEndpoint', SameButSecret] at hSecret

theorem record_matches (hSecret : SameButSecret job.endpoint job'.endpoint)
    (hEnv : job.env = job'.env) (caller : Caller) {reply reply' : ChildReply}
    (hEnd : EndsAlike (job.endpoint.SameOutput d.krb5 job.env) reply reply') :
    Matches (fun _ _ => True) (job.record d caller reply) (job'.record d caller reply') := by
  unfold record
  rw [hEnv] at hEnd ⊢
  cases hEndpoint : job.endpoint with
  | mint body =>
      cases hEndpoint' : job'.endpoint with
      | mint body' =>
          rw [hEndpoint, hEndpoint'] at hSecret
          obtain ⟨hUsername, -, -, hMode⟩ := hSecret
          rw [hEndpoint] at hEnd
          simp only [hUsername, hMode]
          refine answeredRecord_matches .minted ?_
          refine ((ticketRecord_matches _ d.krb5 d.settings hEnd body'.username _).tryCatch
            fun _ => mintExitRecord_matches ..).bind fun minted minted' hSame => ?_
          rw [show minted.principal = minted'.principal from hSame]
          exact issueRecord_matches ..
      | _ => simp [hEndpoint, hEndpoint', SameButSecret] at hSecret
  | renew body =>
      cases hEndpoint' : job'.endpoint with
      | renew body' =>
          rw [hEndpoint] at hEnd
          refine answeredRecord_matches .minted ?_
          refine ((renewalRecord_matches _ d.krb5 d.settings hEnd).tryCatch
            fun _ => renewExitRecord_matches ..).bind fun minted minted' hSame => ?_
          rw [show minted.principal = minted'.principal from hSame]
          exact issueRecord_matches ..
      | _ => simp [hEndpoint, hEndpoint', SameButSecret] at hSecret
  | keytab body =>
      cases hEndpoint' : job'.endpoint with
      | keytab body' =>
          rw [hEndpoint, hEndpoint'] at hSecret
          change body.username = body'.username at hSecret
          rw [hEndpoint] at hEnd
          simp only [hSecret]
          refine answeredRecord_matches .keytab ?_
          refine ((keytabRecord_matches _ d.settings hEnd body'.username).tryCatch
            fun _ => keytabExitRecord_matches ..).bind fun _ _ _ => ?_
          exact issueRecord_matches ..
      | _ => simp [hEndpoint, hEndpoint', SameButSecret] at hSecret

end Job

/-- Two runs whose requests differ only in the secret, with the same caller and
alike children, log the same events; the arguments of the children, which the
text of a logged timeout repeats, are the same too. -/
theorem secret_unlogged (d : Deployment) {job job' : Job} {o o' : Outside} {w w' : World}
    (hSecret : SameButSecret job.endpoint job'.endpoint)
    (hEnv : job.env = job'.env)
    (hToken : job.authentication d o.jwks = job'.authentication d o'.jwks)
    (hStarts : job.StartsChild d o w) (hStarts' : job'.StartsChild d o' w')
    (hEnd : EndsAlike (job.endpoint.SameOutput d.krb5 job.env) o.child o'.child) :
    (job.childSpec d).argv = (job'.childSpec d).argv ∧
      ∃ events, (job.run d o w).2.log = w.log ++ events ∧
        (job'.run d o' w').2.log = w'.log ++ events := by
  obtain ⟨caller, found, hCaller, -, -, -, hLog⟩ := Job.started hStarts
  obtain ⟨caller', found', hCaller', -, -, -, hLog'⟩ := Job.started hStarts'
  obtain rfl : caller = caller' := Except.ok.inj (hCaller.symm.trans (hToken.trans hCaller'))
  refine ⟨Job.argv_of_sameButSecret d hSecret hEnv, _, hLog, ?_⟩
  rw [hLog', (Job.record_matches d hSecret hEnv caller hEnd).events_eq]

/-- The sample request with another password. -/
def otherPasswordJob : Job := ⟨sampleEnv, sampleRequest, sampleMint (py "other")⟩

set_option maxRecDepth 2000 in
/-- Two passwords, for each of which `kinit` leaves a cache. -/
theorem passwords_unlogged :
    ((sampleJob sampleEnv).childSpec sampleDeployment).argv =
        (otherPasswordJob.childSpec sampleDeployment).argv ∧
      ∃ events,
        ((sampleJob sampleEnv).run sampleDeployment
          (sampleOutside (.exited 0 [] [] (some sampleCache))) sampleWorld).2.log =
            sampleWorld.log ++ events ∧
        (otherPasswordJob.run sampleDeployment
          (sampleOutside (.exited 0 [] [] (some rekeyedCache))) sampleWorld).2.log =
            sampleWorld.log ++ events := by
  have hAlike : Option.Rel (ParsesAlike sampleKrb5 sampleEnv) (some sampleCache)
      (some rekeyedCache) := .some ⟨by decide, rfl⟩
  exact secret_unlogged sampleDeployment ⟨rfl, rfl, rfl, rfl⟩ rfl rfl
    ((Job.runsTo _ _ _ _).child.mpr rfl) ((Job.runsTo _ _ _ _).child.mpr rfl)
    (.succeeded hAlike [] [] [] [])

end Krb5TokenService.Service
