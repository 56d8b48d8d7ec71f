import Krb5TokenService.Service.Run

/-! A `kinit` that exits 0 but leaves no usable cache. Both endpoints that run
one mean to report an infrastructure failure; exactly when they do. -/
namespace Krb5TokenService.Service

open Python Python.Base64
open RateLimit Identity Minting

/-- The states in which a successful `kinit` has failed after all: no file, an
empty one, and one `read_ccache` has a `CcacheParseError` for. -/
def BadOutput (krb5 : Krb5) (env : Env) (output : Option Bytes) : Prop :=
  output = none ∨ output = some [] ∨ ∃ ccache message, output = some ccache ∧ ccache ≠ [] ∧
    readCcache krb5 env.krb5Output (some ccache) = .error (.ccacheParse message)

/-- The fixed detail of a failed `kinit`. -/
def Endpoint.failureDetail : Endpoint → Option PyStr
  | .mint _ => some (py "Ticket minting failed.")
  | .renew _ => some (py "Ticket renewal failed.")
  | .keytab _ => none

/-- The client gets a 502 with this detail, and the audit line is an error. -/
structure ReportedFailed (detail : PyStr) (before : World)
    (result : Except PyExc Response × World) : Prop where
  response : result.1 = .ok ⟨502, .detail detail, []⟩
  audits : audits result.2.log = audits before.log ++ [.error]

/-- The bad outputs that the read-back of the endpoint turns into a
`MintingError`. -/
def OutputCaught (env : Env) (output : Option Bytes) : Endpoint → Prop
  | .mint _ => env.readBack ≠ none ∨ output = none ∨ output = some []
  | .renew _ => env.readBack = none ∧ output = some []
  | .keytab _ => False

section Verdicts

variable {settings : Settings} {krb5 : Krb5} {env : Env} {stdout stderr : Bytes}
    {output : Option Bytes}

/-- `mint_ticket` catches what it cannot read and what is empty. What it can
read it parses, and the parser's error is no `MintingError`. -/
theorem kinitVerdict_badOutput (settings : Settings) (stdout stderr : Bytes) (keytabMode : Bool)
    (hBad : BadOutput krb5 env output) :
    ((env.readBack ≠ none ∨ output = none ∨ output = some []) ∧
      ∃ message, kinitVerdict settings krb5 env keytabMode (.exited 0 stdout stderr output) =
        .error (.minting message)) ∨
    (¬ (env.readBack ≠ none ∨ output = none ∨ output = some []) ∧
      ∃ message, kinitVerdict settings krb5 env keytabMode (.exited 0 stdout stderr output) =
        .error (.ccacheParse message)) := by
  cases hBack : env.readBack with
  | some message =>
      exact .inl ⟨.inl (by simp),
        by simp [kinitVerdict, childVerdict, outputVerdict, hBack, bind, Except.bind]⟩
  | none =>
      obtain rfl | rfl | ⟨ccache, message, rfl, hSome, hRead⟩ := hBad
      · exact .inl ⟨by simp,
          by simp [kinitVerdict, childVerdict, outputVerdict, hBack, bind, Except.bind]⟩
      · exact .inl ⟨by simp,
          by simp [kinitVerdict, childVerdict, outputVerdict, hBack, bind, Except.bind]⟩
      · refine .inr ⟨by simp [hSome], message, ?_⟩
        simp [kinitVerdict, childVerdict, outputVerdict, hBack, hSome, hRead, bind, Except.bind]

/-- `renew_ticket` catches only what is empty. -/
theorem kinitRenewVerdict_badOutput (settings : Settings) (stdout stderr : Bytes)
    (hBad : BadOutput krb5 env output) :
    ((env.readBack = none ∧ output = some []) ∧
      ∃ message, kinitRenewVerdict settings krb5 env (.exited 0 stdout stderr output) =
        .error (.minting message)) ∨
    (¬ (env.readBack = none ∧ output = some []) ∧
      ∃ exc, kinitRenewVerdict settings krb5 env (.exited 0 stdout stderr output) = .error exc ∧
        ((∃ message, exc = .osError message) ∨ ∃ message, exc = .ccacheParse message)) := by
  cases hBack : env.readBack with
  | some message =>
      exact .inr ⟨by simp,
        by simp [kinitRenewVerdict, childVerdict, renewedBytesVerdict, hBack, bind, Except.bind]⟩
  | none =>
      obtain rfl | rfl | ⟨ccache, message, rfl, hSome, hRead⟩ := hBad
      · exact .inr ⟨by simp,
          by simp [kinitRenewVerdict, childVerdict, renewedBytesVerdict, hBack, bind, Except.bind]⟩
      · exact .inl ⟨by simp,
          by simp [kinitRenewVerdict, childVerdict, renewedBytesVerdict, hBack, bind, Except.bind]⟩
      · refine .inr ⟨by simp [hSome], .ccacheParse message, ?_, .inr ⟨message, rfl⟩⟩
        simp [kinitRenewVerdict, childVerdict, renewedBytesVerdict, hBack, hSome, hRead, bind,
          Except.bind]

end Verdicts

section Reported

variable {d : Deployment} {job : Job} {o : Outside} {w : World} {detail : PyStr}

/-- A run past its child is reported as failed exactly when that is what its
closing comes to. -/
theorem reportedFailed_iff (hStarts : job.StartsChild d o w) :
    ReportedFailed detail w (job.run d o w) ↔
      answerOf ((job.plan d).closing o.child) = ⟨502, .detail detail, []⟩ ∧
        audited ((job.plan d).closing o.child) = some .error := by
  have hRun := job.runsTo d o w
  have hVerdict := job.verdict_of_outset_ok d o w (hRun.child.mp hStarts)
  constructor
  · rintro ⟨hResponse, hAudits⟩
    rw [hRun.response, hVerdict] at hResponse
    rw [hRun.audits, hVerdict] at hAudits
    refine ⟨Except.ok.inj hResponse, ?_⟩
    have hOnce := List.append_cancel_left hAudits
    simpa using hOnce
  · rintro ⟨hResponse, hAudited⟩
    constructor
    · rw [hRun.response, hVerdict, hResponse]
    · rw [hRun.audits, hVerdict, hAudited]
      rfl

/-- A child that exits 0 and leaves a bad output is reported as failed exactly
when the private directory goes and the read-back catches the output. -/
theorem bad_output_reported_iff {stdout stderr : Bytes} {output : Option Bytes}
    (hKinit : job.endpoint.failureDetail = some detail) (hStarts : job.StartsChild d o w)
    (hExit : o.child = .exited 0 stdout stderr output)
    (hBad : BadOutput d.krb5 job.env output) :
    ReportedFailed detail w (job.run d o w) ↔
      job.env.rmtree = none ∧ OutputCaught job.env output job.endpoint := by
  rw [reportedFailed_iff hStarts, hExit]
  unfold Job.plan
  cases hEndpoint : job.endpoint with
  | keytab body => simp [hEndpoint, Endpoint.failureDetail] at hKinit
  | mint body =>
      obtain rfl : py "Ticket minting failed." = detail := by
        simpa [hEndpoint, Endpoint.failureDetail] using hKinit
      simp only [Plan.map, mintPlan, ticketVerdict, removed, OutputCaught]
      cases hRemove : job.env.rmtree with
      | some message => simp [mintExit, answerOf, Except.map, Refusal.raised, errorResponse]
      | none =>
          obtain ⟨hCaught, message, hVerdict⟩ | ⟨hMissed, message, hVerdict⟩ :=
            kinitVerdict_badOutput d.settings stdout stderr body.password.isNone hBad
          · rw [hVerdict]
            simp [hCaught, mintExit, answerOf, audited, Except.map, Refusal.failed]
          · rw [hVerdict]
            simp [hMissed, mintExit, answerOf, Except.map, Refusal.raised, errorResponse]
  | renew body =>
      obtain rfl : py "Ticket renewal failed." = detail := by
        simpa [hEndpoint, Endpoint.failureDetail] using hKinit
      simp only [Plan.map, renewPlan, renewalVerdict, removed, OutputCaught]
      cases hRemove : job.env.rmtree with
      | some message => simp [renewExit, answerOf, Except.map, Refusal.raised, errorResponse]
      | none =>
          obtain ⟨hCaught, message, hVerdict⟩ | ⟨hMissed, exc, hVerdict, hExc⟩ :=
            kinitRenewVerdict_badOutput d.settings stdout stderr hBad
          · rw [hVerdict]
            simp [hCaught, renewExit, answerOf, audited, Except.map, Refusal.failed]
          · rw [hVerdict]
            obtain ⟨message, rfl⟩ | ⟨message, rfl⟩ := hExc
            · simp [hMissed, renewExit, answerOf, Except.map, Refusal.raised, errorResponse]
            · simp [hMissed, renewExit, answerOf, Except.map, Refusal.denied]

/-- What `renew` makes of a renewed cache that does not parse: it blames the
caller's, which did. -/
theorem renew_blames_caller {body : RenewRequest} {stdout stderr ccache : Bytes}
    {message : PyStr} (hRenew : job.endpoint = .renew body) (hStarts : job.StartsChild d o w)
    (hExit : o.child = .exited 0 stdout stderr (some ccache)) (hSome : ccache ≠ [])
    (hRead : readCcache d.krb5 job.env.krb5Output (some ccache) = .error (.ccacheParse message))
    (hBack : job.env.readBack = none) (hRemove : job.env.rmtree = none) :
    (∃ info, readCcache d.krb5 job.env.krb5Input (b64decode body.ccacheB64) = .ok info) ∧
      (job.run d o w).1 = .ok ⟨422, .detail (py "invalid ccache"), []⟩ := by
  have hRun := job.runsTo d o w
  have hOutset := hRun.child.mp hStarts
  constructor
  · obtain ⟨_, hOpening⟩ := job.outset_ok d o w hOutset
    simp only [Job.plan, hRenew, Plan.map] at hOpening
    obtain ⟨input, info, hDecoded, hInfo, _⟩ := renewPlan_opens.mp hOpening
    exact ⟨info, by rw [hDecoded, hInfo]⟩
  · rw [hRun.response, job.verdict_of_outset_ok d o w hOutset, hExit]
    unfold Job.plan
    simp [hRenew, Plan.map, renewPlan, renewalVerdict, removed, hRemove, kinitRenewVerdict,
      childVerdict, renewedBytesVerdict, hBack, hSome, hRead, bind, Except.bind, renewExit,
      answerOf, Except.map, Refusal.denied]

end Reported

section Cases

/-- A `kinit` that exits 0 and leaves no file. -/
theorem missing_output_reported :
    ReportedFailed (py "Ticket minting failed.") sampleWorld
      (Job.run sampleDeployment (sampleJob sampleEnv)
        (sampleOutside (.exited 0 [] [] none)) sampleWorld) :=
  (bad_output_reported_iff rfl
    (((sampleJob sampleEnv).runsTo sampleDeployment _ sampleWorld).child.mpr rfl) rfl
    (.inl rfl)).mpr ⟨rfl, .inr (.inl rfl)⟩

/-- A `kinit` that exits 0 and leaves bytes libkrb5 cannot read: the client
gets the framework's 500. -/
theorem unreadable_output_not_reported :
    (Job.StartsChild sampleDeployment (sampleJob sampleEnv)
        (sampleOutside (.exited 0 [] [] (some [0x00]))) sampleWorld ∧
      BadOutput sampleDeployment.krb5 sampleEnv (some [0x00])) ∧
    ¬ ReportedFailed (py "Ticket minting failed.") sampleWorld
      (Job.run sampleDeployment (sampleJob sampleEnv)
        (sampleOutside (.exited 0 [] [] (some [0x00]))) sampleWorld) := by
  have hRun := (sampleJob sampleEnv).runsTo sampleDeployment
    (sampleOutside (.exited 0 [] [] (some [0x00]))) sampleWorld
  refine ⟨⟨hRun.child.mpr rfl, ?_⟩, ?_⟩
  · exact .inr (.inr ⟨[0x00], _, rfl, by decide, rfl⟩)
  · rintro ⟨hResponse, _⟩
    rw [hRun.response] at hResponse
    have hStatus := congrArg Response.status (Except.ok.inj hResponse)
    exact absurd hStatus (by decide)

end Cases

end Krb5TokenService.Service
