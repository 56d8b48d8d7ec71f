import Krb5TokenService.Service.Limited

/-! What a client learns of a child that failed: two runs of one request whose
children differ only in their output, and what of that output shows. -/
namespace Krb5TokenService.Service

open Python
open RateLimit Identity Minting

/-- The classifier raises the same exception class for both outputs, or none
for either. -/
def SameClass (classify : PyStr → Option PyExc) (stderr₁ stderr₂ : Bytes) : Prop :=
  (classify (stderrText stderr₁)).map exceptionName =
    (classify (stderrText stderr₂)).map exceptionName

instance (classify : PyStr → Option PyExc) (stderr₁ stderr₂ : Bytes) :
    Decidable (SameClass classify stderr₁ stderr₂) :=
  inferInstanceAs (Decidable (_ = _))

/-- An account that cannot be used was revoked by both outputs, or by neither:
the one distinction that a class leaves open. -/
def SameReason (classify : PyStr → Option PyExc) (stderr₁ stderr₂ : Bytes) : Prop :=
  (classify (stderrText stderr₁)).any isRevoked = (classify (stderrText stderr₂)).any isRevoked

instance (classify : PyStr → Option PyExc) (stderr₁ stderr₂ : Bytes) :
    Decidable (SameReason classify stderr₁ stderr₂) :=
  inferInstanceAs (Decidable (_ = _))

/-- The child exits with an error and this stderr. -/
def FailsWith (reply : ChildReply) (stderr : Bytes) : Prop :=
  ∃ returncode stdout output, reply = .exited returncode stdout stderr output ∧ returncode ≠ 0

/-- Two runs of one request that get the same key list and find the same
limiter at the same times, and whose children both fail. -/
structure PairedRuns (d : Deployment) (job₁ job₂ : Job) (o₁ o₂ : Outside) (w₁ w₂ : World)
    (stderr₁ stderr₂ : Bytes) : Prop where
  request : job₁.request = job₂.request
  endpoint : job₁.endpoint = job₂.endpoint
  jwks : o₁.jwks = o₂.jwks
  clock : o₁.clock = o₂.clock
  others : o₁.others = o₂.others
  limiter : w₁.limiter = w₂.limiter
  now : w₁.now = w₂.now
  starts₁ : job₁.StartsChild d o₁ w₁
  starts₂ : job₂.StartsChild d o₂ w₂
  fails₁ : FailsWith o₁.child stderr₁
  fails₂ : FailsWith o₂.child stderr₂

/-- The same status, detail and headers, and the same limiter. -/
structure SameAnswer (result₁ result₂ : Except PyExc Response × World) : Prop where
  response : result₁.1 = result₂.1
  limiter : result₁.2.limiter = result₂.2.limiter

section Classes

variable {stderr₁ stderr₂ : Bytes}

/-- The exception that a class stands for, by its name, and by the reason for
the one class that has two. -/
def ofClassName (name : PyStr) (revoked : Bool) : PyExc :=
  if name = py "BadPasswordError" then .badPassword (py "bad password")
  else if name = py "BadKeytabError" then .badKeytab (py "bad keytab")
  else if name = py "UnknownPrincipalError" then .unknownPrincipal (py "unknown principal")
  else if name = py "AccountUnusableError" then
    .accountUnusable (if revoked then accountRevokedDetail else passwordExpiredDetail)
  else .ticketExpired (py "ticket no longer renewable")

theorem ofClassName_accountUnusable (revoked : Bool) :
    ofClassName (py "AccountUnusableError") revoked =
      .accountUnusable (if revoked then accountRevokedDetail else passwordExpiredDetail) := rfl

theorem ofClassName_revoked :
    ofClassName (exceptionName (.accountUnusable accountRevokedDetail))
      (isRevoked (.accountUnusable accountRevokedDetail)) =
        .accountUnusable accountRevokedDetail := by
  have hRevoked : isRevoked (.accountUnusable accountRevokedDetail) = true := by simp [isRevoked]
  rw [hRevoked]
  exact ofClassName_accountUnusable true

theorem ofClassName_expired :
    ofClassName (exceptionName (.accountUnusable passwordExpiredDetail))
      (isRevoked (.accountUnusable passwordExpiredDetail)) =
        .accountUnusable passwordExpiredDetail := by
  have hExpired : isRevoked (.accountUnusable passwordExpiredDetail) = false := by
    decide +kernel
  rw [hExpired]
  exact ofClassName_accountUnusable false

/-- No classifier puts anything of the child's output into its exception. -/
theorem Endpoint.ofClassName_of_classified (endpoint : Endpoint) {stderr : PyStr} {exc : PyExc}
    (h : endpoint.classifier stderr = some exc) :
    ofClassName (exceptionName exc) (isRevoked exc) = exc := by
  cases endpoint with
  | mint body =>
      cases hMode : body.password.isNone with
      | true =>
          simp only [classifier, hMode, classifierOf, if_true] at h
          obtain rfl | rfl | rfl := classifyKeytabStderr_cases h
          · rfl
          · rfl
          · exact ofClassName_revoked
      | false =>
          simp only [classifier, hMode, classifierOf, if_false, Bool.false_eq_true] at h
          obtain rfl | rfl | rfl | rfl := classifyPasswordStderr_cases h
          · rfl
          · rfl
          · exact ofClassName_revoked
          · exact ofClassName_expired
  | renew body =>
      obtain rfl := classifyRenewStderr_cases h
      rfl
  | keytab body =>
      obtain rfl := classifyCernGetKeytabStderr_cases h
      rfl

/-- A classifier's exception is known by its class, and by whether it is for a
revoked account. -/
theorem Endpoint.classifier_congr (endpoint : Endpoint)
    (hClass : SameClass endpoint.classifier stderr₁ stderr₂)
    (hReason : SameReason endpoint.classifier stderr₁ stderr₂) :
    endpoint.classifier (stderrText stderr₁) = endpoint.classifier (stderrText stderr₂) := by
  unfold SameClass at hClass
  unfold SameReason at hReason
  cases h₁ : endpoint.classifier (stderrText stderr₁) with
  | none =>
      cases h₂ : endpoint.classifier (stderrText stderr₂) with
      | none => rfl
      | some exc₂ => simp [h₁, h₂] at hClass
  | some exc₁ =>
      cases h₂ : endpoint.classifier (stderrText stderr₂) with
      | none => simp [h₁, h₂] at hClass
      | some exc₂ =>
          simp only [h₁, h₂, Option.map_some, Option.some.injEq, Option.any_some]
            at hClass hReason
          rw [← endpoint.ofClassName_of_classified h₁, ← endpoint.ofClassName_of_classified h₂,
            hClass, hReason]

end Classes

/-- Exceptions that no except clause of a handler tells apart. -/
inductive Alike : PyExc → PyExc → Prop where
  | same (exc : PyExc) : Alike exc exc
  | minting (message₁ message₂ : PyStr) : Alike (.minting message₁) (.minting message₂)
  | osError (message₁ message₂ : PyStr) : Alike (.osError message₁) (.osError message₂)

section Exits

variable {α : Type} {exc₁ exc₂ : PyExc}

theorem Alike.endingOf (h : Alike exc₁ exc₂) :
    endingOf (.error exc₁ : Except PyExc α) = Service.endingOf (.error exc₂ : Except PyExc α) := by
  cases h <;> rfl

theorem Alike.mintExit (h : Alike exc₁ exc₂) :
    answerOf ((mintExit (.error exc₁)).map (answer200 .minted)) =
      answerOf ((Service.mintExit (.error exc₂)).map (answer200 .minted)) := by
  cases h <;> rfl

theorem Alike.renewExit (h : Alike exc₁ exc₂) :
    answerOf ((renewExit (.error exc₁)).map (answer200 .minted)) =
      answerOf ((Service.renewExit (.error exc₂)).map (answer200 .minted)) := by
  cases h <;> rfl

theorem Alike.keytabExit (h : Alike exc₁ exc₂) (principal : PyStr) :
    answerOf ((keytabExit principal (.error exc₁)).map (answer200 .keytab)) =
      answerOf ((Service.keytabExit principal (.error exc₂)).map (answer200 .keytab)) := by
  cases h <;> rfl

/-- Two failed children of the same classification end alike, whatever their
exit statuses. -/
theorem failureVerdict_alike {classify₁ classify₂ : PyStr → Option PyExc}
    {stderr₁ stderr₂ : PyStr} (hClass : classify₁ stderr₁ = classify₂ stderr₂)
    (unclassified : PyStr) (returncode₁ returncode₂ : ℤ) :
    Alike (failureVerdict classify₁ unclassified returncode₁ stderr₁)
      (failureVerdict classify₂ unclassified returncode₂ stderr₂) := by
  unfold failureVerdict
  rw [hClass]
  cases classify₂ stderr₂ with
  | none => exact .minting _ _
  | some exc => exact .same exc

/-- The removal of the private directory keeps two endings alike, if it fails
for both or for neither. -/
theorem removed_alike {β : Type} {env₁ env₂ : Env} (h : Alike exc₁ exc₂)
    (hRemoved : env₁.rmtree = none ↔ env₂.rmtree = none) :
    ∃ raised₁ raised₂, removed env₁ (.error exc₁ : Except PyExc β) = .error raised₁ ∧
      removed env₂ (.error exc₂ : Except PyExc β) = .error raised₂ ∧ Alike raised₁ raised₂ := by
  unfold removed
  cases h₁ : env₁.rmtree with
  | none => exact ⟨exc₁, exc₂, rfl, by rw [hRemoved.mp h₁], h⟩
  | some message₁ =>
      cases h₂ : env₂.rmtree with
      | none => simp [hRemoved.mpr h₂] at h₁
      | some message₂ => exact ⟨.osError message₁, .osError message₂, rfl, rfl, .osError _ _⟩

end Exits

section Closing

variable {d : Deployment} {job₁ job₂ : Job} {reply₁ reply₂ : ChildReply} {stderr₁ stderr₂ : Bytes}

theorem failed_alike {α : Type} {env₁ env₂ : Env} {binary unclassified : PyStr}
    {classify₁ classify₂ : PyStr → Option PyExc}
    {succeeded₁ succeeded₂ : Option Bytes → Except PyExc α}
    (hFails₁ : FailsWith reply₁ stderr₁) (hFails₂ : FailsWith reply₂ stderr₂)
    (hClass : classify₁ (stderrText stderr₁) = classify₂ (stderrText stderr₂))
    (hRemoved : env₁.rmtree = none ↔ env₂.rmtree = none) :
    ∃ raised₁ raised₂,
      removed env₁ (childVerdict binary (failureVerdict classify₁ unclassified) succeeded₁ reply₁) =
        .error raised₁ ∧
      removed env₂ (childVerdict binary (failureVerdict classify₂ unclassified) succeeded₂ reply₂) =
        .error raised₂ ∧ Alike raised₁ raised₂ := by
  obtain ⟨returncode₁, stdout₁, output₁, rfl, hStatus₁⟩ := hFails₁
  obtain ⟨returncode₂, stdout₂, output₂, rfl, hStatus₂⟩ := hFails₂
  simp only [childVerdict, hStatus₁, hStatus₂, ne_eq, not_false_eq_true, if_true]
  exact removed_alike (failureVerdict_alike hClass unclassified returncode₁ returncode₂) hRemoved

/-- Two failed children of the same classification: the same response, and the
same word to the limiter. -/
theorem closing_alike (hEndpoint : job₁.endpoint = job₂.endpoint)
    (hFails₁ : FailsWith reply₁ stderr₁) (hFails₂ : FailsWith reply₂ stderr₂)
    (hClass : job₁.endpoint.classifier (stderrText stderr₁) =
      job₁.endpoint.classifier (stderrText stderr₂))
    (hRemoved : job₁.env.rmtree = none ↔ job₂.env.rmtree = none) :
    answerOf ((job₁.plan d).closing reply₁) = answerOf ((job₂.plan d).closing reply₂) ∧
      (job₁.plan d).ending reply₁ = (job₂.plan d).ending reply₂ := by
  unfold Job.plan
  rw [← hEndpoint]
  cases h : job₁.endpoint with
  | mint body =>
      rw [h] at hClass
      obtain ⟨raised₁, raised₂, hEnd₁, hEnd₂, hAlike⟩ : ∃ raised₁ raised₂,
          removed job₁.env (kinitVerdict d.settings d.krb5 job₁.env body.password.isNone reply₁) =
            .error raised₁ ∧
          removed job₂.env (kinitVerdict d.settings d.krb5 job₂.env body.password.isNone reply₂) =
            .error raised₂ ∧ Alike raised₁ raised₂ :=
        failed_alike hFails₁ hFails₂ hClass hRemoved
      simp only [Plan.map, mintPlan, ticketVerdict, hEnd₁, hEnd₂]
      exact ⟨hAlike.mintExit, hAlike.endingOf⟩
  | renew body =>
      rw [h] at hClass
      obtain ⟨raised₁, raised₂, hEnd₁, hEnd₂, hAlike⟩ : ∃ raised₁ raised₂,
          removed job₁.env (kinitRenewVerdict d.settings d.krb5 job₁.env reply₁) =
            .error raised₁ ∧
          removed job₂.env (kinitRenewVerdict d.settings d.krb5 job₂.env reply₂) =
            .error raised₂ ∧ Alike raised₁ raised₂ :=
        failed_alike hFails₁ hFails₂ hClass hRemoved
      simp only [Plan.map, renewPlan, renewalVerdict, hEnd₁, hEnd₂]
      exact ⟨hAlike.renewExit, hAlike.endingOf⟩
  | keytab body =>
      rw [h] at hClass
      obtain ⟨raised₁, raised₂, hEnd₁, hEnd₂, hAlike⟩ : ∃ raised₁ raised₂,
          keytabVerdict d.settings job₁.env reply₁ = .error raised₁ ∧
          keytabVerdict d.settings job₂.env reply₂ = .error raised₂ ∧ Alike raised₁ raised₂ :=
        failed_alike hFails₁ hFails₂ hClass hRemoved
      simp only [Plan.map, keytabPlan, hEnd₁, hEnd₂]
      exact ⟨hAlike.keytabExit _, hAlike.endingOf⟩

/-- What the limiter is asked does not depend on the operating system. -/
theorem checks_congr (hEndpoint : job₁.endpoint = job₂.endpoint) :
    (job₁.plan d).checks = (job₂.plan d).checks := by
  unfold Job.plan
  rw [← hEndpoint]
  cases job₁.endpoint <;> rfl

end Closing

section Runs

variable {d : Deployment} {job₁ job₂ : Job} {o₁ o₂ : Outside} {w₁ w₂ : World}
    {stderr₁ stderr₂ : Bytes}

/-- The limiter after a run that got as far as its child. -/
theorem limiterAfter_of_outset {job : Job} {o : Outside} {w : World}
    (hOutset : job.outset d o w = .ok ()) :
    job.limiterAfter d o w = (job.plan d).settled d.settings.failedAuth
      ((job.plan d).ending o.child)
      (o.pass { w with
        limiter := (job.plan d).checked (o.pass w)
        now := o.clock w.now }) := by
  obtain ⟨⟨caller, hCaller⟩, _⟩ := job.outset_ok d o w hOutset
  have hChecked : job.limiterChecked d o w = (job.plan d).checked (o.pass w) := by
    unfold Job.limiterChecked
    cases hToken : job.request.credentials with
    | none => simp [Job.authentication, authentication, hToken] at hCaller
    | some token => simp [Job.checked, hCaller]
  simp [Job.limiterAfter, hOutset, hChecked]

/-- A client that knows the class of a child's failure, and of an account that
cannot be used also which of the two reasons it is for, knows all that the
response and the limiter can tell it of the child's output. -/
theorem same_class_same_answer (h : PairedRuns d job₁ job₂ o₁ o₂ w₁ w₂ stderr₁ stderr₂)
    (hClass : SameClass job₁.endpoint.classifier stderr₁ stderr₂)
    (hReason : SameReason job₁.endpoint.classifier stderr₁ stderr₂)
    (hRemoved : job₁.env.rmtree = none ↔ job₂.env.rmtree = none) :
    SameAnswer (job₁.run d o₁ w₁) (job₂.run d o₂ w₂) := by
  have hRun₁ := job₁.runsTo d o₁ w₁
  have hRun₂ := job₂.runsTo d o₂ w₂
  have hOutset₁ := hRun₁.child.mp h.starts₁
  have hOutset₂ := hRun₂.child.mp h.starts₂
  obtain ⟨hAnswer, hEnding⟩ := closing_alike (d := d) h.endpoint h.fails₁ h.fails₂
    (job₁.endpoint.classifier_congr hClass hReason) hRemoved
  constructor
  · rw [hRun₁.response, hRun₂.response, job₁.verdict_of_outset_ok d o₁ w₁ hOutset₁,
      job₂.verdict_of_outset_ok d o₂ w₂ hOutset₂, hAnswer]
  · rw [hRun₁.limiter, hRun₂.limiter, limiterAfter_of_outset hOutset₁,
      limiterAfter_of_outset hOutset₂, hEnding]
    have hChecks := checks_congr (d := d) h.endpoint
    simp only [Plan.settled, Plan.checked, hChecks, Outside.pass, h.clock, h.others, h.limiter,
      h.now]

end Runs

section Cases

theorem sample_pair (env₁ env₂ : Env)
    (hOutset₁ : (sampleJob env₁).outset sampleDeployment (sampleOutside .cancelled) sampleWorld =
      .ok ())
    (hOutset₂ : (sampleJob env₂).outset sampleDeployment (sampleOutside .cancelled) sampleWorld =
      .ok ())
    (line₁ line₂ : String) :
    PairedRuns sampleDeployment (sampleJob env₁) (sampleJob env₂)
      (sampleOutside (sampleFailure line₁)) (sampleOutside (sampleFailure line₂)) sampleWorld
      sampleWorld (sampleStderr line₁) (sampleStderr line₂) where
  request := rfl
  endpoint := rfl
  jwks := rfl
  clock := rfl
  others := rfl
  limiter := rfl
  now := rfl
  starts₁ := ((sampleJob env₁).runsTo _ _ _).child.mpr hOutset₁
  starts₂ := ((sampleJob env₂).runsTo _ _ _).child.mpr hOutset₂
  fails₁ := ⟨1, [], none, rfl, by decide⟩
  fails₂ := ⟨1, [], none, rfl, by decide⟩

theorem bad_passwords_alike :
    SameAnswer
      ((sampleJob sampleEnv).run sampleDeployment
        (sampleOutside (sampleFailure "kinit: Password incorrect")) sampleWorld)
      ((sampleJob sampleEnv).run sampleDeployment
        (sampleOutside (sampleFailure "kdc01.cern.ch: Password incorrect")) sampleWorld) :=
  same_class_same_answer (sample_pair sampleEnv sampleEnv rfl rfl _ _)
    (by decide +kernel) (by decide +kernel) Iff.rfl

/-- A revoked account and an expired password are of one class but told apart,
and so is a private directory that cannot be removed. -/
theorem class_leaves_answer_open :
    (PairedRuns sampleDeployment (sampleJob sampleEnv) (sampleJob sampleEnv)
        (sampleOutside (sampleFailure "kinit: credentials have been revoked"))
        (sampleOutside (sampleFailure "kinit: Password has expired")) sampleWorld sampleWorld
        (sampleStderr "kinit: credentials have been revoked")
        (sampleStderr "kinit: Password has expired") ∧
      SameClass (sampleJob sampleEnv).endpoint.classifier
        (sampleStderr "kinit: credentials have been revoked")
        (sampleStderr "kinit: Password has expired") ∧
      ¬ SameAnswer
        ((sampleJob sampleEnv).run sampleDeployment
          (sampleOutside (sampleFailure "kinit: credentials have been revoked"))
          sampleWorld)
        ((sampleJob sampleEnv).run sampleDeployment
          (sampleOutside (sampleFailure "kinit: Password has expired")) sampleWorld)) ∧
    PairedRuns sampleDeployment (sampleJob sampleEnv) (sampleJob stuckEnv)
        (sampleOutside (sampleFailure "kinit: Password has expired"))
        (sampleOutside (sampleFailure "kinit: Password has expired")) sampleWorld sampleWorld
        (sampleStderr "kinit: Password has expired") (sampleStderr "kinit: Password has expired") ∧
      ¬ SameAnswer
        ((sampleJob sampleEnv).run sampleDeployment
          (sampleOutside (sampleFailure "kinit: Password has expired")) sampleWorld)
        ((sampleJob stuckEnv).run sampleDeployment
          (sampleOutside (sampleFailure "kinit: Password has expired")) sampleWorld) := by
  refine ⟨⟨sample_pair sampleEnv sampleEnv rfl rfl _ _, by decide +kernel, ?_⟩,
    sample_pair sampleEnv stuckEnv rfl rfl _ _, ?_⟩
  · rintro ⟨hResponse, _⟩
    rw [(Job.runsTo _ _ _ _).response, (Job.runsTo _ _ _ _).response] at hResponse
    exact absurd (Except.ok.inj hResponse) (by decide +kernel)
  · rintro ⟨hResponse, _⟩
    rw [(Job.runsTo _ _ _ _).response, (Job.runsTo _ _ _ _).response] at hResponse
    exact absurd (Except.ok.inj hResponse) (by decide +kernel)

end Cases

end Krb5TokenService.Service
