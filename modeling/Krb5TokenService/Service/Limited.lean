import Krb5TokenService.Service.Run

/-! What a request does to the limiter, and when: once before its child, and
once by the child's end. -/
namespace Krb5TokenService.Service

open Python EventLoop
open RateLimit Identity Minting

namespace Endpoint

/-- The username of a request that carries a password. -/
def passwordUser : Endpoint → Option PyStr
  | .mint body => if body.password.isSome then some body.username else none
  | .renew _ => none
  | .keytab body => some body.username

/-- The classifier of the endpoint's child, in the mode of the request. -/
def classifier : Endpoint → PyStr → Option PyExc
  | .mint body => classifierOf body.password.isNone
  | .renew _ => classifyRenewStderr
  | .keytab _ => classifyCernGetKeytabStderr

end Endpoint

section Endings

variable {α : Type}

theorem endingOf_eq_bad_iff {result : Except PyExc α} :
    endingOf result = .bad ↔ ∃ message, result = .error (.badPassword message) := by
  cases result with
  | ok value => simp [endingOf]
  | error exc => cases exc <;> simp [endingOf]

theorem mintExit_ok_iff {result : Except PyExc MintedTicket} :
    (∃ response, mintExit result = .ok response) ↔ endingOf result = .ok := by
  cases result with
  | ok minted => simp [mintExit, endingOf]
  | error exc => cases exc <;> simp [mintExit, endingOf]

theorem renewExit_ok_iff {result : Except PyExc MintedTicket} :
    (∃ response, renewExit result = .ok response) ↔ endingOf result = .ok := by
  cases result with
  | ok minted => simp [renewExit, endingOf]
  | error exc => cases exc <;> simp [renewExit, endingOf]

theorem keytabExit_ok_iff {principal : PyStr} {result : Except PyExc Bytes} :
    (∃ response, keytabExit principal result = .ok response) ↔ endingOf result = .ok := by
  cases result with
  | ok keytab => simp [keytabExit, endingOf]
  | error exc => cases exc <;> simp [keytabExit, endingOf]

theorem map_ok_iff {β : Type} {f : α → β} {verdict : Except Refusal α} :
    (∃ value, verdict.map f = .ok value) ↔ ∃ value, verdict = .ok value := by
  cases verdict <;> simp [Except.map]

end Endings

namespace Job

variable (d : Deployment) (job : Job)

/-- The username the limiter is asked about: that of a password request which
passed authentication and validation. -/
def limited (reply : JwksReply) : Option PyStr :=
  match job.authentication d reply with
  | .error _ => none
  | .ok _ => (job.plan d).checks

theorem checks_subset {username : PyStr} (h : (job.plan d).checks = some username) :
    job.endpoint.passwordUser = some username := by
  unfold plan at h
  cases hEndpoint : job.endpoint with
  | mint body =>
      simp only [hEndpoint, Plan.map, mintPlan] at h
      split at h
      · rename_i hChecks
        simpa [Endpoint.passwordUser, hChecks.2] using h
      · cases h
  | renew body => simp [hEndpoint, Plan.map, renewPlan] at h
  | keytab body =>
      simp only [hEndpoint, Plan.map, keytabPlan] at h
      split at h
      · exact h
      · cases h

theorem passwordUser_of_limited {reply : JwksReply} {username : PyStr}
    (h : job.limited d reply = some username) : job.endpoint.passwordUser = some username := by
  unfold limited at h
  split at h
  · cases h
  · exact job.checks_subset d h

/-- A password request that gets past its opening has been checked for. -/
theorem checks_of_opening {allowed : Except RateLimitedError Unit}
    (h : (job.plan d).opening allowed = .ok ()) :
    (job.plan d).checks = job.endpoint.passwordUser := by
  unfold plan at h ⊢
  cases hEndpoint : job.endpoint with
  | mint body =>
      simp only [hEndpoint, Plan.map] at h
      simp [Plan.map, mintPlan, Endpoint.passwordUser, mintPlan_opens_valid h, Except.isOk,
        Except.toBool]
  | renew body => rfl
  | keytab body =>
      simp only [hEndpoint, Plan.map] at h
      simp [Plan.map, keytabPlan, Endpoint.passwordUser, (keytabPlan_opens.mp h).1, Except.isOk,
        Except.toBool]

/-- The limiter is told `ok` exactly when the response is a value. -/
theorem closing_ok_iff (reply : ChildReply) :
    (∃ response, (job.plan d).closing reply = .ok response) ↔
      (job.plan d).ending reply = .ok := by
  unfold plan
  cases job.endpoint with
  | mint body => exact map_ok_iff.trans mintExit_ok_iff
  | renew body => exact map_ok_iff.trans renewExit_ok_iff
  | keytab body => exact map_ok_iff.trans keytabExit_ok_iff

/-- The limiter is told `bad` exactly when the child's exit was classified so
and its private directory was removed. -/
theorem ending_bad_iff {username : PyStr} (hUser : job.endpoint.passwordUser = some username)
    (reply : ChildReply) :
    (job.plan d).ending reply = .bad ↔
      BadPasswordExit job.endpoint.classifier reply ∧ job.env.rmtree = none := by
  unfold plan
  cases hEndpoint : job.endpoint with
  | mint body => exact endingOf_eq_bad_iff.trans ticketVerdict_badPassword_iff
  | renew body => simp [hEndpoint, Endpoint.passwordUser] at hUser
  | keytab body => exact endingOf_eq_bad_iff.trans keytabVerdict_badPassword_iff

/-- A request gets past its opening only if the limiter, when asked, lets it. -/
theorem allowed_of_opening {allowed : Except RateLimitedError Unit} {username : PyStr}
    (hChecks : (job.plan d).checks = some username)
    (h : (job.plan d).opening allowed = .ok ()) : allowed = .ok () := by
  have hUser := job.checks_subset d hChecks
  unfold plan at h
  cases hEndpoint : job.endpoint with
  | mint body =>
      simp only [hEndpoint, Plan.map] at h
      cases hMode : body.password with
      | none => simp [hEndpoint, Endpoint.passwordUser, hMode] at hUser
      | some password => exact ((mintPlan_opens_password hMode).mp h).2.1
  | renew body => simp [hEndpoint, Endpoint.passwordUser] at hUser
  | keytab body =>
      simp only [hEndpoint, Plan.map] at h
      exact (keytabPlan_opens.mp h).2.1

end Job

section Alone

variable (d : Deployment) (job : Job) (o : Outside) (w : World)

namespace Job

/-- A child ran on the request's behalf and found its password wrong. -/
def FindsBadPassword : Prop :=
  job.StartsChild d o w ∧ BadPasswordExit job.endpoint.classifier o.child

/-- The response hands out a ticket or a keytab. -/
def Issues : Prop := ∃ response, (job.run d o w).1 = .ok response ∧ response.body.Issued

end Job

/-- The limiter once it has been asked about `username`. -/
def limiterAsked (username : PyStr) : LimiterState :=
  (w.limiter.check username (o.clock w.now)).2

/-- What a request handled alone may do to the limiter, and what the limiter
may do to it. -/
structure LimiterUse : Prop where
  untouched : job.limited d o.jwks = none → (job.run d o w).2.limiter = w.limiter
  bad : ∀ username, job.limited d o.jwks = some username → job.FindsBadPassword d o w →
    (job.run d o w).2.limiter = (limiterAsked o w username).recordFailure d.settings.failedAuth
      username (o.clock (o.clock w.now))
  issued : ∀ username, job.limited d o.jwks = some username → job.Issues d o w →
    (job.run d o w).2.limiter = (limiterAsked o w username).reset username
  other : ∀ username, job.limited d o.jwks = some username → ¬ job.FindsBadPassword d o w →
    ¬ job.Issues d o w → (job.run d o w).2.limiter = limiterAsked o w username
  frame : ∀ other, job.endpoint.passwordUser ≠ some other →
    (job.run d o w).2.limiter other = w.limiter other
  guarded : job.StartsChild d o w → (∃ caller, job.authentication d o.jwks = .ok caller) ∧
    ∀ username, job.limited d o.jwks = some username →
      (w.limiter.check username (o.clock w.now)).1 = .ok ()
  independent : job.endpoint.passwordUser = none → ∀ limiter,
    (job.run d o { w with limiter := limiter }).1 = (job.run d o w).1

/-- A password request whose child finds the password wrong, and whose private
directory then cannot be removed. -/
def VerdictLost : Prop :=
  ∃ username, job.limited d o.jwks = some username ∧ job.outset d o w = .ok () ∧
    BadPasswordExit job.endpoint.classifier o.child ∧ job.env.rmtree ≠ none

variable {d job o w}

namespace Job

theorem limited_of_authenticated {reply : JwksReply} {caller : Caller}
    (h : job.authentication d reply = .ok caller) :
    job.limited d reply = (job.plan d).checks := by
  simp [limited, h]

theorem checked_of_limited {reply : JwksReply} {username : PyStr}
    (h : job.limited d reply = some username) :
    job.checked d reply w = (w.limiter.check username w.now).2 := by
  unfold limited at h
  unfold checked
  cases hCaller : job.authentication d reply with
  | error refusal => simp [hCaller] at h
  | ok caller =>
      rw [hCaller] at h
      simp [Plan.checked, h]

theorem checked_of_unlimited {reply : JwksReply} (h : job.limited d reply = none) :
    job.checked d reply w = w.limiter := by
  unfold limited at h
  unfold checked
  cases hCaller : job.authentication d reply with
  | error refusal => rfl
  | ok caller =>
      rw [hCaller] at h
      simp [Plan.checked, h]

/-- The response hands out a credential exactly when the child was started
and the limiter is told so. -/
theorem issues_iff : job.Issues d o w ↔
    job.outset d o w = .ok () ∧ (job.plan d).ending o.child = .ok := by
  have hResponse := (job.runsTo d o w).response
  rw [Issues, hResponse, ← job.closing_ok_iff d o.child]
  cases hOutset : job.outset d o w with
  | error refusal =>
      rw [job.verdict_of_outset_error d o w hOutset]
      simpa [answerOf] using refusal.withheld
  | ok _ =>
      rw [job.verdict_of_outset_ok d o w hOutset]
      cases hClosing : (job.plan d).closing o.child with
      | error refusal => simpa [answerOf] using refusal.withheld
      | ok response =>
          have hOk := job.closing_ok d hClosing
          simpa [answerOf] using hOk.2

end Job

section

variable (hAlone : o.others = id)

include hAlone

theorem limiterChecked_alone :
    job.limiterChecked d o w = job.checked d o.jwks (o.pass w) := by
  unfold Job.limiterChecked
  cases hToken : job.request.credentials with
  | none =>
      rw [Job.checked_of_unlimited]
      · simp [Outside.pass, hAlone]
      · simp [Job.limited, Job.authentication, authentication, hToken]
  | some token => rfl

/-- A request the limiter is not asked about leaves it as it was. -/
theorem limiterAfter_of_unlimited (h : job.limited d o.jwks = none) :
    job.limiterAfter d o w = w.limiter := by
  have hChecked : job.limiterChecked d o w = w.limiter := by
    rw [limiterChecked_alone hAlone, Job.checked_of_unlimited h]
    simp [Outside.pass, hAlone]
  unfold Job.limiterAfter
  cases hOutset : job.outset d o w with
  | error refusal => exact hChecked
  | ok _ =>
      obtain ⟨⟨caller, hCaller⟩, _⟩ := job.outset_ok d o w hOutset
      rw [Job.limited_of_authenticated hCaller] at h
      simp [Plan.settled_of_none _ h, Outside.pass, hAlone, hChecked]

/-- Otherwise it is asked, and told about the child if there was one. -/
theorem limiterAfter_of_limited {username : PyStr}
    (h : job.limited d o.jwks = some username) :
    job.limiterAfter d o w =
      match job.outset d o w with
      | .error _ => limiterAsked o w username
      | .ok () => (limiterAsked o w username).settle d.settings.failedAuth username
          (o.clock (o.clock w.now)) ((job.plan d).ending o.child) := by
  have hChecked : job.limiterChecked d o w = limiterAsked o w username := by
    rw [limiterChecked_alone hAlone, Job.checked_of_limited h]
    simp [limiterAsked, Outside.pass, hAlone]
  unfold Job.limiterAfter
  cases hOutset : job.outset d o w with
  | error refusal => exact hChecked
  | ok _ =>
      obtain ⟨⟨caller, hCaller⟩, _⟩ := job.outset_ok d o w hOutset
      rw [Job.limited_of_authenticated hCaller] at h
      simp [Plan.settled_of_some _ h, Outside.pass, hAlone, hChecked]

end

/-- Without a password the response is the same whatever the limiter holds. -/
theorem verdict_congr (hUser : job.endpoint.passwordUser = none) (limiter : LimiterState) :
    job.verdict d o { w with limiter := limiter } = job.verdict d o w := by
  have hChecks : (job.plan d).checks = none := by
    cases hChecks : (job.plan d).checks with
    | none => rfl
    | some username =>
        rw [job.checks_subset d hChecks] at hUser
        cases hUser
  simp [Job.verdict, Job.outset, Job.opening, Plan.allowed, hChecks]

theorem limiter_frame (hAlone : o.others = id) {other : PyStr}
    (hOther : job.endpoint.passwordUser ≠ some other) :
    job.limiterAfter d o w other = w.limiter other := by
  cases hLimited : job.limited d o.jwks with
  | none => rw [limiterAfter_of_unlimited hAlone hLimited]
  | some username =>
      have hNe : other ≠ username := by
        rintro rfl
        exact hOther (job.passwordUser_of_limited d hLimited)
      have hAsked : limiterAsked o w username other = w.limiter other :=
        LimiterState.check_other _ _ hNe
      rw [limiterAfter_of_limited hAlone hLimited]
      cases job.outset d o w with
      | error refusal => exact hAsked
      | ok _ => exact (LimiterState.settle_other _ _ _ _ hNe).trans hAsked

/-- The limiter is used as it should be, exactly when no failed removal of the
private directory hides a bad password from it. -/
theorem limiter_use_iff (hAlone : o.others = id) :
    LimiterUse d job o w ↔ ¬ VerdictLost d job o w := by
  have hRun := job.runsTo d o w
  constructor
  · rintro hUse ⟨username, hLimited, hOutset, hExit, hRemove⟩
    have hTold : (job.plan d).ending o.child ≠ .bad := fun hTold =>
      hRemove ((job.ending_bad_iff d (job.passwordUser_of_limited d hLimited) o.child).mp hTold).2
    have hBad := hUse.bad username hLimited ⟨hRun.child.mpr hOutset, hExit⟩
    rw [hRun.limiter, limiterAfter_of_limited hAlone hLimited, hOutset] at hBad
    exact LimiterState.settle_ne_recordFailure _ _ _ _ hTold hBad
  · intro hKept
    constructor
    case untouched =>
      intro hLimited
      rw [hRun.limiter, limiterAfter_of_unlimited hAlone hLimited]
    case bad =>
      rintro username hLimited ⟨hStarts, hExit⟩
      have hOutset := hRun.child.mp hStarts
      have hRemove : job.env.rmtree = none :=
        not_not.mp fun hFails => hKept ⟨username, hLimited, hOutset, hExit, hFails⟩
      have hTold := (job.ending_bad_iff d (job.passwordUser_of_limited d hLimited) o.child).mpr
        ⟨hExit, hRemove⟩
      rw [hRun.limiter, limiterAfter_of_limited hAlone hLimited, hOutset, hTold]
      rfl
    case issued =>
      intro username hLimited hIssues
      obtain ⟨hOutset, hTold⟩ := Job.issues_iff.mp hIssues
      rw [hRun.limiter, limiterAfter_of_limited hAlone hLimited, hOutset, hTold]
      rfl
    case other =>
      intro username hLimited hNotBad hNotIssued
      rw [hRun.limiter, limiterAfter_of_limited hAlone hLimited]
      cases hOutset : job.outset d o w with
      | error refusal => rfl
      | ok _ =>
          cases hTold : (job.plan d).ending o.child with
          | bad =>
              have hExit := (job.ending_bad_iff d
                (job.passwordUser_of_limited d hLimited) o.child).mp hTold
              exact absurd ⟨hRun.child.mpr hOutset, hExit.1⟩ hNotBad
          | ok => exact absurd (Job.issues_iff.mpr ⟨hOutset, hTold⟩) hNotIssued
          | other => rfl
    case frame =>
      intro other hOther
      rw [hRun.limiter, limiter_frame hAlone hOther]
    case guarded =>
      intro hStarts
      obtain ⟨⟨caller, hCaller⟩, hOpening⟩ := job.outset_ok d o w (hRun.child.mp hStarts)
      refine ⟨⟨caller, hCaller⟩, fun username hLimited => ?_⟩
      rw [Job.limited_of_authenticated hCaller] at hLimited
      have hAllowed := job.allowed_of_opening d hLimited hOpening
      simpa [Plan.allowed, hLimited, Outside.pass, hAlone] using hAllowed
    case independent =>
      intro hUser limiter
      have hSame := (job.runsTo d o { w with limiter := limiter }).response
      rw [hSame, hRun.response, verdict_congr hUser]

end Alone

theorem bad_password_use :
    LimiterUse sampleDeployment (sampleJob sampleEnv)
        (sampleOutside (sampleFailure "kinit: Password incorrect")) sampleWorld ∧
      ((Job.run sampleDeployment (sampleJob sampleEnv)
        (sampleOutside (sampleFailure "kinit: Password incorrect"))
        sampleWorld).2.limiter (py "gstark")).isSome := by
  refine ⟨(limiter_use_iff rfl).mpr ?_, by decide⟩
  rintro ⟨_, _, _, _, hRemove⟩
  exact hRemove rfl

/-- The removal fails after a bad password, and the limiter never hears of it. -/
theorem lost_verdict_not_recorded :
    ¬ LimiterUse sampleDeployment (sampleJob stuckEnv)
      (sampleOutside (sampleFailure "kinit: Password incorrect")) sampleWorld := by
  intro hUse
  have hRun := (sampleJob stuckEnv).runsTo sampleDeployment
    (sampleOutside (sampleFailure "kinit: Password incorrect")) sampleWorld
  have hFinds : (sampleJob stuckEnv).FindsBadPassword sampleDeployment
      (sampleOutside (sampleFailure "kinit: Password incorrect")) sampleWorld :=
    ⟨hRun.child.mpr rfl, 1, _, _, _, py "bad password", rfl, by decide, rfl⟩
  have hBad := hUse.bad (py "gstark") rfl hFinds
  have hEntry := congrArg Option.isSome (congrFun hBad (py "gstark"))
  have hNone : ((Job.run sampleDeployment (sampleJob stuckEnv)
      (sampleOutside (sampleFailure "kinit: Password incorrect"))
      sampleWorld).2.limiter (py "gstark")).isSome = false := by decide
  rw [hNone] at hEntry
  simp [Entry.recordFailure] at hEntry

end Krb5TokenService.Service
