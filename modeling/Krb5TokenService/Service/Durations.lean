import Krb5TokenService.Minting.DurationValue
import Krb5TokenService.Service.BadOutput
import Krb5TokenService.Service.Limited

/-! What becomes of a request for a duration that `kinit` cannot use: the
validator lets its string pass, and the refusal is reported like any other. -/
namespace Krb5TokenService.Service

open Python EventLoop Minting

/-- Both lifetimes that `kinit` would be given pass the validator. -/
structure LifetimesAccepted (settings : Settings) (body : MintRequest) : Prop where
  lifetime : validateLifetime (orDefault body.lifetime settings.defaultLifetime) = .ok ()
  renewable : validateLifetime
    (orDefault body.renewableLifetime settings.defaultRenewableLifetime) = .ok ()

/-- The child exits with an error in which its classifier finds no class. -/
def UnclassifiedExit (endpoint : Endpoint) (reply : ChildReply) : Prop :=
  ∃ returncode stdout stderr output, reply = .exited returncode stdout stderr output ∧
    returncode ≠ 0 ∧ endpoint.classifier (stderrText stderr) = none

namespace Job

variable {d : Deployment} {job other : Job} {o : Outside} {w : World}

/-- Two requests with one opening get equally far. -/
theorem startsChild_congr (hEnv : job.env = other.env) (hRequest : job.request = other.request)
    (hChecks : (job.plan d).checks = (other.plan d).checks)
    (hOpening : (job.plan d).opening = (other.plan d).opening) :
    job.StartsChild d o w ↔ other.StartsChild d o w := by
  have hOutset : job.outset d o w = other.outset d o w := by
    simp only [outset, opening, authentication, Plan.allowed, hEnv, hRequest, hChecks, hOpening]
  rw [(job.runsTo d o w).child, (other.runsTo d o w).child, hOutset]

end Job

section Requests

variable {d : Deployment} {job : Job} {o : Outside} {w : World} {body : MintRequest}

theorem mintValid_of_accepted {settings : Settings} (h : LifetimesAccepted settings body) :
    mintValid settings body = usernameGate body.username := by
  have hGate : lifetimesGate (orDefault body.lifetime settings.defaultLifetime)
      (orDefault body.renewableLifetime settings.defaultRenewableLifetime) = .ok () := by
    simp [lifetimesGate, h.lifetime, h.renewable]
  rw [mintValid, hGate]
  cases usernameGate body.username <;> rfl

/-- Which accepted lifetimes a request asks for does not decide whether its
`kinit` is started. -/
theorem startsChild_lifetimes (env : Env) (request : Request) {asking : MintRequest}
    (hAccepted : LifetimesAccepted d.settings body)
    (hAsking : LifetimesAccepted d.settings asking)
    (hUsername : asking.username = body.username) (hPassword : asking.password = body.password)
    (hKeytab : asking.keytabB64 = body.keytabB64) :
    Job.StartsChild d ⟨env, request, .mint asking⟩ o w ↔
      Job.StartsChild d ⟨env, request, .mint body⟩ o w := by
  have hValid : mintValid d.settings asking = mintValid d.settings body := by
    rw [mintValid_of_accepted hAsking, mintValid_of_accepted hAccepted, hUsername]
  refine Job.startsChild_congr rfl rfl ?_ ?_
  · simp only [Job.plan, Plan.map, mintPlan, hValid, hPassword, hUsername]
  · simp only [Job.plan, Plan.map, mintPlan, hValid, hPassword, hKeytab]

/-- A `kinit` that fails for a reason of its own is a failed minting. -/
theorem unclassified_reported (hMint : job.endpoint = .mint body)
    (hStarts : job.StartsChild d o w) (hExit : UnclassifiedExit job.endpoint o.child)
    (hRemoved : job.env.rmtree = none) :
    ReportedFailed (py "Ticket minting failed.") w (job.run d o w) := by
  obtain ⟨returncode, stdout, stderr, output, hReply, hStatus, hClass⟩ := hExit
  rw [reportedFailed_iff hStarts, hReply]
  rw [hMint, Endpoint.classifier] at hClass
  simp only [Job.plan, hMint, Plan.map, mintPlan, ticketVerdict, kinitVerdict, childVerdict,
    hStatus, ne_eq, not_false_eq_true, if_true, failureVerdict, hClass, Option.getD_none, removed,
    hRemoved]
  exact ⟨rfl, rfl⟩

end Requests

section Asked

variable {value : PyStr}

theorem orDefault_nonempty {default : PyStr} (h : value ≠ []) :
    orDefault (some value) default = value := by
  cases value with
  | nil => exact absurd rfl h
  | cons c rest => rfl

theorem accepted_nonempty (h : validateLifetime value = .ok ()) : value ≠ [] :=
  isDuration_nonempty (validateLifetime_ok_iff.mp h)

/-- The range of an accepted duration: it is zero exactly when its digits are,
it is bounded in the clock form, and otherwise it is any number of seconds. As
either lifetime of a request it does not decide whether `kinit` is started, and
a refusal of `kinit` without a class of its own is a 502. -/
theorem accepted_duration_range (hAccepted : validateLifetime value = .ok ())
    (hAscii : ∀ c ∈ value, isDigit c = true → isAsciiDigit c = true) :
    (1 ≤ durationSeconds value ↔ ∃ c ∈ value, isAsciiDigit c = true ∧ c ≠ 0x30) ∧
    (0x3A ∈ value → durationSeconds value ≤ 3602439) ∧
    (∀ n, ∃ text, validateLifetime text = .ok () ∧ (∀ c ∈ text, isAsciiDigit c = true) ∧
      durationSeconds text = n) ∧
    ∀ (d : Deployment) (env : Env) (request : Request) (body asking : MintRequest) (o : Outside)
      (w : World), LifetimesAccepted d.settings body →
      asking = { body with lifetime := some value } ∨
        asking = { body with renewableLifetime := some value } →
      (Job.StartsChild d ⟨env, request, .mint asking⟩ o w ↔
        Job.StartsChild d ⟨env, request, .mint body⟩ o w) ∧
      (Job.StartsChild d ⟨env, request, .mint asking⟩ o w →
        UnclassifiedExit (.mint asking) o.child → env.rmtree = none →
        ReportedFailed (py "Ticket minting failed.") w
          (Job.run d ⟨env, request, .mint asking⟩ o w)) := by
  refine ⟨accepted_pos_iff hAccepted hAscii, accepted_clock_le hAccepted hAscii,
    exists_accepted, ?_⟩
  intro d env request body asking o w hBody hAsking
  have hValue {default : PyStr} : orDefault (some value) default = value :=
    orDefault_nonempty (accepted_nonempty hAccepted)
  refine ⟨?_, fun hStarts hExit hRemoved => unclassified_reported rfl hStarts hExit hRemoved⟩
  rcases hAsking with rfl | rfl
  · exact startsChild_lifetimes env request hBody
      ⟨by rw [hValue, hAccepted], hBody.renewable⟩ rfl rfl rfl
  · exact startsChild_lifetimes env request hBody
      ⟨hBody.lifetime, by rw [hValue, hAccepted]⟩ rfl rfl rfl

theorem accepted_duration_range_clock : durationSeconds (py "36:00") ≤ 3602439 := by
  have hAccepted : validateLifetime (py "36:00") = .ok () := rfl
  have hAll : (py "36:00").all (fun c => !isDigit c || isAsciiDigit c) = true := by decide
  have hAscii : ∀ c ∈ py "36:00", isDigit c = true → isAsciiDigit c = true := by
    intro c hMem hDigit
    have hEach := List.all_eq_true.mp hAll c hMem
    simpa [hDigit] using hEach
  exact (accepted_duration_range hAccepted hAscii).2.1 (by decide)

/-- Zero seconds and more than three thousand years pass the validator. -/
theorem unusable_durations_accepted :
    (validateLifetime (py "0") = .ok () ∧ (py "0").all isAsciiDigit = true ∧
      ¬ (1 ≤ durationSeconds (py "0") ∧ durationSeconds (py "0") ≤ 2 ^ 31 - 1)) ∧
    validateLifetime (py "99999999999") = .ok () ∧ (py "99999999999").all isAsciiDigit = true ∧
      ¬ (1 ≤ durationSeconds (py "99999999999") ∧
        durationSeconds (py "99999999999") ≤ 2 ^ 31 - 1) := by
  refine ⟨⟨by rfl, by decide, by decide⟩, by rfl, by decide, by decide +kernel⟩

end Asked

end Krb5TokenService.Service
