import Krb5TokenService.Service.Replica

/-! How many bad passwords any interleaving of requests can cost one account,
as long as the children that run at the same time leave room for them. -/
namespace Krb5TokenService.Service

open Python EventLoop
open RateLimit Identity Minting

section Budget

variable {d : Deployment} {username : PyStr}

/-- The replica's invariant: its requests conduct themselves, and the account
of `username` is within its budget. -/
structure WithinAccount (d : Deployment) (username : PyStr) (replica : Replica) : Prop where
  conducted : ∀ p ∈ replica.waiting, Conducted d p
  budgeted : Account.Budgeted d.settings.failedAuth (accountOf username replica)

theorem freshReplica_withinAccount (now : ℚ) : WithinAccount d username (freshReplica now) :=
  ⟨fun _ hp => absurd hp List.not_mem_nil, Account.fresh_budgeted now⟩

theorem move_withinAccount (replica : Replica) (m : ReplicaMove)
    (hRoom : HasRoom d username replica m) (h : WithinAccount d username replica) :
    WithinAccount d username (replica.move (Job.task d) wait m) := by
  have hStep := move_steps replica m h.conducted
  exact ⟨move_conducted replica m h.conducted, h.budgeted.run (step_simulates hStep hRoom)⟩

/-- In every interleaving of requests whose moves leave room, no interval
shorter than the window and the lockout that holds no success for `username`
holds more bad passwords for it than attempts allowed. -/
theorem bad_passwords_within_budget (d : Deployment) (username : PyStr) (now : ℚ)
    (moves : List ReplicaMove)
    (hRoom : (freshReplica now).Meets (Job.task d) wait (HasRoom d username) moves) :
    WithinBudget d.settings.failedAuth
      (history (· = username) ((freshReplica now).run (Job.task d) wait moves)) :=
  (Loop.run_invariant move_withinAccount hRoom (freshReplica_withinAccount now)).budgeted.bounded

end Budget

section Cases

/-- Every request gets its key list, and a child that fails with this line. -/
def sampleReplies (line : String) : (query : Query) → Reply query
  | .jwks => .keys sampleKeys
  | .child _ => sampleFailure line

/-- The keytab request of the same user. -/
def sampleKeytabJob : Job :=
  ⟨{ sampleEnv with uuid := py "request-2" }, sampleRequest, .keytab ⟨py "gstark", py "secret"⟩⟩

def noCredentials : String := "Error: Could not find any credentials to authenticate with."

/-- Requests of both endpoints, whose children run at the same time. -/
def bothEndpoints : List ReplicaMove :=
  [.start (sampleJob sampleEnv), .start sampleKeytabJob,
    .resume 0 (sampleReplies "kinit: Password incorrect"), .resume 0 (sampleReplies noCredentials),
    .resume 0 (sampleReplies "kinit: Password incorrect"), .resume 0 (sampleReplies noCredentials)]

theorem both_endpoints_within_budget :
    (history (· = py "gstark")
        ((freshReplica 0).run (Job.task sampleDeployment) wait bothEndpoints)).length = 2 ∧
      WithinBudget sampleDeployment.settings.failedAuth
        (history (· = py "gstark")
          ((freshReplica 0).run (Job.task sampleDeployment) wait bothEndpoints)) := by
  refine ⟨by decide +kernel, bad_passwords_within_budget sampleDeployment (py "gstark") 0 _
    ⟨trivial, trivial, ?_, ?_, ?_, ?_, trivial⟩⟩
  · intro w hIndex _
    obtain rfl := Option.some.inj hIndex
    intro _
    decide
  · intro w hIndex _
    obtain rfl := Option.some.inj hIndex
    intro _
    decide
  · intro w hIndex _
    obtain rfl := Option.some.inj hIndex
    exact fun _ => rfl
  · intro w hIndex _
    obtain rfl := Option.some.inj hIndex
    exact fun _ => rfl

/-- Four requests at once: each is checked before any of their children ends. -/
def fourAtOnce : List ReplicaMove :=
  List.replicate 4 (.start (sampleJob sampleEnv)) ++
    List.replicate 8 (.resume 0 (sampleReplies "kinit: Password incorrect"))

/-- A budget of three attempts, and four bad passwords at one moment. -/
theorem four_at_once_exceed_budget :
    ¬ WithinBudget sampleDeployment.settings.failedAuth
      (history (· = py "gstark")
        ((freshReplica 0).run (Job.task sampleDeployment) wait fourAtOnce)) := by
  intro hBudget
  have hCount := hBudget (Set.Icc 0 0)
    (ShortInterval.Icc (by norm_num [sampleDeployment])) (by decide +kernel)
  exact absurd hCount (by decide +kernel)

end Cases

end Krb5TokenService.Service
