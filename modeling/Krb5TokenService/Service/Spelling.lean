import Krb5TokenService.Service.Interleaved

/-! One account under many spellings. The KDC takes usernames that differ only
in the case of ASCII letters for one account; the limiter does not. -/
namespace Krb5TokenService.Service

open Python EventLoop
open RateLimit Identity Minting

def asciiLower (c : CodePoint) : CodePoint :=
  if 0x41 ≤ c.val ∧ c.val ≤ 0x5A then CodePoint.ofNat (c.val + 0x20) else c

/-- The two usernames name one account. -/
def SameAccount (account username : PyStr) : Prop :=
  account.map asciiLower = username.map asciiLower

instance (account : PyStr) : DecidablePred (SameAccount account) := fun _ =>
  inferInstanceAs (Decidable (_ = _))

/-- The spellings of an account other than this one. -/
def OtherSpelling (account name other : PyStr) : Prop := SameAccount account other ∧ other ≠ name

instance (account name : PyStr) : DecidablePred (OtherSpelling account name) := fun _ =>
  inferInstanceAs (Decidable (_ ∧ _))

/-- One request at a time. -/
def OneAtATime (replica : Replica) : ReplicaMove → Prop
  | .start _ => replica.waiting = []
  | _ => True

instance (replica : Replica) : DecidablePred (OneAtATime replica)
  | .start _ => decidable_of_iff (replica.waiting.isEmpty = true) List.isEmpty_iff
  | .resume _ _ | .outside _ => .isTrue trivial

/-- The condition under which a limiter with one entry for each spelling is
enough: a bad password for the account is not lost with the removal of its
private directory, and comes only when those of the account's other spellings
are as old as the window or the lockout, whichever is shorter. -/
def SpeltAlike (d : Deployment) (account : PyStr) (replica : Replica) : ReplicaMove → Prop
  | .resume index reply =>
      ∀ w, replica.waiting[index]? = some w →
        ∀ name, w.label.endpoint.passwordUser = some name → SameAccount account name →
          match w.query with
          | .jwks => True
          | .child spec =>
              BadPasswordExit w.label.endpoint.classifier (reply (.child spec)) →
                w.label.env.rmtree = none ∧
                  ∀ e ∈ history (OtherSpelling account name) replica, e.ending = .bad →
                    e.time + min d.settings.failedAuth.windowSeconds
                      d.settings.failedAuth.lockoutSeconds ≤ replica.state.now
  | _ => True

section Histories

variable {replica replica' : Replica} {d : Deployment} {m : ReplicaMove}

/-- A move either ends no child of a password request, or ends one. -/
theorem endings_step (hStep : ReplicaStep d replica m replica') :
    endings replica' = endings replica ∨
      ∃ (index : Nat) (reply : (query : Query) → Reply query) (job : Job) (spec : ChildSpec)
        (next : ChildReply → Action Response) (name : PyStr) (ending : Ending),
      m = .resume index reply ∧ replica.waiting[index]? = some ⟨job, .child spec, next⟩ ∧
      job.endpoint.passwordUser = some name ∧
      (ending = .bad → BadPasswordExit job.endpoint.classifier (reply (.child spec))) ∧
      endings replica' = (name, ⟨replica.state.now, ending⟩) :: endings replica := by
  cases hStep with
  | waited | absent | turnedAway | arrived | refused | started => exact .inl rfl
  | @answered index reply job spec next w' hIndex hChecks hLeaves =>
      cases hUser : job.endpoint.passwordUser with
      | none => exact .inl (by simp [endings, childEnding, hUser])
      | some name =>
          refine .inr ⟨index, reply, job, spec, next, name,
            seenEnding job (reply (.child spec))
              (some (.ok (answerOf ((job.plan d).closing (reply (.child spec)))))),
            rfl, hIndex, hUser, badPasswordExit_of_seen, ?_⟩
          simp [endings, childEnding, hUser]

variable {first second mine : PyStr → Prop} [DecidablePred first] [DecidablePred second]
    [DecidablePred mine] {I : Set ℚ} [DecidablePred (· ∈ I)]

theorem history_congr (h : endings replica' = endings replica) :
    history mine replica' = history mine replica := by
  rw [history, history, h]

theorem history_cons {name : PyStr} {e : Ended}
    (h : endings replica' = (name, e) :: endings replica) :
    history mine replica' =
      if mine name then e :: history mine replica else history mine replica := by
  rw [history, h, List.filter_cons]
  by_cases hMine : mine name
  · simp [hMine, history]
  · simp [hMine, history]

theorem mem_history_of_subset (h : ∀ name, first name → second name) {e : Ended}
    (he : e ∈ history first replica) : e ∈ history second replica := by
  obtain ⟨ending, hEnding, rfl⟩ := List.mem_map.mp he
  obtain ⟨hMem, hFirst⟩ := List.mem_filter.mp hEnding
  refine List.mem_map.mpr ⟨ending, List.mem_filter.mpr ⟨hMem, ?_⟩, rfl⟩
  simpa using h ending.1 (by simpa using hFirst)

/-- Bad passwords under some usernames are bad passwords under one half of
them or the other. -/
theorem badCount_le_add (h : ∀ name, mine name → first name ∨ second name) :
    badCount I (history mine replica) ≤
      badCount I (history first replica) + badCount I (history second replica) := by
  unfold history
  induction endings replica with
  | nil => exact Nat.zero_le _
  | cons ending rest ih =>
      have hHere := h ending.1
      simp only [List.filter_cons, decide_eq_true_eq]
      by_cases hMine : mine ending.1
      · rcases hHere hMine with hFirst | hSecond
        · simp only [hMine, hFirst, if_true, List.map_cons, badCount_cons]
          by_cases hSecond : second ending.1
          · simp only [hSecond, if_true, List.map_cons, badCount_cons]
            omega
          · simp only [hSecond, if_false]
            omega
        · simp only [hMine, hSecond, if_true, List.map_cons, badCount_cons]
          by_cases hFirst : first ending.1
          · simp only [hFirst, if_true, List.map_cons, badCount_cons]
            omega
          · simp only [hFirst, if_false]
            omega
      · have hLe {p : PyStr → Prop} [DecidablePred p] :
            badCount I ((rest.filter fun ending => decide (p ending.1)).map Prod.snd) ≤
              badCount I ((if p ending.1 then
                ending :: rest.filter fun ending => decide (p ending.1)
                else rest.filter fun ending => decide (p ending.1)).map Prod.snd) := by
          split
          · rw [List.map_cons, badCount_cons]
            exact Nat.le_add_right _ _
          · exact le_rfl
        simp only [hMine, if_false]
        exact ih.trans (Nat.add_le_add hLe hLe)

end Histories

section Budget

variable {d : Deployment} {account : PyStr} {replica replica' : Replica} {m : ReplicaMove}

theorem waiting_eq_singleton (hAlone : replica.waiting.length ≤ 1) {index : Nat}
    {p : Waiting Job World PyExc Query Reply Response} (hIndex : replica.waiting[index]? = some p) :
    replica.waiting = [p] := by
  obtain ⟨hIn, rfl⟩ := List.getElem?_eq_some_iff.mp hIndex
  obtain ⟨q, hOne⟩ := List.length_eq_one_iff.mp (show replica.waiting.length = 1 by omega)
  have hZero : index = 0 := by omega
  subst hZero
  simp [hOne]

/-- A request that is served alone finds room whenever the limiter lets it. -/
theorem hasRoom_of_alone (hAlone : replica.waiting.length ≤ 1) {name : PyStr}
    (hBudget : Account.Budgeted d.settings.failedAuth (accountOf name replica))
    (hName : SameAccount account name) (hSpelt : SpeltAlike d account replica m) :
    HasRoom d name replica m := by
  cases m with
  | start job => trivial
  | outside delay => trivial
  | resume index reply =>
      intro w hIndex hUser
      have hHere := hSpelt w hIndex name hUser hName
      obtain ⟨job, query, next⟩ := w
      cases query with
      | child spec => exact fun hExit => (hHere hExit).1
      | jwks =>
          intro hOpening
          obtain ⟨_, hPlan⟩ := job.opening_ok d hOpening
          have hChecks := (job.checks_of_opening d hPlan).trans hUser
          have hPass := job.allowed_of_opening d hChecks hPlan
          simp only [Plan.allowed, hChecks, LimiterState.check_fst] at hPass
          have hIdle : (accountOf name replica).inFlight = 0 := by
            simp only [accountOf, inFlight, waiting_eq_singleton hAlone hIndex]
            simp
          exact hBudget.room_of_idle hIdle hPass

theorem alone_step (hStep : ReplicaStep d replica m replica') (hSerial : OneAtATime replica m)
    (hAlone : replica.waiting.length ≤ 1) : replica'.waiting.length ≤ 1 := by
  cases hStep with
  | waited | absent | turnedAway => exact hAlone
  | arrived =>
      have hEmpty : replica.waiting = [] := hSerial
      simp [hEmpty]
  | refused | answered => exact (List.length_eraseIdx_le ..).trans hAlone
  | started hIndex =>
      obtain ⟨hIn, _⟩ := List.getElem?_eq_some_iff.mp hIndex
      simp only [List.length_append, List.length_eraseIdx_of_lt hIn, List.length_singleton]
      omega

/-- The invariant of serial runs: every spelling has its own budget, and the
bad passwords of any short interval are those of one spelling. -/
structure OneSpelling (d : Deployment) (account : PyStr) (replica : Replica) : Prop where
  conducted : ∀ p ∈ replica.waiting, Conducted d p
  alone : replica.waiting.length ≤ 1
  budgeted : ∀ name, SameAccount account name →
    Account.Budgeted d.settings.failedAuth (accountOf name replica)
  spelt : ∀ (I : Set ℚ) [DecidablePred (· ∈ I)],
    ShortInterval (min d.settings.failedAuth.windowSeconds d.settings.failedAuth.lockoutSeconds) I →
      ∃ name, SameAccount account name ∧
        badCount I (history (SameAccount account) replica) ≤
          badCount I (history (· = name) replica)

theorem freshReplica_oneSpelling (now : ℚ) : OneSpelling d account (freshReplica now) where
  conducted _ hp := absurd hp List.not_mem_nil
  alone := Nat.zero_le _
  budgeted _ _ := Account.fresh_budgeted now
  spelt _ _ _ := ⟨account, rfl, Nat.zero_le _⟩

/-- A bad password that comes late enough after those of the other spellings
leaves every short interval it falls into to its own. -/
theorem badCount_late {name : PyStr} {I : Set ℚ} [DecidablePred (· ∈ I)]
    (hShort : ShortInterval (min d.settings.failedAuth.windowSeconds
      d.settings.failedAuth.lockoutSeconds) I)
    (hNow : replica.state.now ∈ I)
    (hLate : ∀ e ∈ history (OtherSpelling account name) replica, e.ending = .bad →
      e.time + min d.settings.failedAuth.windowSeconds d.settings.failedAuth.lockoutSeconds ≤
        replica.state.now) :
    badCount I (history (SameAccount account) replica) ≤
      badCount I (history (· = name) replica) := by
  have hSplit : badCount I (history (SameAccount account) replica) ≤
      badCount I (history (· = name) replica) +
        badCount I (history (OtherSpelling account name) replica) :=
    badCount_le_add fun other hOther => by
      by_cases hSame : other = name
      · exact .inl hSame
      · exact .inr ⟨hOther, hSame⟩
  have hNone : badCount I (history (OtherSpelling account name) replica) = 0 := by
    simp only [badCount, List.countP_eq_zero, decide_eq_true_eq, not_and]
    intro e he hBad hIn
    have hApart := hLate e he hBad
    have hClose := hShort.short e.time hIn replica.state.now hNow
    linarith
  omega

theorem spelt_step (hStep : ReplicaStep d replica m replica')
    (hSpelt : SpeltAlike d account replica m) (h : OneSpelling d account replica) (I : Set ℚ)
    [DecidablePred (· ∈ I)]
    (hShort : ShortInterval (min d.settings.failedAuth.windowSeconds
      d.settings.failedAuth.lockoutSeconds) I) :
    ∃ name, SameAccount account name ∧
      badCount I (history (SameAccount account) replica') ≤
        badCount I (history (· = name) replica') := by
  obtain ⟨kept, hKept, hCount⟩ := h.spelt I hShort
  obtain hSame | ⟨index, reply, job, spec, next, name, ending, rfl, hIndex, hUser, hExit, hEnds⟩ :=
    endings_step hStep
  · exact ⟨kept, hKept, by rwa [history_congr hSame, history_congr hSame]⟩
  · by_cases hName : SameAccount account name
    · by_cases hHere : ending = .bad ∧ replica.state.now ∈ I
      · obtain ⟨_, hLate⟩ := hSpelt _ hIndex name hUser hName (hExit hHere.1)
        have hOwn := badCount_late hShort hHere.2 hLate
        refine ⟨name, hName, ?_⟩
        rw [history_cons hEnds, history_cons hEnds, if_pos hName, if_pos rfl, badCount_cons,
          badCount_cons]
        exact Nat.add_le_add_right hOwn _
      · refine ⟨kept, hKept, ?_⟩
        rw [history_cons hEnds, if_pos hName, badCount_cons, if_neg hHere, history_cons hEnds]
        refine hCount.trans ?_
        split
        · rw [badCount_cons]
          exact Nat.le_add_right _ _
        · exact le_rfl
    · have hOther : ¬ name = kept := fun hSame => hName (hSame ▸ hKept)
      refine ⟨kept, hKept, ?_⟩
      rw [history_cons hEnds, history_cons hEnds, if_neg hName, if_neg hOther]
      exact hCount

theorem move_oneSpelling (replica : Replica) (m : ReplicaMove)
    (hGuard : OneAtATime replica m ∧ SpeltAlike d account replica m)
    (h : OneSpelling d account replica) :
    OneSpelling d account (replica.move (Job.task d) wait m) := by
  have hStep := move_steps replica m h.conducted
  exact {
    conducted := move_conducted replica m h.conducted
    alone := alone_step hStep hGuard.1 h.alone
    budgeted := fun name hName =>
      (h.budgeted name hName).run
        (step_simulates hStep (hasRoom_of_alone h.alone (h.budgeted name hName) hName hGuard.2))
    spelt := fun I _ hShort => spelt_step hStep hGuard.2 h I hShort }

/-- In every serial run whose bad passwords for the account come under one
spelling at a time, no interval shorter than the window and the lockout that
holds no success for the account holds more bad passwords for it than attempts
allowed. -/
theorem account_within_budget (d : Deployment) (account : PyStr) (now : ℚ)
    (moves : List ReplicaMove)
    (hGuard : (freshReplica now).Meets (Job.task d) wait
      (fun replica m => OneAtATime replica m ∧ SpeltAlike d account replica m) moves) :
    WithinBudget d.settings.failedAuth
      (history (SameAccount account) ((freshReplica now).run (Job.task d) wait moves)) := by
  have hEnd := Loop.run_invariant move_oneSpelling hGuard (freshReplica_oneSpelling now)
  intro I _ hShort hNoOk
  obtain ⟨name, hName, hCount⟩ := hEnd.spelt I hShort
  have hOwn : NoOkIn I (history (· = name) ((freshReplica now).run (Job.task d) wait moves)) := by
    intro e he
    refine hNoOk e (mem_history_of_subset ?_ he)
    rintro other rfl
    exact hName
  exact hCount.trans ((hEnd.budgeted name hName).bounded I hShort hOwn)

end Budget

section Cases

/-- A `mint` with a wrong password under this spelling, to its end. -/
def badAttempt (name : String)
    (hOne : (some (py "secret")).isNone ≠ (none : Option PyStr).isNone := by decide) :
    List ReplicaMove :=
  [.start ⟨sampleEnv, sampleRequest, .mint ⟨py name, some (py "secret"), none, none, none, hOne⟩⟩,
    .resume 0 (sampleReplies "kinit: Password incorrect"),
    .resume 0 (sampleReplies "kinit: Password incorrect")]

/-- A wrong password under each of two spellings, an hour apart. -/
def farApart : List ReplicaMove := badAttempt "gstark" ++ .outside 3600 :: badAttempt "GStark"

theorem far_apart_within_budget :
    (history (SameAccount (py "gstark"))
        ((freshReplica 0).run (Job.task sampleDeployment) wait farApart)).length = 2 ∧
      WithinBudget sampleDeployment.settings.failedAuth
        (history (SameAccount (py "gstark"))
          ((freshReplica 0).run (Job.task sampleDeployment) wait farApart)) := by
  refine ⟨by decide +kernel, account_within_budget sampleDeployment (py "gstark") 0 _
    ⟨⟨rfl, trivial⟩, ⟨trivial, ?_⟩, ⟨trivial, ?_⟩, ⟨trivial, trivial⟩, ⟨rfl, trivial⟩,
      ⟨trivial, ?_⟩, ⟨trivial, ?_⟩, trivial⟩⟩
  · intro w hIndex _ _ _
    obtain rfl := Option.some.inj hIndex
    trivial
  · intro w hIndex name _ _
    obtain rfl := Option.some.inj hIndex
    refine fun _ => ⟨rfl, fun e he => ?_⟩
    cases he
  · intro w hIndex _ _ _
    obtain rfl := Option.some.inj hIndex
    trivial
  · intro w hIndex name hUser _
    obtain rfl := Option.some.inj hIndex
    obtain rfl := Option.some.inj hUser
    refine fun _ => ⟨rfl, ?_⟩
    decide +kernel

/-- Three bad passwords under one spelling, then one more under another. -/
theorem two_spellings_exceed_budget :
    (freshReplica 0).Meets (Job.task sampleDeployment) wait OneAtATime
        (badAttempt "gstark" ++ badAttempt "gstark" ++ badAttempt "gstark" ++
          badAttempt "GStark") ∧
      ¬ WithinBudget sampleDeployment.settings.failedAuth
        (history (SameAccount (py "gstark"))
          ((freshReplica 0).run (Job.task sampleDeployment) wait
            (badAttempt "gstark" ++ badAttempt "gstark" ++ badAttempt "gstark" ++
              badAttempt "GStark"))) := by
  refine ⟨by decide +kernel, fun hBudget => ?_⟩
  have hCount := hBudget (Set.Icc 0 0)
    (ShortInterval.Icc (by norm_num [sampleDeployment])) (by decide +kernel)
  exact absurd hCount (by decide +kernel)

end Cases

end Krb5TokenService.Service
