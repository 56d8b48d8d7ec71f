import Krb5TokenService.Minting.Conduct
import Krb5TokenService.Service.Stretch

/-! The handlers follow their plans: in every state, whatever the child does
and whatever has happened to the shared state while it ran. -/
namespace Krb5TokenService.Service

open Python Python.Base64 EventLoop EventLoop.Task Krb5TokenService.Action
open RateLimit Identity Minting

section Gates

variable {w : World} (caller : Caller)

/-- A refusal writes its audit line and raises. -/
theorem refuse_gate {α : Type} (username : Option PyStr) {refusal : Refusal} {outcome : Outcome}
    {status : Nat} {detail : PyStr} (hResponse : refusal.response = ⟨status, .detail detail, []⟩)
    (hAudited : refusal.audited = some outcome) (Accepts : α → Prop) :
    Gate (caller.refuse username outcome status detail) w (.error refusal) Accepts w.limiter :=
  ⟨_, _, rfl, hResponse.symm, rfl, rfl, by simp [hAudited]⟩

theorem raise_gate {α : Type} (exc : PyExc) (Accepts : α → Prop) :
    Gate (throw exc : Action α) w (.error (.raised exc)) Accepts w.limiter :=
  ⟨exc, w, rfl, rfl, .rfl⟩

theorem pure_gate {α : Type} {Accepts : α → Prop} (value : α) (h : Accepts value) :
    Gate (pure value : Action α) w (.ok ()) Accepts w.limiter :=
  ⟨value, w, rfl, h, .rfl⟩

theorem checkUsername_gate (username : PyStr) :
    Gate (checkUsername caller username) w (usernameGate username) (fun _ => True) w.limiter := by
  unfold checkUsername usernameGate validateUsername
  split
  · exact pure_gate () trivial
  · exact refuse_gate caller none rfl rfl _

theorem checkLifetimes_gate (username lifetime renewableLifetime : PyStr) :
    Gate (checkLifetimes caller username lifetime renewableLifetime) w
      (lifetimesGate lifetime renewableLifetime) (fun _ => True) w.limiter := by
  unfold checkLifetimes lifetimesGate validateLifetime
  split
  · split
    · exact pure_gate () trivial
    · exact refuse_gate caller (some username) rfl rfl _
  · exact refuse_gate caller (some username) rfl rfl _

theorem advance_checkLimiter (username : PyStr) :
    (checkLimiter username).advance w =
      (.finished ((w.limiter.check username w.now).1.mapError .rateLimited),
        { w with limiter := (w.limiter.check username w.now).2 }) := rfl

/-- The limiter's check, which also clears a lockout that has run out. -/
theorem checkAllowed_gate (username : PyStr) :
    Gate (checkAllowed caller username) w (limiterGate (w.limiter.check username w.now).1)
      (fun _ => True) (w.limiter.check username w.now).2 := by
  cases hCheck : (w.limiter.check username w.now).1 with
  | ok _ =>
      refine ⟨(), { w with limiter := (w.limiter.check username w.now).2 }, ?_, trivial,
        rfl, rfl, by simp⟩
      rw [checkAllowed, advance_tryCatch, advance_checkLimiter, hCheck]
      rfl
  | error exc =>
      have hRefuse : Gate
          (caller.refuse (some username) .denied 429 (py exc.message) : Action Unit)
          { w with limiter := (w.limiter.check username w.now).2 }
          (.error (.denied 429 (py exc.message))) (fun _ => True)
          (w.limiter.check username w.now).2 :=
        refuse_gate caller (some username) rfl rfl _
      obtain ⟨raised, w', hAdvance, hResponse, hLeaves⟩ := hRefuse
      refine ⟨raised, w', ?_, hResponse, hLeaves.limiter, hLeaves.now, hLeaves.audits⟩
      rw [checkAllowed, advance_tryCatch, advance_checkLimiter, hCheck]
      exact hAdvance

theorem passwordBuffer_gate (password : PyStr) :
    Gate (passwordBuffer password) w (passwordGate password) (fun _ => True) w.limiter := by
  unfold passwordBuffer passwordGate
  cases password.encode with
  | none => exact raise_gate _ _
  | some bytes =>
      have hFrame := (mintFrame_harmless.keeps_newBytearray bytes).advance w
      exact ⟨_, _, rfl, trivial, .of_frame hFrame⟩

/-- Which of `mint_ticket`'s two credentials is given. -/
def OneCredential (keytabMode : Bool) (credential : Option Ref × Option Ref) : Prop :=
  credential.1.isNone = keytabMode ∧ credential.2.isSome = keytabMode

theorem mintCredential_gate_password (body : MintRequest) {password : PyStr}
    (hMode : body.password = some password) :
    Gate (mintCredential caller body) w
      (do limiterGate (w.limiter.check body.username w.now).1; passwordGate password)
      (OneCredential false) (w.limiter.check body.username w.now).2 := by
  simp only [mintCredential, hMode]
  refine (checkAllowed_gate caller body.username).bind (fun _ => rfl) fun _ w' _ _ hLeaves => ?_
  rw [← hLeaves.limiter]
  cases hGate : passwordGate password with
  | ok _ =>
      obtain ⟨buf, w'', hAdvance, _, hRest⟩ : Gate (passwordBuffer password) w' (.ok ())
        (fun _ => True) w'.limiter := hGate ▸ passwordBuffer_gate password
      exact ⟨(some buf, none), w'', advance_bind_ok hAdvance, ⟨rfl, rfl⟩, hRest⟩
  | error refusal =>
      obtain ⟨exc, w'', hAdvance, hResponse, hRest⟩ : Gate (passwordBuffer password) w'
        (.error refusal) (fun _ => True) w'.limiter := hGate ▸ passwordBuffer_gate password
      exact ⟨exc, w'', advance_bind_error hAdvance, hResponse, hRest⟩

theorem mintCredential_gate_keytab (body : MintRequest) (hMode : body.password = none) :
    Gate (mintCredential caller body) w
      (base64Gate (body.keytabB64.getD []) (py "invalid keytab_b64"))
      (OneCredential true) w.limiter := by
  simp only [mintCredential, hMode, base64Gate]
  cases b64decode (body.keytabB64.getD []) with
  | none => exact refuse_gate caller (some body.username) rfl rfl _
  | some bytes =>
      have hFrame := (mintFrame_harmless.keeps_newBytearray bytes).advance w
      exact ⟨_, _, rfl, ⟨rfl, rfl⟩, .of_frame hFrame⟩

theorem renewCcache_gate (body : RenewRequest) :
    Gate (renewCcache caller body) w (base64Gate body.ccacheB64 (py "invalid ccache_b64"))
      (fun bytes => b64decode body.ccacheB64 = some bytes) w.limiter := by
  unfold renewCcache base64Gate
  cases b64decode body.ccacheB64 with
  | none => exact refuse_gate caller none rfl rfl _
  | some bytes => exact pure_gate _ rfl

end Gates

section Closings

variable {w : World} (settings : Settings) (caller : Caller)

/-- The `try` around a minting operation that has ended, and what follows it. -/
theorem closing_ends {α β : Type} {task : Action β} {outcome : Except PyExc β}
    {failure : PyExc → Action β} {success : β → Action α}
    (exit : Except PyExc β → Except Refusal α) {limiter : LimiterState}
    (hEnd : task.Finishes w outcome) (hKeeps : task.Keeps MintFrame)
    (hFailure : ∀ exc w', outcome = .error exc → Leaves w.limiter none w w' →
      ∃ refusal, exit (.error exc) = .error refusal ∧
        Gate (failure exc) w' (.error refusal) (fun _ => True) limiter)
    (hSuccess : ∀ value w', outcome = .ok value → Leaves w.limiter none w w' →
      Ends (success value) w' (exit (.ok value)) limiter) :
    Ends (tryCatch task failure >>= success) w (exit outcome) limiter := by
  obtain ⟨w', hAdvance⟩ := hEnd
  have hLeaves : Leaves w.limiter none w w' := by
    have hFrame := hKeeps.advance w
    rw [hAdvance] at hFrame
    exact .of_frame hFrame
  cases outcome with
  | ok value =>
      refine Ends.of_bind ?_ hLeaves (hSuccess value w' rfl hLeaves)
      rw [advance_tryCatch, hAdvance]
  | error exc =>
      obtain ⟨refusal, hExit, raised, w'', hRaise, hResponse, hRest⟩ := hFailure exc w' rfl hLeaves
      rw [hExit]
      refine ⟨.error raised, w'', advance_bind_error ?_, hResponse, hLeaves.trans hRest⟩
      rw [advance_tryCatch, hAdvance]
      exact hRaise

/-- An audit line `issued`, then the response. -/
theorem issue_ends {α : Type} (username : Option PyStr) (principal : PyStr) (value : α) :
    Ends (do caller.issue username principal; pure value : Action α) w (.ok value) w.limiter :=
  ⟨.ok value, _, rfl, rfl, rfl, rfl, by simp [audited]⟩

theorem recordFailure_refuse_gate {α : Type} (username : PyStr) :
    Gate (do
        recordFailure settings username
        caller.refuse (some username) .denied 400 (py "bad password") : Action α) w
      (.error (.denied 400 (py "bad password"))) (fun _ => True)
      (w.limiter.recordFailure settings.failedAuth username w.now) :=
  ⟨_, _, rfl, rfl, rfl, rfl, by simp [Refusal.denied]⟩

theorem mintFailure_gate (username : PyStr) (exc : PyExc) :
    ∃ refusal, mintExit (.error exc) = .error refusal ∧
      Gate (mintFailure settings caller username exc) w (.error refusal) (fun _ => True)
        (w.limiter.settle settings.failedAuth username w.now
          (endingOf (.error exc : Except PyExc MintedTicket))) := by
  cases exc with
  | badPassword => exact ⟨_, rfl, recordFailure_refuse_gate settings caller username⟩
  | badKeytab | unknownPrincipal | accountUnusable | minting =>
      exact ⟨_, rfl, refuse_gate caller (some username) rfl rfl _⟩
  | _ => exact ⟨_, rfl, raise_gate _ _⟩

theorem renewFailure_gate (exc : PyExc) :
    ∃ refusal, renewExit (.error exc) = .error refusal ∧
      Gate (renewFailure caller exc) w (.error refusal) (fun _ => True) w.limiter := by
  cases exc with
  | ccacheParse | ticketExpired | minting => exact ⟨_, rfl, refuse_gate caller none rfl rfl _⟩
  | _ => exact ⟨_, rfl, raise_gate _ _⟩

theorem keytabFailure_gate (username principal : PyStr) (exc : PyExc) :
    ∃ refusal, keytabExit principal (.error exc) = .error refusal ∧
      Gate (keytabFailure settings caller username exc) w (.error refusal) (fun _ => True)
        (w.limiter.settle settings.failedAuth username w.now
          (endingOf (.error exc : Except PyExc Bytes))) := by
  cases exc with
  | badPassword => exact ⟨_, rfl, recordFailure_refuse_gate settings caller username⟩
  | minting => exact ⟨_, rfl, refuse_gate caller (some username) rfl rfl _⟩
  | _ => exact ⟨_, rfl, raise_gate _ _⟩

end Closings

/-- A handler that follows its plan from every state. -/
def Follows {α : Type} (settings : Settings) (task : Action α) (plan : Plan α) : Prop :=
  ∀ w, Conducts task w (plan.opening (plan.allowed w)) (plan.checked w) plan.closing
    fun reply => plan.settled settings.failedAuth (plan.ending reply)

section Handlers

variable {w : World} (settings : Settings) (krb5 : Krb5) (env : Env) (caller : Caller)

/-- A minting operation inside its `try`: refused before its child, or ending
as the child's end decides. -/
theorem operation_conducts {α β : Type} {task : Action β} {opening : Except Refusal Unit}
    {failure : PyExc → Action β} {success : β → Action α}
    (exit : Except PyExc β → Except Refusal α) {outcome : ChildReply → Except PyExc β}
    {settled : ChildReply → World → LimiterState} (hKeeps : task.Keeps MintFrame)
    (hRefused : ∀ refusal, opening = .error refusal → ∃ exc, task.Finishes w (.error exc) ∧
      ∀ w', Gate (failure exc) w' (.error refusal) (fun _ => True) w'.limiter)
    (hAsks : opening = .ok () → ∃ spec, task.Asks w (.child spec) outcome)
    (hClosing : ∀ task' reply w₁, task'.Keeps MintFrame → task'.Finishes w₁ (outcome reply) →
      Ends (tryCatch task' failure >>= success) w₁ (exit (outcome reply)) (settled reply w₁)) :
    Conducts (tryCatch task failure >>= success) w opening w.limiter
      (fun reply => exit (outcome reply)) settled := by
  cases hOpening : opening with
  | ok _ =>
      obtain ⟨spec, next, w', hAdvance, hNext⟩ := hAsks hOpening
      refine ⟨spec, _, w', advance_bind_waiting ?_, ?_, fun reply w₁ =>
        hClosing (next reply) reply w₁ (hKeeps.waiting hAdvance reply) (hNext reply w₁)⟩
      · rw [advance_tryCatch, hAdvance]
      · have hFrame := hKeeps.advance w
        rw [hAdvance] at hFrame
        exact .of_frame hFrame
  | error refusal =>
      obtain ⟨exc, hEnd, hGate⟩ := hRefused refusal hOpening
      refine closing_ends (fun _ => .error refusal) hEnd hKeeps ?_ ?_
      · intro exc' w' hExc hLeaves
        cases hExc
        refine ⟨refusal, rfl, ?_⟩
        rw [← hLeaves.limiter]
        exact hGate w'
      · intro value w' hValue _
        cases hValue

/-- The file-system steps before a child raise `OSError`s, which none of the
handlers catches. -/
theorem preparedGate_refused {β : Type} {task : Action β} {writesInput : Bool} {refusal : Refusal}
    {failure : PyExc → Action β}
    (hGate : ∀ message w', Gate (failure (.osError message)) w' (.error (.raised (.osError [])))
      (fun _ => True) w'.limiter)
    (hUnprepared : ¬ Prepared env writesInput →
      ∃ message, task.Finishes w (.error (.osError message)))
    (hRefused : preparedGate env writesInput = .error refusal) :
    ∃ exc, task.Finishes w (.error exc) ∧
      ∀ w', Gate (failure exc) w' (.error refusal) (fun _ => True) w'.limiter := by
  unfold preparedGate at hRefused
  split at hRefused
  · simp at hRefused
  · rename_i hNot
    obtain ⟨message, hEnd⟩ := hUnprepared hNot
    cases hRefused
    exact ⟨.osError message, hEnd, hGate message⟩

theorem mintTicket_conducts (body : MintRequest) (lifetime renewableLifetime : PyStr)
    (credential : Option Ref × Option Ref) (hOne : OneCredential body.password.isNone credential) :
    Conducts (do
        let minted ← tryCatch
          (mintTicket settings krb5 env body.username credential.1 lifetime renewableLifetime
            credential.2)
          (mintFailure settings caller body.username)
        mintSuccess caller body minted) w
      (preparedGate env body.password.isNone) w.limiter
      (mintPlan settings krb5 env body).closing
      (fun reply w₁ =>
        if body.password.isSome then
          w₁.limiter.settle settings.failedAuth body.username w₁.now
            ((mintPlan settings krb5 env body).ending reply)
        else w₁.limiter) := by
  obtain ⟨hPassword, hKeytab⟩ := hOne
  have hExactly : credential.1.isNone ≠ credential.2.isNone := by
    rw [hPassword, ← hKeytab, ← Option.not_isSome]
    cases credential.2.isSome <;> simp
  refine operation_conducts mintExit (mintFrame_harmless.keeps_mintTicket ..) ?_ ?_ ?_
  · intro refusal hRefused
    refine preparedGate_refused env (fun message w' => raise_gate (.osError message) _) ?_ hRefused
    rw [← hKeytab]
    exact mintTicket_unprepared settings krb5 env _ lifetime renewableLifetime hExactly
  · intro hGate
    have hPrepared := (preparedGate_ok_iff env _).mp hGate
    rw [← hKeytab] at hPrepared ⊢
    obtain ⟨stdin, hAsks⟩ := mintTicket_asks settings krb5 env (w := w) body.username lifetime
      renewableLifetime hExactly hPrepared
    exact ⟨_, hAsks⟩
  · intro task' reply w₁ hKeeps hEnd
    refine closing_ends _ hEnd hKeeps ?_ ?_
    · intro exc w' hExc hLeaves
      obtain ⟨refusal, hExit, hGate⟩ :=
        mintFailure_gate (w := w') settings caller body.username exc
      refine ⟨refusal, hExit, ?_⟩
      rw [hLeaves.limiter, hLeaves.now] at hGate
      cases hMode : body.password with
      | some password =>
          have hEnding : (mintPlan settings krb5 env body).ending reply =
              endingOf (.error exc : Except PyExc MintedTicket) := congrArg endingOf hExc
          rw [hEnding]
          exact hGate
      | none =>
          rw [hMode] at hExc
          cases exc with
          | badPassword message =>
              exact absurd hExc (ticketVerdict_keytab_ne_badPassword message)
          | _ => exact hGate
    · intro minted w' hMinted hLeaves
      have hEnding : (mintPlan settings krb5 env body).ending reply = .ok :=
        congrArg endingOf hMinted
      rw [hEnding, mintSuccess]
      cases hMode : body.password with
      | some password =>
          have hIssue := issue_ends (w := { w' with limiter := w'.limiter.reset body.username })
            caller (some body.username) minted.principal (mintResponse minted)
          obtain ⟨result, w'', hAdvance, hAgrees, hRest⟩ := hIssue
          refine ⟨result, w'', hAdvance, hAgrees, ?_, hRest.now, hRest.audits⟩
          rw [hRest.limiter, hLeaves.limiter]
          rfl
      | none =>
          have hIssue := issue_ends (w := w') caller (some body.username) minted.principal
            (mintResponse minted)
          rw [hLeaves.limiter] at hIssue
          exact hIssue

theorem mintPlan_checks_of_invalid {body : MintRequest}
    (hInvalid : mintValid settings body ≠ .ok ()) :
    (mintPlan settings krb5 env body).checks = none := by
  cases hValid : mintValid settings body with
  | ok _ => exact absurd hValid hInvalid
  | error refusal => simp [mintPlan, hValid, Except.isOk, Except.toBool]

theorem mintPlan_checks_of_keytab {body : MintRequest} (hMode : body.password = none) :
    (mintPlan settings krb5 env body).checks = none := by
  simp [mintPlan, hMode]

theorem mintPlan_checks_of_password {body : MintRequest} {password : PyStr}
    (hValid : mintValid settings body = .ok ()) (hMode : body.password = some password) :
    (mintPlan settings krb5 env body).checks = some body.username := by
  simp [mintPlan, hMode, hValid, Except.isOk, Except.toBool]

theorem mintFor_follows (body : MintRequest) :
    Follows settings (mintFor settings krb5 env body caller) (mintPlan settings krb5 env body) := by
  intro w
  have hOpening : (mintPlan settings krb5 env body).opening
      ((mintPlan settings krb5 env body).allowed w) = (do
        usernameGate body.username
        lifetimesGate (orDefault body.lifetime settings.defaultLifetime)
          (orDefault body.renewableLifetime settings.defaultRenewableLifetime)
        body.password.elim
          (do base64Gate (body.keytabB64.getD []) (py "invalid keytab_b64"); preparedGate env true)
          fun password => do
            (do limiterGate ((mintPlan settings krb5 env body).allowed w); passwordGate password)
            preparedGate env false) := by
    cases hMode : body.password with
    | some password => simp only [mintPlan, mintValid, hMode, bind_assoc, Option.elim_some]
    | none => simp only [mintPlan, mintValid, hMode, bind_assoc, Option.elim_none]
  rw [hOpening]
  have hUnchecked (hInvalid : mintValid settings body ≠ .ok ()) :
      w.limiter = (mintPlan settings krb5 env body).checked w := by
    simp [Plan.checked, mintPlan_checks_of_invalid settings krb5 env hInvalid]
  refine Conducts.gate (checkUsername_gate caller body.username) ?_ fun _ w₁ hUser _ h₁ => ?_
  · intro hRefused
    refine hUnchecked fun hValid => hRefused ?_
    cases hGate : usernameGate body.username with
    | ok _ => rfl
    | error refusal => simp [mintValid, hGate, bind, Except.bind] at hValid
  refine Conducts.gate (checkLifetimes_gate caller ..) ?_ fun _ w₂ hLifetimes _ h₂ => ?_
  · intro hRefused
    rw [h₁.limiter]
    refine hUnchecked fun hValid => hRefused ?_
    simpa [mintValid, hUser, bind, Except.bind] using hValid
  have hValid : mintValid settings body = .ok () := by
    rw [mintValid, hUser]
    exact hLifetimes
  have hSame : w₂.limiter = w.limiter ∧ w₂.now = w.now :=
    ⟨h₂.limiter.trans h₁.limiter, h₂.now.trans h₁.now⟩
  cases hMode : body.password with
  | some password =>
      have hChecks := mintPlan_checks_of_password settings krb5 env hValid hMode
      have hGate := mintCredential_gate_password (w := w₂) caller body hMode
      rw [hSame.1, hSame.2] at hGate
      simp only [Plan.allowed, Plan.checked, Plan.settled_of_some _ hChecks, hChecks]
      refine Conducts.gate hGate (fun _ => rfl) fun credential w₃ _ hOne h₃ => ?_
      have hRest := mintTicket_conducts (w := w₃) settings krb5 env caller body
        (orDefault body.lifetime settings.defaultLifetime)
        (orDefault body.renewableLifetime settings.defaultRenewableLifetime)
        credential (by rw [hMode]; exact hOne)
      rw [h₃.limiter] at hRest
      simpa only [hMode, Option.isNone_some, Option.isSome_some, if_true] using hRest
  | none =>
      have hChecks := mintPlan_checks_of_keytab settings krb5 env hMode
      simp only [Plan.checked, Plan.settled_of_none _ hChecks, hChecks]
      rw [← hSame.1]
      refine Conducts.gate (mintCredential_gate_keytab caller body hMode) (fun _ => rfl)
        fun credential w₃ _ hOne h₃ => ?_
      have hRest := mintTicket_conducts (w := w₃) settings krb5 env caller body
        (orDefault body.lifetime settings.defaultLifetime)
        (orDefault body.renewableLifetime settings.defaultRenewableLifetime)
        credential (by rw [hMode]; exact hOne)
      rw [h₃.limiter] at hRest
      simpa only [hMode, Option.isNone_none, Option.isSome_none, if_false, Bool.false_eq_true]
        using hRest

theorem renewTicket_conducts (body : RenewRequest) (ccache : Bytes) :
    Conducts (do
        let minted ← tryCatch (renewTicket settings krb5 env ccache) (renewFailure caller)
        renewSuccess caller minted) w
      (do preparedGate env true; ccacheGate krb5 env ccache) w.limiter
      (renewPlan settings krb5 env body).closing (fun _ w₁ => w₁.limiter) := by
  refine operation_conducts renewExit (mintFrame_harmless.keeps_renewTicket ..) ?_ ?_ ?_
  · intro refusal hRefused
    cases hPrepared : preparedGate env true with
    | error refusal' =>
        obtain rfl : refusal' = refusal := by
          simpa [hPrepared, bind, Except.bind] using hRefused
        exact preparedGate_refused env (fun message w' => raise_gate (.osError message) _)
          (renewTicket_unprepared settings krb5 env ccache) hPrepared
    | ok _ =>
        rw [hPrepared] at hRefused
        change ccacheGate krb5 env ccache = _ at hRefused
        unfold ccacheGate at hRefused
        cases hInput : readCcache krb5 env.krb5Input (some ccache) with
        | ok info => simp [hInput] at hRefused
        | error exc =>
            have hEnd := renewTicket_rejects settings krb5 env (w := w) ccache
              ((preparedGate_ok_iff env _).mp hPrepared) hInput
            obtain ⟨exc', hRemoved⟩ := removed_error env MintedTicket exc
            obtain ⟨refusal', hExit, _⟩ := renewFailure_gate (w := w) caller exc'
            rw [hInput] at hRefused
            simp only [hRemoved, hExit] at hRefused
            cases hRefused
            refine ⟨exc', hRemoved ▸ hEnd, fun w' => ?_⟩
            obtain ⟨refusal', hExit', hGate⟩ := renewFailure_gate (w := w') caller exc'
            rw [hExit] at hExit'
            cases hExit'
            exact hGate
  · intro hGate
    obtain ⟨hPrepared, hCcache⟩ := gates_ok_iff.mp hGate
    obtain ⟨info, hInput⟩ := (ccacheGate_ok_iff krb5 env ccache).mp hCcache
    exact ⟨_, renewTicket_asks settings krb5 env ccache
      ((preparedGate_ok_iff env _).mp hPrepared) hInput⟩
  · intro task' reply w₁ hKeeps hEnd
    refine closing_ends _ hEnd hKeeps ?_ ?_
    · intro exc w' _ hLeaves
      rw [← hLeaves.limiter]
      exact renewFailure_gate caller exc
    · intro minted w' _ hLeaves
      rw [← hLeaves.limiter]
      exact issue_ends caller none minted.principal (mintResponse minted)

theorem renewFor_follows (body : RenewRequest) :
    Follows settings (renewFor settings krb5 env body caller)
      (renewPlan settings krb5 env body) := by
  intro w
  refine Conducts.gate (renewCcache_gate caller body) (fun _ => rfl)
    fun ccache w₁ _ hDecoded h₁ => ?_
  have hRest := renewTicket_conducts (w := w₁) settings krb5 env caller body ccache
  rw [h₁.limiter] at hRest
  rw [hDecoded]
  exact hRest

theorem mintKeytab_conducts (body : KeytabRequest) (password : Ref) :
    Conducts (do
        let keytab ← tryCatch (mintKeytab settings env body.username password)
          (keytabFailure settings caller body.username)
        keytabSuccess settings caller body.username keytab) w
      (preparedGate env false) w.limiter (keytabPlan settings env body).closing
      (fun reply w₁ => w₁.limiter.settle settings.failedAuth body.username w₁.now
        ((keytabPlan settings env body).ending reply)) := by
  refine operation_conducts (keytabExit (body.username ++ py "@" ++ settings.defaultRealm))
    (mintFrame_harmless.keeps_mintKeytab ..) ?_ ?_ ?_
  · intro refusal hRefused
    exact preparedGate_refused env (fun message w' => raise_gate (.osError message) _)
      (mintKeytab_unprepared settings env body.username password) hRefused
  · intro hGate
    obtain ⟨stdin, hAsks⟩ := mintKeytab_asks settings env (w := w) body.username password
      ((preparedGate_ok_iff env _).mp hGate)
    exact ⟨_, hAsks⟩
  · intro task' reply w₁ hKeeps hEnd
    refine closing_ends _ hEnd hKeeps ?_ ?_
    · intro exc w' hExc hLeaves
      have hEnding : (keytabPlan settings env body).ending reply =
          endingOf (.error exc : Except PyExc Bytes) := congrArg endingOf hExc
      rw [hEnding, ← hLeaves.limiter, ← hLeaves.now]
      exact keytabFailure_gate settings caller body.username _ exc
    · intro keytab w' hKeytab hLeaves
      have hEnding : (keytabPlan settings env body).ending reply = .ok :=
        congrArg endingOf hKeytab
      obtain ⟨result, w'', hAdvance, hAgrees, hRest⟩ := issue_ends
        (w := { w' with limiter := w'.limiter.reset body.username }) caller (some body.username)
        (body.username ++ py "@" ++ settings.defaultRealm)
        (KeytabResponse.mk (b64encode keytab) (body.username ++ py "@" ++ settings.defaultRealm))
      rw [hEnding]
      refine ⟨result, w'', hAdvance, hAgrees, ?_, hRest.now, hRest.audits⟩
      rw [hRest.limiter, hLeaves.limiter]
      rfl

theorem keytabPlan_checks_of_valid {body : KeytabRequest}
    (hUser : usernameGate body.username = .ok ()) :
    (keytabPlan settings env body).checks = some body.username := by
  simp [keytabPlan, hUser, Except.isOk, Except.toBool]

theorem keytabPlan_checks_of_invalid {body : KeytabRequest}
    (hUser : usernameGate body.username ≠ .ok ()) :
    (keytabPlan settings env body).checks = none := by
  cases hGate : usernameGate body.username with
  | ok _ => exact absurd hGate hUser
  | error refusal => simp [keytabPlan, hGate, Except.isOk, Except.toBool]

theorem keytabFor_follows (body : KeytabRequest) :
    Follows settings (keytabFor settings env body caller) (keytabPlan settings env body) := by
  intro w
  refine Conducts.gate (checkUsername_gate caller body.username) ?_ fun _ w₁ hUser _ h₁ => ?_
  · intro hInvalid
    simp [Plan.checked, keytabPlan_checks_of_invalid settings env hInvalid]
  have hChecks := keytabPlan_checks_of_valid settings env hUser
  simp only [Plan.allowed, Plan.checked, Plan.settled_of_some _ hChecks, hChecks]
  have hLimiter := checkAllowed_gate (w := w₁) caller body.username
  rw [h₁.limiter, h₁.now] at hLimiter
  refine Conducts.gate hLimiter (fun _ => rfl) fun _ w₂ _ _ h₂ => ?_
  rw [← h₂.limiter]
  refine Conducts.gate (passwordBuffer_gate body.password) (fun _ => rfl)
    fun password w₃ _ _ h₃ => ?_
  rw [← h₃.limiter]
  exact mintKeytab_conducts settings env caller body password

end Handlers

end Krb5TokenService.Service
