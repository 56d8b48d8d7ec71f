import Krb5TokenService.Service.Attributed
import Krb5TokenService.Service.Desk
import Krb5TokenService.Service.Candid

/-! The audit log of a replica against its answers: line by line it accounts
for every answer that is not the framework's own 500. -/
namespace Krb5TokenService.Service

open Python Python.Base64 EventLoop EventLoop.Task Krb5TokenService.Action
open RateLimit Identity Minting

/-- The principal whose ticket or keytab a body carries. -/
def Body.principal : Body → Option PyStr
  | .minted response => some response.principal
  | .keytab response => some response.principal
  | .detail _ | .internalServerError => none

section Issued

variable {α β : Type} {caller : Caller}

/-- The line under which a credential is issued. -/
def issuedLine (caller : Caller) (username : Option PyStr) (principal : PyStr) : LogEvent :=
  .audit (.str caller.claims.sub) username (some principal) caller.claims.jti .issued
    caller.requestId

theorem issueRecord_after {record : Record β} {username : Option PyStr} (principal : β → PyStr)
    {value : β → α} {issued : α}
    (h : (record >>= fun b => issueRecord caller username (principal b) (value b)).outcome =
      .ok issued) :
    ∃ b, issued = value b ∧ issuedLine caller username (principal b) ∈
      (record >>= fun b => issueRecord caller username (principal b) (value b)).events := by
  obtain ⟨outcome, events⟩ := record
  cases outcome with
  | error exc => cases h
  | ok b =>
      obtain rfl := Except.ok.inj h
      exact ⟨b, rfl, List.mem_append_right _ List.mem_cons_self⟩

theorem answeredRecord_issued {body : α → Body} {record : Record α} {response : Response}
    (h : (answeredRecord body record).outcome = .ok response)
    (hIssued : response.body.Issued) :
    ∃ value, record.outcome = .ok value ∧ response = ⟨200, body value, []⟩ ∧
      (answeredRecord body record).events = record.events := by
  obtain ⟨outcome, events⟩ := record
  cases outcome with
  | error exc =>
      obtain rfl := Except.ok.inj h
      exact absurd hIssued (errorResponse_withheld exc)
  | ok value =>
      obtain rfl := Except.ok.inj h
      exact ⟨value, rfl, rfl, List.append_nil events⟩

/-- A credential is issued with a line that names its principal. -/
theorem record_issued {d : Deployment} {job : Job} {reply : ChildReply} {response : Response}
    (h : (job.record d caller reply).outcome = .ok response) (hIssued : response.body.Issued) :
    response.status = 200 ∧ ∃ principal, response.body.principal = some principal ∧
      issuedLine caller job.endpoint.username principal ∈ (job.record d caller reply).events := by
  unfold Job.record at h ⊢
  cases hEndpoint : job.endpoint with
  | mint body =>
      simp only [hEndpoint] at h
      obtain ⟨value, hValue, rfl, hEvents⟩ := answeredRecord_issued h hIssued
      obtain ⟨minted, rfl, hLine⟩ := issueRecord_after MintedTicket.principal hValue
      exact ⟨rfl, minted.principal, rfl, hEvents ▸ hLine⟩
  | renew body =>
      simp only [hEndpoint] at h
      obtain ⟨value, hValue, rfl, hEvents⟩ := answeredRecord_issued h hIssued
      obtain ⟨minted, rfl, hLine⟩ := issueRecord_after MintedTicket.principal hValue
      exact ⟨rfl, minted.principal, rfl, hEvents ▸ hLine⟩
  | keytab body =>
      simp only [hEndpoint] at h
      obtain ⟨value, hValue, rfl, hEvents⟩ := answeredRecord_issued h hIssued
      obtain ⟨keytab, rfl, hLine⟩ := issueRecord_after
        (fun _ => body.username ++ py "@" ++ d.settings.defaultRealm) hValue
      exact ⟨rfl, _, rfl, hEvents ▸ hLine⟩

end Issued

/-- The key lists that a request has been given. -/
def Heard (trace : List ReplicaStretch) (job : Job) (reply : JwksReply) : Prop :=
  ∃ s ∈ trace, s.label = job ∧ s.cause = some ⟨.jwks, reply⟩

theorem Heard.cons {trace : List ReplicaStretch} {job : Job} {reply : JwksReply}
    (h : Heard trace job reply) (s : ReplicaStretch) : Heard (s :: trace) job reply := by
  obtain ⟨s', hIn, hLabel, hCause⟩ := h
  exact ⟨s', List.mem_cons_of_mem _ hIn, hLabel, hCause⟩

/-- An audit line accounts for an answer: for a credential it names the caller
and the principal, and for a refusal an outcome that fits its status. -/
inductive Accounts (d : Deployment) (heard : Job → JwksReply → Prop) : Delivery → LogEvent → Prop
  | issued {job : Job} {time : ℚ} {response : Response} {caller : Caller} {reply : JwksReply}
      {principal : PyStr} (hHeard : heard job reply)
      (hCaller : job.authentication d reply = .ok caller) (hStatus : response.status = 200)
      (hPrincipal : response.body.principal = some principal) :
      Accounts d heard ⟨job, time, response⟩ (.audit (.str caller.claims.sub)
        job.endpoint.username (some principal) caller.claims.jti .issued job.requestId)
  | refused {job : Job} {time : ℚ} {response : Response} {subject : LogValue}
      {username jti : Option PyStr} {outcome : Outcome}
      (hNames : Names d job (heard job) subject jti)
      (hUser : username = none ∨ username = job.endpoint.username)
      (hFits : OutcomeFits response.status (some outcome)) (hWithheld : ¬ response.body.Issued) :
      Accounts d heard ⟨job, time, response⟩
        (.audit subject username none jti outcome job.requestId)

theorem Accounts.mono {d : Deployment} {heard heard' : Job → JwksReply → Prop}
    (hMono : ∀ job reply, heard job reply → heard' job reply) (delivery : Delivery)
    (event : LogEvent) (h : Accounts d heard delivery event) :
    Accounts d heard' delivery event := by
  cases h with
  | issued hHeard hCaller hStatus hPrincipal =>
      exact .issued (hMono _ _ hHeard) hCaller hStatus hPrincipal
  | refused hNames hUser hFits hWithheld =>
      exact .refused (hNames.mono (hMono _)) hUser hFits hWithheld

/-- The answers that the handlers give, oldest first. -/
def accountable (answers : List Delivery) : List Delivery :=
  answers.reverse.filter fun delivery =>
    decide (delivery.response.body ≠ .internalServerError)

section Stretches

variable {d : Deployment} {heard : Job → JwksReply → Prop} {job : Job} {w w' : World}
    {said : List LogEvent}

/-- A request at its child knows its caller under a key list that it has been
given, and speaks of no other. -/
def Telling (d : Deployment) (heard : Job → JwksReply → Prop) : ReplicaWaiting → Prop
  | ⟨_, .jwks, _⟩ => True
  | ⟨job, .child _, next⟩ => ∃ keys caller, heard job keys ∧
      job.authentication d keys = .ok caller ∧
      ∀ reply, (next reply).Keeps (Speaks d job (Eq keys)) ∧
        ∀ w, (next reply).Records World.log w (job.record d caller reply)

theorem Telling.mono {heard' : Job → JwksReply → Prop}
    (hMono : ∀ job reply, heard job reply → heard' job reply) {p : ReplicaWaiting}
    (h : Telling d heard p) : Telling d heard' p := by
  obtain ⟨job, query, next⟩ := p
  cases query with
  | jwks => trivial
  | child spec =>
      obtain ⟨keys, caller, hHeard, hRest⟩ := h
      exact ⟨keys, caller, hMono _ _ hHeard, hRest⟩

/-- What speaks of one key list speaks of one that was given. -/
theorem speaks_of_given {task : Action Response} {keys : JwksReply}
    (h : task.Keeps (Speaks d job (Eq keys))) (hHeard : heard job keys) :
    task.Keeps (Speaks d job (heard job)) :=
  h.mono fun _ _ => Speaks.mono fun _ hSame => hSame ▸ hHeard

/-- The new lines of a stretch, and the answer they account for. -/
def Accounted (d : Deployment) (heard : Job → JwksReply → Prop) (job : Job) (w : World) :
    Turn World PyExc Query Reply Response × World → Prop
  | (.waiting .., w') => auditLines w'.log = auditLines w.log
  | (.finished (.error _), _) => False
  | (.finished (.ok response), w') => ∃ said, auditLines w'.log = auditLines w.log ++ said ∧
      List.Forall₂ (Accounts d heard) (accountable [⟨job, w.now, response⟩]) said

theorem outcomes_of_leaves {emitted : Option Outcome} {limiter : LimiterState}
    (hLog : auditLines w'.log = auditLines w.log ++ said) (hLeaves : Leaves limiter emitted w w') :
    said.filterMap LogEvent.outcome? = emitted.toList := by
  have hAudits := hLeaves.audits
  rw [audits_eq_outcomes, audits_eq_outcomes, hLog, List.filterMap_append] at hAudits
  exact List.append_cancel_left hAudits

theorem no_line (hSaid : ∀ event ∈ said, Attributed d job (heard job) event)
    (hOutcomes : said.filterMap LogEvent.outcome? = []) : said = [] := by
  cases said with
  | nil => rfl
  | cons event rest =>
      have hEvent := hSaid event List.mem_cons_self
      cases event with
      | line level name fields => exact hEvent.elim
      | audit => simp [LogEvent.outcome?] at hOutcomes

theorem one_line (hSaid : ∀ event ∈ said, Attributed d job (heard job) event) {outcome : Outcome}
    (hOutcomes : said.filterMap LogEvent.outcome? = [outcome]) :
    ∃ subject username principal jti, Names d job (heard job) subject jti ∧
      (username = none ∨ username = job.endpoint.username) ∧
      (outcome ≠ .issued → principal = none) ∧
      said = [.audit subject username principal jti outcome job.requestId] := by
  cases said with
  | nil => cases hOutcomes
  | cons event rest =>
      have hEvent := hSaid event List.mem_cons_self
      cases event with
      | line level name fields => exact hEvent.elim
      | audit subject username principal jti outcome' requestId =>
          simp only [List.filterMap_cons, LogEvent.outcome?, List.cons.injEq] at hOutcomes
          obtain ⟨rfl, hRest⟩ := hOutcomes
          obtain rfl := no_line (fun event hIn => hSaid event (List.mem_cons_of_mem _ hIn)) hRest
          obtain ⟨hNames, hUser, hPrincipal, rfl⟩ := hEvent
          exact ⟨subject, username, principal, jti, hNames, hUser, hPrincipal, rfl⟩

theorem accounts_refusal {refusal : Refusal} (time : ℚ)
    (hCandid : refusal.audited = none ↔ refusal.response.body = .internalServerError)
    (hSaid : ∀ event ∈ said, Attributed d job (heard job) event)
    (hOutcomes : said.filterMap LogEvent.outcome? = refusal.audited.toList) :
    List.Forall₂ (Accounts d heard) (accountable [⟨job, time, refusal.response⟩]) said := by
  have hFits := refusal.fits
  cases hAudited : refusal.audited with
  | none =>
      rw [hAudited] at hOutcomes
      obtain rfl := no_line hSaid hOutcomes
      have hBody := hCandid.mp hAudited
      simp [accountable, hBody]
  | some outcome =>
      rw [hAudited] at hOutcomes hFits
      obtain ⟨subject, username, principal, jti, hNames, hUser, hPrincipal, rfl⟩ :=
        one_line hSaid hOutcomes
      have hBody : refusal.response.body ≠ .internalServerError := fun hBody => by
        rw [hCandid.mpr hBody] at hAudited
        cases hAudited
      have hIssued : outcome ≠ .issued := by
        rintro rfl
        exact hFits.elim
      obtain rfl := hPrincipal hIssued
      simpa [accountable, hBody] using
        (Accounts.refused hNames hUser hFits refusal.withheld : Accounts d heard ⟨job, time, _⟩ _)

/-- A refusal is accounted for by what a task that speaks of its request says. -/
theorem accounted_of_refusal {task : Action Response} {refusal : Refusal} {limiter : LimiterState}
    (hKeeps : task.Keeps (Speaks d job (heard job)))
    (hCandid : refusal.audited = none ↔ refusal.response.body = .internalServerError)
    (h : Answers task w (.error refusal) limiter) : Accounted d heard job w (task.advance w) := by
  obtain ⟨w', hAdvance, hLeaves⟩ := h
  obtain ⟨said, hLog, hSaid⟩ := hKeeps.advance w
  rw [hAdvance] at hLog ⊢
  exact ⟨said, hLog, accounts_refusal _ hCandid hSaid (outcomes_of_leaves hLog hLeaves)⟩

theorem accounted_of_waiting {task : Action Response} {query : Query}
    {next : Reply query → Action Response} {limiter : LimiterState}
    (hKeeps : task.Keeps (Speaks d job (heard job)))
    (hAdvance : task.advance w = (.waiting query next, w'))
    (hLeaves : Leaves limiter none w w') : Accounted d heard job w (task.advance w) := by
  obtain ⟨said, hLog, hSaid⟩ := hKeeps.advance w
  rw [hAdvance] at hLog ⊢
  obtain rfl := no_line hSaid (outcomes_of_leaves hLog hLeaves)
  rw [List.append_nil] at hLog
  exact hLog

/-- The last stretch of a request that ran its child. -/
theorem accounted_of_closing {spec : ChildSpec} {next : ChildReply → Action Response}
    {reply : ChildReply} (h : Settling d ⟨job, .child spec, next⟩)
    (hTelling : Telling d heard ⟨job, .child spec, next⟩) :
    Accounted d heard job w ((next reply).advance w) := by
  obtain ⟨keys, caller, hHeard, hCaller, hTells⟩ := hTelling
  obtain ⟨hSpeaks, hRecords⟩ := hTells reply
  have hKeeps := speaks_of_given hSpeaks hHeard
  have hAnswers := h.1.2 reply w
  cases hClosing : (job.plan d).closing reply with
  | error refusal =>
      rw [hClosing] at hAnswers
      exact accounted_of_refusal hKeeps (candid_closing d job reply refusal hClosing) hAnswers
  | ok response =>
      rw [hClosing] at hAnswers
      obtain ⟨w', hAdvance, hLeaves⟩ := hAnswers
      change (next reply).advance w = (.finished (.ok response), w') at hAdvance
      obtain ⟨said, hLog, hSaid⟩ := hKeeps.advance w
      obtain ⟨w'', hAdvance', hEvents⟩ := hRecords w
      have hSame := hAdvance'.symm.trans hAdvance
      obtain ⟨hOutcome, rfl⟩ := Prod.mk.inj hSame
      obtain ⟨hStatus, principal, hPrincipal, hLine⟩ :=
        record_issued (Turn.finished.inj hOutcome) (job.closing_ok d hClosing).2
      rw [hAdvance] at hLog ⊢
      refine ⟨said, hLog, ?_⟩
      obtain ⟨subject, username, principal', jti, -, -, -, rfl⟩ :=
        one_line hSaid (outcomes_of_leaves hLog hLeaves)
      have hIn : issuedLine caller job.endpoint.username principal ∈
          [LogEvent.audit subject username principal' jti .issued job.requestId] := by
        have hAll : issuedLine caller job.endpoint.username principal ∈
            auditLines (job.record d caller reply).events :=
          List.mem_filter.mpr ⟨hLine, rfl⟩
        rw [hEvents, auditLines_append] at hLog
        rwa [List.append_cancel_left hLog] at hAll
      have hBody : response.body ≠ .internalServerError := fun hBody => by
        rw [hBody] at hPrincipal
        cases hPrincipal
      rw [← List.mem_singleton.mp hIn, issuedLine, requestId_of_authentication hCaller]
      simpa [accountable, hBody] using
        (Accounts.issued hHeard hCaller hStatus hPrincipal :
          Accounts d heard ⟨job, w.now, response⟩ _)

end Stretches

section Trail

variable {d : Deployment} {heard : Job → JwksReply → Prop}

theorem start_telling (job : Job) (w : World) :
    Loop.TurnsInto (Telling d heard) job ((job.task d).advance w).1 := by
  cases hToken : job.request.credentials with
  | none =>
      obtain ⟨w', hAdvance, -⟩ := job.answers_of_none d hToken w
      rw [hAdvance]
      trivial
  | some token =>
      obtain ⟨next, hTask⟩ := task_of_credentials (d := d) hToken
      rw [hTask]
      trivial

theorem start_accounted (job : Job) (w : World) :
    Accounted d heard job w ((job.task d).advance w) := by
  cases hToken : job.request.credentials with
  | none =>
      have hNothing (reply : JwksReply) (hNever : False) : heard job reply := hNever.elim
      have hKeeps := (speaks_unasked (d := d) hToken).mono fun w w' => Speaks.mono hNothing
      refine accounted_of_refusal hKeeps ?_ (job.answers_of_none d hToken w)
      exact candid_unauthorized (α := Unit) (py "Not authenticated") _ rfl
  | some token =>
      obtain ⟨next, hTask⟩ := task_of_credentials (d := d) hToken
      rw [hTask]
      rfl

/-- A request that goes on has heard what it was given, and tells no more. -/
theorem next_told (p : ReplicaWaiting) (reply : Reply p.query) (w : World)
    (hSettling : Settling d p) (hTelling : Telling d heard p)
    (hGiven : ∀ keys, (⟨p.query, reply⟩ : (query : Query) × Reply query) = ⟨.jwks, keys⟩ →
      heard p.label keys) :
    Loop.TurnsInto (Telling d heard) p.label ((p.next reply).advance w).1 ∧
      Accounted d heard p.label w ((p.next reply).advance w) := by
  obtain ⟨job, query, next⟩ := p
  cases query with
  | child spec =>
      obtain ⟨w', hAdvance, -⟩ := hSettling.1.2 reply w
      refine ⟨?_, accounted_of_closing hSettling hTelling⟩
      dsimp only
      rw [hAdvance]
      trivial
  | jwks =>
      have hHeard : heard job reply := hGiven reply rfl
      have hSpeaks := speaks_told hSettling.2 reply
      have hServe := hSettling.1 reply w
      cases hOpening : job.opening d reply w with
      | error refusal =>
          rw [hOpening] at hServe
          refine ⟨?_, accounted_of_refusal (speaks_of_given hSpeaks hHeard)
            (candid_opening d job reply w refusal hOpening) hServe⟩
          obtain ⟨w', hAdvance, -⟩ := hServe
          dsimp only
          rw [hAdvance]
          trivial
      | ok _ =>
          rw [hOpening] at hServe
          obtain ⟨spec, next', w', hAdvance, hLeaves, -⟩ := hServe
          refine ⟨?_, accounted_of_waiting (speaks_of_given hSpeaks hHeard) hAdvance hLeaves⟩
          obtain ⟨caller, next'', w'', hCaller, hWait, hRecords⟩ :=
            child_underway hSettling.2 hOpening
          dsimp only
          rw [hWait]
          exact ⟨reply, caller, hHeard, hCaller, fun reply' =>
            ⟨hSpeaks.waiting hWait reply', hRecords reply'⟩⟩

/-- What the audit log of a replica has to say of its answers. -/
def Trail (d : Deployment) (heard : Job → JwksReply → Prop) (replica : Replica) : Prop :=
  List.Forall₂ (Accounts d heard) (accountable (replica.trace.filterMap deliveryOf))
    (auditLines replica.state.log)

/-- The log is the trail of the answers, and whoever waits will go on with it. -/
structure Trailing (d : Deployment) (replica : Replica) : Prop where
  settling : ∀ p ∈ replica.waiting, Settling d p
  telling : ∀ p ∈ replica.waiting, Telling d (Heard replica.trace) p
  trail : Trail d (Heard replica.trace) replica

theorem accountable_cons (delivery : Delivery) (older : List Delivery) :
    accountable (delivery :: older) = accountable older ++ accountable [delivery] := by
  simp [accountable]

theorem place_trail {replica : Replica} {job : Job} (waiting : List ReplicaWaiting)
    {cause : Option ((query : Query) × Reply query)}
    {turned : Turn World PyExc Query Reply Response × World} (hTrail : Trail d heard replica)
    (h : Accounted d heard job replica.state turned) :
    Trail d heard (Loop.place ⟨replica.state, waiting, replica.trace⟩ job cause turned) := by
  obtain ⟨turn, w'⟩ := turned
  cases turn with
  | waiting query next =>
      have hSame : auditLines w'.log = auditLines replica.state.log := h
      rw [Trail, Loop.place, delivery_none, hSame]
      exact hTrail
  | finished outcome =>
      cases outcome with
      | error exc => exact h.elim
      | ok response =>
          obtain ⟨said, hLog, hAccounts⟩ := h
          change List.Forall₂ (Accounts d heard) (accountable (⟨job, replica.state.now, response⟩ ::
            replica.trace.filterMap deliveryOf)) (auditLines w'.log)
          rw [accountable_cons, hLog]
          exact List.rel_append hTrail hAccounts

/-- One stretch, under what has been heard by its end. -/
theorem Trailing.place {replica : Replica} {job : Job} {waiting : List ReplicaWaiting}
    {cause : Option ((query : Query) × Reply query)}
    {turned : Turn World PyExc Query Reply Response × World} (h : Trailing d replica)
    (hWaiting : ∀ p ∈ waiting, p ∈ replica.waiting)
    (hSettling : ∀ p ∈ (Loop.place ⟨replica.state, waiting, replica.trace⟩ job cause
      turned).waiting, Settling d p)
    (hTurn : ∀ heard : Job → JwksReply → Prop,
      (∀ job reply, Heard replica.trace job reply → heard job reply) →
      (∀ keys, cause = some ⟨.jwks, keys⟩ → heard job keys) →
      Loop.TurnsInto (Telling d heard) job turned.1 ∧
        Accounted d heard job replica.state turned) :
    Trailing d (Loop.place ⟨replica.state, waiting, replica.trace⟩ job cause turned) := by
  obtain ⟨ended, hTrace⟩ :=
    Loop.place_trace ⟨replica.state, waiting, replica.trace⟩ job cause turned
  have hOlder (job' : Job) (reply : JwksReply) (hHeard : Heard replica.trace job' reply) :
      Heard (⟨job, cause, replica.state, ended⟩ :: replica.trace) job' reply := hHeard.cons _
  obtain ⟨hNext, hSaid⟩ := hTurn _ hOlder fun keys hHere => ⟨_, List.mem_cons_self, rfl, hHere⟩
  refine ⟨hSettling, ?_, ?_⟩
  · rw [hTrace]
    exact Loop.place_waiting hNext fun p hp => (h.telling p (hWaiting p hp)).mono hOlder
  · rw [hTrace]
    exact place_trail waiting (h.trail.imp (Accounts.mono hOlder)) hSaid

theorem Trailing.move {replica : Replica} (m : ReplicaMove) (h : Trailing d replica) :
    Trailing d (replica.move (Job.task d) wait m) := by
  have hSettling := move_settling replica m h.settling
  cases m with
  | outside delay => exact ⟨h.settling, h.telling, h.trail⟩
  | start job =>
      exact h.place (fun p hp => hp) hSettling fun heard _ _ =>
        ⟨start_telling job replica.state, start_accounted job replica.state⟩
  | resume index reply =>
      simp only [Loop.move] at hSettling ⊢
      cases hIndex : replica.waiting[index]? with
      | none => exact h
      | some p =>
          rw [hIndex] at hSettling
          have hIn := List.mem_of_getElem? hIndex
          refine h.place (fun q hq => List.mem_of_mem_eraseIdx hq) hSettling ?_
          intro heard hOlder hGiven
          exact next_told p (reply p.query) replica.state (h.settling p hIn)
            ((h.telling p hIn).mono hOlder) fun keys hHere => hGiven keys (congrArg some hHere)

end Trail

/-- In every interleaving of requests the audit log holds, in order, exactly one
line for each answer of a handler but the framework's own 500s: it names the
request, who asked and for whom, under a key list that this request was given,
and what came of it. -/
theorem audit_trail (d : Deployment) (now : ℚ) (moves : List ReplicaMove) :
    List.Forall₂ (Accounts d (Heard ((freshReplica now).run (Job.task d) wait moves).trace))
      (accountable (deskOf ((freshReplica now).run (Job.task d) wait moves)).answers)
      (auditLines ((freshReplica now).run (Job.task d) wait moves).state.log) := by
  have hFresh : Trailing d (freshReplica now) :=
    ⟨fun p hp => absurd hp List.not_mem_nil, fun p hp => absurd hp List.not_mem_nil, .nil⟩
  have hTrue : (freshReplica now).Meets (Job.task d) wait (fun _ _ => True) moves :=
    Loop.meets_true _ moves
  exact (Loop.run_invariant (fun _ m _ h => Trailing.move m h) hTrue hFresh).trail

end Krb5TokenService.Service
