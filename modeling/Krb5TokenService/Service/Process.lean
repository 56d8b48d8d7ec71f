import Krb5TokenService.EventLoop.Inline
import Krb5TokenService.Identity.JwksLocking
import Krb5TokenService.Service.Replica

/-! The process that serves every route: its POST requests and its probes run
`get_jwks` themselves, against the one cache, where the handlers await it. -/
namespace Krb5TokenService.Service

open Python EventLoop EventLoop.Task Krb5TokenService.Action
open RateLimit Identity Minting

section Readiness

/-- What a readiness probe finds on its pod: `shutil.which(settings.kinit_bin)`
and `os.access(settings.krb5_config, os.R_OK)`. -/
structure Probe where
  kinitFound : Bool
  configReadable : Bool

variable (settings : Settings) (probe : Probe)

def localProblems : List PyStr :=
  (if probe.kinitFound then []
    else [py "kinit binary not found or not executable: " ++ settings.kinitBin]) ++
  (if probe.configReadable then [] else [py "krb5.conf not readable: " ++ settings.krb5Config])

def jwksProblem : PyStr := py "broker JWKS endpoint unreachable: " ++ settings.brokerJwksUrl

/-- The `try` of `readyz`, with the problems found before it. -/
def checkKeys (problems : List PyStr) : Action (List PyStr) :=
  tryCatch (do let _ ← awaitJwks settings; pure problems) fun exc =>
    match exc with
    | .httpException .. => pure (problems ++ [jwksProblem settings])
    | exc => throw exc

def report (problems : List PyStr) : Action Unit :=
  if problems = [] then pure ()
  else throw (.httpException 503 ((py "; ").intercalate problems) [])

/-- `GET /readyz`. -/
def readyz : Action Unit := do
  let problems ← checkKeys settings (localProblems settings probe)
  report problems

end Readiness

/-- What a client gets: a response of the POST endpoints, an error, or the
fixed body of a probe. -/
inductive Answer where
  | response (response : Response)
  | ready
  | alive

/-- A call of one of the five routes, with what it brings. -/
inductive Route where
  | request (job : Job)
  | readyz (probe : Probe)
  | healthz

/-- The handler of a call, as a response. -/
def Route.handler (d : Deployment) : Route → Action Answer
  | .request job => Answer.response <$> job.task d
  | .readyz probe => tryCatch ((fun _ => Answer.ready) <$> Service.readyz d.settings probe)
      fun exc => pure (.response (errorResponse exc))
  | .healthz => pure .alive

/-- The state of the process: what its requests share, and the module state of
`identity.py`. Each keeps the lines its own code logs. -/
structure ProcessState where
  world : World
  jwks : JwksState

def worldView : View ProcessState World where
  get := ProcessState.world
  set s w := { s with world := w }
  get_set _ _ := rfl
  set_get _ := rfl
  set_set _ _ _ := rfl

def jwksView : View ProcessState JwksState where
  get := ProcessState.jwks
  set s j := { s with jwks := j }
  get_set _ _ := rfl
  set_get _ := rfl
  set_set _ _ _ := rfl

/-- What is awaited from outside the process. -/
inductive ProcessQuery where
  | jwks (query : JwksQuery)
  | child (spec : ChildSpec)

@[reducible] def ProcessReply : ProcessQuery → Type
  | .jwks query => query.Answer
  | .child _ => ChildReply

abbrev ProcessAction := Task ProcessState PyExc ProcessQuery ProcessReply

/-- How `get_jwks` ended, in the handlers' terms. -/
def captured : Except PyExc Json → JwksReply
  | .ok value => .keys value
  | .error (.httpException ..) => .unreachable
  | .error (.typeError _) => .noLength
  | .error _ => .cancelled

section

variable (settings : Settings) (eventLoop : Nat)

/-- What is left of a `get_jwks`, on the process's state. -/
def onProcess (call : JwksAction Json) : ProcessAction Json :=
  call.lift jwksView ProcessQuery.jwks fun _ r => r

def capturing (call : JwksAction Json) :
    Task ProcessState Empty ProcessQuery ProcessReply JwksReply :=
  (onProcess call).attempt.andThen fun outcome => .done (.ok (captured outcome))

/-- What the process does for an await of a handler. -/
def realise : (query : Query) → Task ProcessState Empty ProcessQuery ProcessReply (Reply query)
  | .jwks => capturing (getJwks settings eventLoop)
  | .child spec => .await (.child spec) fun r => .done (.ok r)

def Realised {α : Type} (task : Action α) : ProcessAction α :=
  task.inline worldView (realise settings eventLoop)

end

def Route.task (d : Deployment) (eventLoop : Nat) (call : Route) : ProcessAction Answer :=
  Realised d.settings eventLoop (call.handler d)

section Adequacy

variable (settings : Settings) (eventLoop : Nat)

/-- An exception that the handlers' terms do not confuse with another. -/
def Conveyed (exc : PyExc) : Prop := received settings (captured (.error exc)) = .error exc

theorem conveyed_cancelled : Conveyed settings .cancelled := rfl

theorem conveyed_unreachable : Conveyed settings (unreachable settings.brokerJwksUrl) := rfl

theorem raises_fetched (reply : HttpReply) :
    (fetched settings.brokerJwksUrl reply).Raises (Conveyed settings) := by
  have hFailed (exc : PyExc) : (do
      logLine .error "jwks_fetch_failed" [("url", .str settings.brokerJwksUrl),
        ("error", .str exc.text), ("exc_info", .exc exc)]
      throw (unreachable settings.brokerJwksUrl) : JwksAction Json).Raises (Conveyed settings) :=
    (raises_modify _).bind fun _ => raises_throw (conveyed_unreachable settings)
  unfold fetched
  cases reply.keys with
  | ok keys => exact raises_pure keys
  | error exc =>
      cases exc with
      | cancelled => exact raises_throw (conveyed_cancelled settings)
      | _ => exact hFailed _

theorem raises_stored (now : ℚ) (result : Json ⊕ Json) :
    (stored settings now result).Raises (Conveyed settings) := by
  cases result with
  | inl stale => exact raises_pure stale
  | inr keys =>
      refine (raises_modify _).bind fun _ => ?_
      refine Raises.bind ?_ fun _ => (raises_modify _).bind fun _ => raises_pure keys
      cases keys <;> trivial

theorem raises_refresh : (refresh settings).Raises (Conveyed settings) := by
  refine raises_get.bind fun s => ?_
  cases s.freshKeys settings with
  | some keys => exact raises_pure keys
  | none =>
      refine Raises.bind ?_ fun result => raises_stored settings s.now result
      have hFetch : (fetchJwks settings.brokerJwksUrl).Raises (Conveyed settings) :=
        raises_get.bind fun _ => (raises_ask _).bind fun reply => raises_fetched settings reply
      refine (hFetch.map Sum.inr).tryCatch fun exc hExc => ?_
      cases s.cache settings.brokerJwksUrl with
      | none => cases exc <;> exact raises_throw hExc
      | some entry =>
          cases exc with
          | httpException status detail headers =>
              exact (raises_modify _).bind fun _ => raises_pure _
          | _ => exact raises_throw hExc

/-- Every exception that leaves `get_jwks` has a term of its own. -/
theorem raises_getJwks : (getJwks settings eventLoop).Raises (Conveyed settings) := by
  refine raises_get.bind fun s => ?_
  cases s.freshKeys settings with
  | some keys => exact raises_pure keys
  | none =>
      have hLock : (getJwksLock eventLoop settings.brokerJwksUrl).Raises (Conveyed settings) := by
        refine raises_get.bind fun s => ?_
        cases s.lockFor eventLoop settings.brokerJwksUrl with
        | some lock => exact raises_pure lock
        | none => exact (raises_modify _).bind fun _ => raises_pure _
      refine hLock.bind fun lock => (raises_ask _).bind fun reply => ?_
      cases reply with
      | cancelled => exact raises_throw (conveyed_cancelled settings)
      | acquired =>
          exact (raises_modify _).bind fun _ =>
            (raises_refresh settings).andFinally (raises_modify _)

/-- Where a handler awaits `get_jwks`, the process runs it. -/
theorem realised_awaitJwks :
    Realised settings eventLoop (awaitJwks settings) = onProcess (getJwks settings eventLoop) := by
  refine (andThen_andThen _ _ _).trans ?_
  exact attempt_andThen (fun _ => rfl) (raises_getJwks settings eventLoop).lift

theorem realised_bind {α β : Type} (task : Action α) (f : α → Action β) :
    Realised settings eventLoop (task >>= f) =
      Realised settings eventLoop task >>= fun a => Realised settings eventLoop (f a) :=
  inline_bind ..

/-- So the process verifies a token against the keys that its own `get_jwks`
returns. -/
theorem realised_verifyBrokerToken (jwt : PyJwt) (token : PyStr) :
    Realised settings eventLoop (verifyBrokerToken jwt settings token) =
      onProcess (getJwks settings eventLoop) >>= fun keys =>
        Realised settings eventLoop (verifyWithKeys jwt settings keys token) := by
  rw [verifyBrokerToken, realised_bind, realised_awaitJwks]

end Adequacy

section Turns

variable {settings : Settings} {eventLoop : Nat} {α : Type} {s : ProcessState}

/-- A stretch of `get_jwks` that ends it. -/
theorem advance_capturing_finished {call : JwksAction Json} {outcome : Except PyExc Json}
    {j : JwksState} (h : call.advance s.jwks = (.finished outcome, j))
    (rest : JwksReply → ProcessAction α) :
    ((capturing call).andThen rest).advance s =
      (rest (captured outcome)).advance { s with jwks := j } := by
  rw [capturing, andThen_andThen]
  exact advance_andThen_finished (advance_attempt_finished (advance_inline_finished jwksView _ h))

theorem advance_capturing_waiting {call : JwksAction Json} {query : JwksQuery}
    {next : query.Answer → JwksAction Json} {j : JwksState}
    (h : call.advance s.jwks = (.waiting query next, j)) (rest : JwksReply → ProcessAction α) :
    ((capturing call).andThen rest).advance s =
      (.waiting (.jwks query) fun r => (capturing (next r)).andThen rest,
        { s with jwks := j }) := by
  have hWaiting : (capturing call).advance s =
      (.waiting (.jwks query) fun r => capturing (next r), { s with jwks := j }) :=
    advance_andThen_waiting (advance_attempt_waiting (advance_inline_waiting jwksView _ h))
  exact advance_andThen_waiting hWaiting

variable {task : Action α} {w : World}

theorem advance_realised_finished {outcome : Except PyExc α}
    (h : task.advance s.world = (.finished outcome, w)) :
    (Realised settings eventLoop task).advance s = (.finished outcome, { s with world := w }) :=
  advance_inline_finished worldView _ h

theorem advance_realised_child {spec : ChildSpec} {next : ChildReply → Action α}
    (h : task.advance s.world = (.waiting (.child spec) next, w)) :
    (Realised settings eventLoop task).advance s =
      (.waiting (.child spec) fun r => Realised settings eventLoop (next r),
        { s with world := w }) :=
  advance_inline_waiting worldView (realise settings eventLoop) h

theorem advance_realised_jwks {next : JwksReply → Action α}
    (h : task.advance s.world = (.waiting .jwks next, w)) :
    (Realised settings eventLoop task).advance s =
      ((capturing (getJwks settings eventLoop)).andThen fun r =>
        Realised settings eventLoop (next r)).advance { s with world := w } :=
  advance_inline_waiting worldView (realise settings eventLoop) h

end Turns

end Krb5TokenService.Service
