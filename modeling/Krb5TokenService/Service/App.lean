import Krb5TokenService.Identity.Token
import Krb5TokenService.Minting.Mint
import Krb5TokenService.Python.Base64
import Krb5TokenService.Python.Datetime

/-! `app.py`: the three POST endpoints. A handler is a task that returns its
response model or raises; `serve` is what the framework makes of either. -/
namespace Krb5TokenService.Service

open Python Python.Base64 Python.Datetime EventLoop EventLoop.Task Krb5TokenService.Action
open RateLimit Identity Minting

/-- A validated `MintRequest`. -/
structure MintRequest where
  username : PyStr
  password : Option PyStr
  keytabB64 : Option PyStr
  lifetime : Option PyStr
  renewableLifetime : Option PyStr
  exactlyOneCredential : password.isNone ≠ keytabB64.isNone

structure RenewRequest where
  ccacheB64 : PyStr

structure KeytabRequest where
  username : PyStr
  password : PyStr

structure MintResponse where
  ccacheB64 : PyStr
  principal : PyStr
  realm : PyStr
  expiresAt : PyStr
  renewUntil : Option PyStr
deriving DecidableEq

structure KeytabResponse where
  keytabB64 : PyStr
  principal : PyStr
deriving DecidableEq

/-- The headers of a request that the handlers read: `x-request-id`, and the
bearer token if there is one. -/
structure Request where
  xRequestId : Option PyStr
  credentials : Option PyStr

/-- `value or default`, for a string that may be absent or empty. -/
def orDefault (value : Option PyStr) (default : PyStr) : PyStr :=
  match value with
  | none | some [] => default
  | some text => text

/-- `_audit`. -/
def audit (subject : LogValue) (username principal jti : Option PyStr) (outcome : Outcome)
    (requestId : PyStr) : Action Unit :=
  emit (.audit subject username principal jti outcome requestId)

def mintResponse (minted : MintedTicket) : MintResponse where
  ccacheB64 := b64encode minted.ccache
  principal := minted.principal
  realm := minted.realm
  expiresAt := isoformat minted.expiresAt
  renewUntil := minted.renewUntil.map isoformat

/-- An audit line, then the `HTTPException` it accounts for. -/
def refuse {α : Type} (subject : LogValue) (username jti : Option PyStr) (outcome : Outcome)
    (requestId : PyStr) (exc : PyExc) : Action α := do
  audit subject username none jti outcome requestId
  throw exc

/-- Who asked, as the audit lines of an authenticated request name it. -/
structure Caller where
  claims : Claims
  requestId : PyStr

def Caller.refuse {α : Type} (caller : Caller) (username : Option PyStr) (outcome : Outcome)
    (status : Nat) (detail : PyStr) : Action α :=
  Service.refuse (.str caller.claims.sub) username caller.claims.jti outcome caller.requestId
    (.httpException status detail [])

def Caller.issue (caller : Caller) (username : Option PyStr) (principal : PyStr) : Action Unit :=
  audit (.str caller.claims.sub) username (some principal) caller.claims.jti .issued
    caller.requestId

def notAuthenticated : PyExc := .httpException 401 (py "Not authenticated") bearerChallenge

/-- `rate_limiter.check`, at the time the loop's clock shows. -/
def checkLimiter (username : PyStr) : Action Unit :=
  .act (fun w => { w with limiter := (w.limiter.check username w.now).2 }) fun w =>
    Task.ofExcept ((w.limiter.check username w.now).1.mapError .rateLimited)

section

variable (jwt : PyJwt) (settings : Settings) (krb5 : Krb5) (env : Env)

/-- `rate_limiter.record_failure`. -/
def recordFailure (username : PyStr) : Action Unit :=
  Task.modify fun w =>
    { w with limiter := w.limiter.recordFailure settings.failedAuth username w.now }

/-- `rate_limiter.reset`. -/
def resetLimiter (username : PyStr) : Action Unit :=
  Task.modify fun w => { w with limiter := w.limiter.reset username }

/-- The beginning every handler has: no token, a token that does not verify,
or the claims. An exception that is not an `HTTPException` passes through. -/
def authenticate (request : Request) (username : Option PyStr) : Action Caller :=
  let requestId := orDefault request.xRequestId env.uuid
  match request.credentials with
  | none => refuse .none none none .denied requestId notAuthenticated
  | some token => do
      let claims ← tryCatch (verifyBrokerToken jwt settings token) fun exc =>
        match exc with
        | .httpException status _ _ =>
            refuse (peekSub jwt token) username none (if status = 401 then .denied else .error)
              requestId exc
        | exc => throw exc
      pure ⟨claims, requestId⟩

/-- `validate_username` with its except clause, in `mint` and `keytab`. -/
def checkUsername (caller : Caller) (username : PyStr) : Action Unit :=
  tryCatch (Task.ofExcept (validateUsername username)) fun exc =>
    match exc with
    | .invalidUsername _ => caller.refuse none .denied 422 (py "invalid username")
    | exc => throw exc

/-- The limiter's check with its except clause, in `mint` and `keytab`. -/
def checkAllowed (caller : Caller) (username : PyStr) : Action Unit :=
  tryCatch (checkLimiter username) fun exc =>
    match exc with
    | .rateLimited error => caller.refuse (some username) .denied 429 (py error.message)
    | exc => throw exc

/-- `bytearray(body.password.get_secret_value().encode())`. -/
def passwordBuffer (password : PyStr) : Action Ref :=
  match password.encode with
  | none => throw (.valueError (py "surrogates not allowed"))
  | some bytes => newBytearray bytes

/-- `mint`'s except clauses around `mint_ticket`, in order. -/
def mintFailure (caller : Caller) (username : PyStr) (exc : PyExc) : Action MintedTicket :=
  match exc with
  | .badPassword _ => do
      recordFailure settings username
      caller.refuse (some username) .denied 400 (py "bad password")
  | .badKeytab _ => caller.refuse (some username) .denied 400 (py "bad keytab")
  | .unknownPrincipal _ => caller.refuse (some username) .denied 400 (py "unknown principal")
  | .accountUnusable detail => caller.refuse (some username) .denied 403 detail
  | .minting _ => caller.refuse (some username) .error 502 (py "Ticket minting failed.")
  | exc => throw exc

/-- `mint` for an authenticated caller, up to the credential buffer. -/
def mintCredential (caller : Caller) (body : MintRequest) : Action (Option Ref × Option Ref) :=
  match body.password with
  | some password => do
      checkAllowed caller body.username
      let buf ← passwordBuffer password
      pure (some buf, none)
  | none =>
      match b64decode (body.keytabB64.getD []) with
      | none => caller.refuse (some body.username) .denied 422 (py "invalid keytab_b64")
      | some bytes => do
          let buf ← newBytearray bytes
          pure (none, some buf)

def checkLifetimes (caller : Caller) (username lifetime renewableLifetime : PyStr) :
    Action Unit :=
  tryCatch
    (do
      Task.ofExcept (validateLifetime lifetime)
      Task.ofExcept (validateLifetime renewableLifetime))
    fun exc =>
      match exc with
      | .invalidLifetime _ => caller.refuse (some username) .denied 422 (py "invalid lifetime")
      | exc => throw exc

/-- The end of `mint`, once the ticket is there. -/
def mintSuccess (caller : Caller) (body : MintRequest) (minted : MintedTicket) :
    Action MintResponse := do
  if body.password.isSome then resetLimiter body.username
  caller.issue (some body.username) minted.principal
  pure (mintResponse minted)

/-- `mint`, once the caller is authenticated. -/
def mintFor (body : MintRequest) (caller : Caller) : Action MintResponse := do
  checkUsername caller body.username
  let lifetime := orDefault body.lifetime settings.defaultLifetime
  let renewableLifetime := orDefault body.renewableLifetime settings.defaultRenewableLifetime
  checkLifetimes caller body.username lifetime renewableLifetime
  let credential ← mintCredential caller body
  let minted ← tryCatch
    (mintTicket settings krb5 env body.username credential.1 lifetime renewableLifetime
      credential.2)
    (mintFailure settings caller body.username)
  mintSuccess caller body minted

/-- `POST /v1/mint`. -/
def mint (request : Request) (body : MintRequest) : Action MintResponse := do
  let caller ← authenticate jwt settings env request (some body.username)
  mintFor settings krb5 env body caller

/-- `renew`'s except clauses around `renew_ticket`. -/
def renewFailure (caller : Caller) (exc : PyExc) : Action MintedTicket :=
  match exc with
  | .ccacheParse _ => caller.refuse none .denied 422 (py "invalid ccache")
  | .ticketExpired detail => caller.refuse none .denied 400 detail
  | .minting _ => caller.refuse none .error 502 (py "Ticket renewal failed.")
  | exc => throw exc

def renewSuccess (caller : Caller) (minted : MintedTicket) : Action MintResponse := do
  caller.issue none minted.principal
  pure (mintResponse minted)

def renewCcache (caller : Caller) (body : RenewRequest) : Action Bytes :=
  match b64decode body.ccacheB64 with
  | none => caller.refuse none .denied 422 (py "invalid ccache_b64")
  | some bytes => pure bytes

def renewFor (body : RenewRequest) (caller : Caller) : Action MintResponse := do
  let ccache ← renewCcache caller body
  let minted ← tryCatch (renewTicket settings krb5 env ccache) (renewFailure caller)
  renewSuccess caller minted

/-- `POST /v1/renew`. -/
def renew (request : Request) (body : RenewRequest) : Action MintResponse := do
  let caller ← authenticate jwt settings env request none
  renewFor settings krb5 env body caller

/-- `keytab`'s except clauses around `mint_keytab`. -/
def keytabFailure (caller : Caller) (username : PyStr) (exc : PyExc) : Action Bytes :=
  match exc with
  | .badPassword _ => do
      recordFailure settings username
      caller.refuse (some username) .denied 400 (py "bad password")
  | .minting _ => caller.refuse (some username) .error 502 (py "Keytab generation failed.")
  | exc => throw exc

def keytabSuccess (caller : Caller) (username : PyStr) (keytab : Bytes) :
    Action KeytabResponse := do
  resetLimiter username
  let principal := username ++ py "@" ++ settings.defaultRealm
  caller.issue (some username) principal
  pure ⟨b64encode keytab, principal⟩

def keytabFor (body : KeytabRequest) (caller : Caller) : Action KeytabResponse := do
  checkUsername caller body.username
  checkAllowed caller body.username
  let password ← passwordBuffer body.password
  let keytab ← tryCatch (mintKeytab settings env body.username password)
    (keytabFailure settings caller body.username)
  keytabSuccess settings caller body.username keytab

/-- `POST /v1/keytab`. -/
def keytab (request : Request) (body : KeytabRequest) : Action KeytabResponse := do
  let caller ← authenticate jwt settings env request (some body.username)
  keytabFor settings env body caller

end

/-- What a client gets. An exception that leaves a handler, other than an
`HTTPException`, is the framework's own 500. -/
inductive Body where
  | minted (response : MintResponse)
  | keytab (response : KeytabResponse)
  | detail (text : PyStr)
  | internalServerError
deriving DecidableEq

/-- The body carries a ticket or a keytab. -/
def Body.Issued : Body → Prop
  | .minted _ | .keytab _ => True
  | .detail _ | .internalServerError => False

instance : DecidablePred Body.Issued
  | .minted _ | .keytab _ => .isTrue trivial
  | .detail _ | .internalServerError => .isFalse id

structure Response where
  status : Nat
  body : Body
  headers : List (String × String)
deriving DecidableEq

def errorResponse : PyExc → Response
  | .httpException status detail headers => ⟨status, .detail detail, headers⟩
  | _ => ⟨500, .internalServerError, []⟩

theorem errorResponse_withheld (exc : PyExc) : ¬ (errorResponse exc).body.Issued := by
  cases exc <;> exact id

def respond {α : Type} (body : α → Body) : Except PyExc α → Response
  | .ok value => ⟨200, body value, []⟩
  | .error exc => errorResponse exc

/-- A POST whose body passed its model. -/
inductive Endpoint where
  | mint (body : MintRequest)
  | renew (body : RenewRequest)
  | keytab (body : KeytabRequest)

/-- The whole service to one request: its handler's outcome as a response. -/
def serve (jwt : PyJwt) (settings : Settings) (krb5 : Krb5) (env : Env) (request : Request) :
    Endpoint → Action Response
  | .mint body => answered .minted (mint jwt settings krb5 env request body)
  | .renew body => answered .minted (renew jwt settings krb5 env request body)
  | .keytab body => answered .keytab (keytab jwt settings env request body)
where
  answered {α : Type} (body : α → Body) (handler : Action α) : Action Response :=
    tryCatch ((fun value => respond body (.ok value)) <$> handler)
      fun exc => pure (errorResponse exc)

end Krb5TokenService.Service
