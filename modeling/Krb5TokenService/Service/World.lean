import Krb5TokenService.EventLoop.Task
import Krb5TokenService.RateLimit.Limiter

/-! What one replica of the service shares between requests, what it asks of
the world outside, and the exceptions its code raises and catches. -/
namespace Krb5TokenService

open Python EventLoop RateLimit

/-- A decoded JSON value. Objects list each key once. -/
inductive Json where
  | null
  | bool (value : Bool)
  | num (value : ℚ)
  | str (value : PyStr)
  | arr (values : List Json)
  | obj (fields : List (PyStr × Json))

/-- The exception classes the code tells apart, with their messages. Of the
built-in ones `valueError` includes `binascii.Error` and the Unicode errors. -/
inductive PyExc where
  | httpException (statusCode : Nat) (detail : PyStr) (headers : List (String × String))
  | invalidUsername (value : PyStr)
  | invalidLifetime (value : PyStr)
  | minting (message : PyStr)
  | badPassword (message : PyStr)
  | badKeytab (message : PyStr)
  | unknownPrincipal (message : PyStr)
  | accountUnusable (message : PyStr)
  | ticketExpired (message : PyStr)
  | ccacheParse (message : PyStr)
  | rateLimited (error : RateLimitedError)
  | pyJwtError (message : PyStr)
  | osError (message : PyStr)
  | timeoutExpired
  | valueError (message : PyStr)
  | keyError (message : PyStr)
  | typeError (message : PyStr)
  | attributeError (message : PyStr)
  | cancelled

/-- `str(exc)`. -/
def PyExc.text : PyExc → PyStr
  | .httpException _ detail _ => detail
  | .rateLimited error => py error.message
  | .timeoutExpired | .cancelled => []
  | .invalidUsername message | .invalidLifetime message | .minting message
  | .badPassword message | .badKeytab message | .unknownPrincipal message
  | .accountUnusable message | .ticketExpired message | .ccacheParse message
  | .pyJwtError message | .osError message | .valueError message | .keyError message
  | .typeError message | .attributeError message => message

/-- `config.Settings`, as far as the request path reads it. -/
structure Settings where
  brokerJwksUrl : PyStr := py "http://localhost:8080/.well-known/jwks.json"
  brokerIssuer : PyStr := py "https://mcp.af.uchicago.edu"
  expectedAudience : PyStr := py "krb5-token-service"
  kinitBin : PyStr := py "kinit"
  krb5Config : PyStr := py "/app/etc/krb5.conf"
  defaultRealm : PyStr := py "CERN.CH"
  defaultLifetime : PyStr := py "24h"
  defaultRenewableLifetime : PyStr := py "7d"
  ccacheTmpRoot : PyStr := py "/tmp/krb5cc"
  kinitTimeoutSeconds : Nat := 30
  cernGetKeytabBin : PyStr := py "/app/etc/cern-get-keytab"
  cernGetKeytabTimeoutSeconds : Nat := 60
  failedAuth : Limits := ⟨3, 900, 900, by decide, by decide, by decide⟩
  jwksCacheTtlSeconds : ℤ := 300

/-- The `outcome` of an audit line. -/
inductive Outcome where
  | issued
  | denied
  | error
deriving DecidableEq

inductive LogLevel where
  | debug
  | info
  | warning
  | error
deriving DecidableEq

/-- A value bound to a log event. `repr text value` is `f"{text}{value!r}"`;
`exc` is the `exc_info` of `logger.exception`. -/
inductive LogValue where
  | none
  | str (value : PyStr)
  | repr (text : PyStr) (value : Option PyStr)
  | int (value : ℤ)
  | json (value : Json)
  | exc (value : PyExc)

/-- A structlog event. Only `_audit` emits the event named `audit`. -/
inductive LogEvent where
  | audit (subject : LogValue) (username principal jti : Option PyStr) (outcome : Outcome)
      (requestId : PyStr)
  | line (level : LogLevel) (event : String) (fields : List (String × LogValue))

def LogEvent.outcome? : LogEvent → Option Outcome
  | .audit _ _ _ _ outcome _ => some outcome
  | .line .. => none

/-- The outcomes of the audit lines of a log, in order. -/
def audits (log : List LogEvent) : List Outcome := log.filterMap LogEvent.outcome?

@[simp] theorem audits_nil : audits [] = [] := rfl

@[simp] theorem audits_append (first second : List LogEvent) :
    audits (first ++ second) = audits first ++ audits second :=
  List.filterMap_append ..

@[simp] theorem audits_line (level : LogLevel) (event : String)
    (fields : List (String × LogValue)) (log : List LogEvent) :
    audits (.line level event fields :: log) = audits log := rfl

@[simp] theorem audits_audit (subject : LogValue) (username principal jti : Option PyStr)
    (outcome : Outcome) (requestId : PyStr) (log : List LogEvent) :
    audits (.audit subject username principal jti outcome requestId :: log) =
      outcome :: audits log := rfl

/-- The arguments of one `subprocess.run`. `krb5Config` is the variable set
over the inherited environment; `output` is the file the child leaves its
result in. -/
structure ChildSpec where
  argv : List PyStr
  stdin : Option Bytes
  timeoutSeconds : Nat
  binary : PyStr
  context : PyStr
  krb5Config : PyStr
  output : PyStr

/-- How `subprocess.run` ends, and what the child left at its output path. -/
inductive ChildReply where
  | spawnFailed (error : PyStr)
  | timedOut
  | cancelled
  | exited (returncode : ℤ) (stdout stderr : Bytes) (output : Option Bytes)

/-- How `identity.get_jwks` ends: with whatever JSON the cache holds under
`keys`, with its 502, with the `TypeError` of `len(keys)` on a value that has
no length, or cancelled. -/
inductive JwksReply where
  | keys (value : Json)
  | unreachable
  | noLength
  | cancelled

/-- The awaits of a handler. -/
inductive Query where
  | jwks
  | child (spec : ChildSpec)

@[reducible] def Reply : Query → Type
  | .jwks => JwksReply
  | .child _ => ChildReply

/-- State shared by all requests of one replica. `heap` holds the bytearrays
that carry secrets, `files` the private directories. -/
structure World where
  limiter : LimiterState
  now : ℚ
  log : List LogEvent
  heap : List Bytes
  files : PyStr → Option Bytes

/-- Write a file, or take it away. -/
def World.store (w : World) (path : PyStr) (contents : Option Bytes) : World :=
  { w with files := Function.update w.files path contents }

@[simp] theorem World.files_store_self (w : World) (path : PyStr) (contents : Option Bytes) :
    (w.store path contents).files path = contents := by
  simp [store]

/-- The clock does not go back. -/
abbrev Delay := {delay : ℚ // 0 ≤ delay}

abbrev Action := Task World PyExc Query Reply

namespace Action

def world : Action World := EventLoop.Task.get

def emit (event : LogEvent) : Action Unit :=
  Task.modify fun w => { w with log := w.log ++ [event] }

def log (level : LogLevel) (event : String) (fields : List (String × LogValue)) : Action Unit :=
  emit (.line level event fields)

/-- A file-system step that fails with this message, or succeeds. -/
def fileSystemStep : Option PyStr → Action Unit
  | none => pure ()
  | some message => throw (.osError message)

@[simp] theorem advance_world (w : World) : world.advance w = (.finished (.ok w), w) := rfl

@[simp] theorem advance_emit (event : LogEvent) (w : World) :
    (emit event).advance w = (.finished (.ok ()), { w with log := w.log ++ [event] }) := rfl

@[simp] theorem advance_log (level : LogLevel) (event : String)
    (fields : List (String × LogValue)) (w : World) :
    (log level event fields).advance w =
      (.finished (.ok ()), { w with log := w.log ++ [.line level event fields] }) := rfl

@[simp] theorem advance_fileSystemStep_none (w : World) :
    (fileSystemStep none).advance w = (.finished (.ok ()), w) := rfl

@[simp] theorem advance_fileSystemStep_some (message : PyStr) (w : World) :
    (fileSystemStep (some message)).advance w =
      (.finished (.error (.osError message)), w) := rfl

end Action

/-- What the operating system decides for one request: `sys.executable`, the
fresh request id, the private directory's name, and for each step `none` for
success or the message of its error. `krb5Input` and `krb5Output` are libkrb5's
own accesses to the ccache file before and after the child. -/
structure Env where
  executable : PyStr
  uuid : PyStr
  tmpdir : PyStr
  mkdirRoot : Option PyStr
  mkdtemp : Option PyStr
  writeInput : Option PyStr
  chmodInput : Option PyStr
  readBack : Option PyStr
  rmtree : Option PyStr
  krb5Input : Option PyStr
  krb5Output : Option PyStr

end Krb5TokenService
