import Krb5TokenService.EventLoop.Outcome
import Krb5TokenService.Service.World

/-! `identity.py`: verifying a broker token against the cached key list. PyJWT
is a parameter. The key list is untyped JSON, because `get_jwks` hands on
whatever the endpoint served under `keys`. -/
namespace Krb5TokenService.Identity

open Python EventLoop EventLoop.Task Krb5TokenService.Action

/-- The exceptions of PyJWT and of Python's own operations on JSON values. -/
inductive TokenError where
  | pyJwtError (message : PyStr)
  | valueError (message : PyStr)
  | keyError (message : PyStr)
  | typeError (message : PyStr)
  | attributeError (message : PyStr)

def TokenError.toPyExc : TokenError → PyExc
  | .pyJwtError message => .pyJwtError message
  | .valueError message => .valueError message
  | .keyError message => .keyError message
  | .typeError message => .typeError message
  | .attributeError message => .attributeError message

/-- The claims the handlers read. PyJWT checks that both are strings and that
`sub` is there. -/
structure Claims where
  sub : PyStr
  jti : Option PyStr

/-- The arguments of `jwt.decode` besides the token and the key. -/
structure DecodeArgs where
  algorithms : List String
  audience : PyStr
  issuer : PyStr
  verifyExp : Bool
  require : List String

/-- PyJWT: the `kid` of a token's header, RSA key import, and `jwt.decode`
with and without verification. The last gives the payload's `sub`. -/
structure PyJwt where
  Key : Type
  getUnverifiedHeader : PyStr → Except TokenError (Option PyStr)
  fromJwk : Json → Except TokenError Key
  decode : PyStr → Key → DecodeArgs → Except TokenError Claims
  decodeUnverified : PyStr → Except TokenError (Option Json)

/-- `value.get(name)` on a JSON value. -/
def jsonGet (name : PyStr) : Json → Except TokenError (Option Json)
  | .obj fields => .ok (fields.lookup name)
  | _ => .error (.attributeError (py "object has no attribute 'get'"))

def isStr (expected : PyStr) : Option Json → Bool
  | some (.str value) => value = expected
  | _ => false

/-- The loop of `_select_jwk` over a list. -/
def selectByKid (kid : PyStr) : List Json → Except TokenError (Option Json)
  | [] => .ok none
  | keyData :: rest => do
      let value ← jsonGet (py "kid") keyData
      if isStr kid value then pure (some keyData) else selectByKid kid rest

/-- What `for key_data in keys` iterates over. -/
def iterate : Json → Except TokenError (List Json)
  | .arr values => .ok values
  | .obj fields => .ok (fields.map fun field => .str field.1)
  | .str value => .ok (value.map fun c => .str [c])
  | _ => .error (.typeError (py "object is not iterable"))

/-- `keys[0] if len(keys) == 1 else None`. -/
def onlyKey : Json → Except TokenError (Option Json)
  | .arr [keyData] => .ok (some keyData)
  | .arr _ => .ok none
  | .str [c] => .ok (some (.str [c]))
  | .str _ => .ok none
  | .obj [_] => .error (.keyError (py "0"))
  | .obj _ => .ok none
  | _ => .error (.typeError (py "object has no len()"))

/-- `_select_jwk`. -/
def selectJwk (keys : Json) : Option PyStr → Except TokenError (Option Json)
  | some kid => do selectByKid kid (← iterate keys)
  | none => onlyKey keys

section

variable (jwt : PyJwt) (settings : Settings)

def decodeArgs : DecodeArgs where
  algorithms := ["RS256"]
  audience := settings.expectedAudience
  issuer := settings.brokerIssuer
  verifyExp := true
  require := ["exp", "iat", "sub"]

/-- The `try` of `verify_broker_token`: the claims, or the `kid` that no key
matches. -/
def decodeToken (keys : Json) (token : PyStr) :
    Except TokenError (Except (Option PyStr) Claims) := do
  let kid ← jwt.getUnverifiedHeader token
  match ← selectJwk keys kid with
  | none => pure (.error kid)
  | some keyData =>
      let publicKey ← jwt.fromJwk keyData
      let claims ← jwt.decode token publicKey (decodeArgs settings)
      pure (.ok claims)

inductive Verdict where
  | accepted (claims : Claims)
  | rejected (error : LogValue)
  | escaped (error : TokenError)

/-- How `verify_broker_token` ends once it has the keys: `TypeError` and
`AttributeError` are in neither of its except clauses. -/
def verdict (keys : Json) (token : PyStr) : Verdict :=
  match decodeToken jwt settings keys token with
  | .ok (.ok claims) => .accepted claims
  | .ok (.error kid) => .rejected (.repr (py "no JWKS key matches token kid=") kid)
  | .error (.pyJwtError message) | .error (.valueError message)
  | .error (.keyError message) => .rejected (.str message)
  | .error error => .escaped error

def bearerChallenge : List (String × String) := [("WWW-Authenticate", "Bearer")]

def invalidToken : PyExc := .httpException 401 (py "Invalid or expired token") bearerChallenge

def unreachable (jwksUrl : PyStr) : PyExc :=
  .httpException 502 (py "Unable to reach JWKS endpoint: " ++ jwksUrl) []

/-- What `get_jwks` returns or raises. -/
def received : JwksReply → Except PyExc Json
  | .keys value => .ok value
  | .unreachable => .error (unreachable settings.brokerJwksUrl)
  | .noLength => .error (.typeError (py "object has no len()"))
  | .cancelled => .error .cancelled

/-- The handlers' `await get_jwks(settings)`. -/
def awaitJwks : Action Json := do
  let reply : JwksReply ← Task.ask Query.jwks
  Task.ofExcept (received settings reply)

/-- `verify_broker_token` once it has the keys. -/
def verifyWithKeys (keys : Json) (token : PyStr) : Action Claims :=
  match verdict jwt settings keys token with
  | .accepted claims => pure claims
  | .rejected error => do
      log .warning "jwt_validation_failed" [("error", error)]
      throw invalidToken
  | .escaped error => throw error.toPyExc

/-- `verify_broker_token`. -/
def verifyBrokerToken (token : PyStr) : Action Claims := do
  let keys ← awaitJwks settings
  verifyWithKeys jwt settings keys token

/-- `peek_sub`. -/
def peekSub (token : PyStr) : LogValue :=
  match jwt.decodeUnverified token with
  | .ok (some sub) => .json sub
  | .ok none => .str (py "<unknown>")
  | .error _ => .str (py "<unparseable>")

end

section Sample

/-- A token of `broker-user` with the key id `k1`, three parts with dots between
them: `eyJhbGciOiJSUzI1NiIsImtpZCI6ImsxIn0`,
`eyJzdWIiOiJicm9rZXItdXNlciIsImp0aSI6Imp0aS0xIn0` and `c2lnbmF0dXJl`. -/
def brokerToken : PyStr :=
  [101, 121, 74, 104, 98, 71, 99, 105, 79, 105, 74, 83, 85, 122, 73, 49, 78, 105, 73, 115, 73,
   109, 116, 112, 90, 67, 73, 54, 73, 109, 115, 120, 73, 110, 48, 46, 101, 121, 74, 122, 100, 87,
   73, 105, 79, 105, 74, 105, 99, 109, 57, 114, 90, 88, 73, 116, 100, 88, 78, 108, 99, 105, 73,
   115, 73, 109, 112, 48, 97, 83, 73, 54, 73, 109, 112, 48, 97, 83, 48, 120, 73, 110, 48, 46, 99,
   50, 108, 110, 98, 109, 70, 48, 100, 88, 74, 108]

/-- The modulus of the key, in base64url. -/
def brokerModulus : PyStr :=
  [109, 104, 57, 122, 99, 55, 113, 101, 102, 68, 103, 80, 56, 104, 67, 115, 119, 84, 102, 79, 53,
   78, 67, 54, 53, 109, 72, 71, 75, 72, 122, 120, 45, 75, 118, 107, 107, 54, 53, 77, 89, 74, 75,
   50, 103, 77, 87, 69, 121, 110, 117, 116, 65, 53, 55, 57, 97, 55, 69, 109, 122, 90, 54, 80,
   122, 82, 56, 53, 97, 122, 89, 97, 72, 74, 68, 90, 68, 114, 78, 90, 79, 79, 97, 116, 87, 119]

def brokerExponent : PyStr := py "AQAB"

/-- The public key `k1`, as a JWKS lists it. -/
def brokerKey : Json :=
  .obj [(py "kty", .str (py "RSA")), (py "kid", .str (py "k1")), (py "n", .str brokerModulus),
    (py "e", .str brokerExponent)]

/-- An elliptic-curve key that is listed under the same id. -/
def curveKey : Json :=
  .obj [(py "kty", .str (py "EC")), (py "kid", .str (py "k1")), (py "crv", .str (py "P-256")),
    (py "x", .str (py "MKBCTNIcKUSDii11ySs3526iDZ8AiTo7Tu6KPAqv7D4")),
    (py "y", .str (py "4Etl6SRW2YiLUrN5vfvVHuhp7x8PxltmWWlbbM4IFyM"))]

/-- `RSAAlgorithm.from_jwk` on a public key. -/
def fromRsaJwk : Json → Except TokenError (PyStr × PyStr)
  | .obj fields =>
      if isStr (py "RSA") (fields.lookup (py "kty")) then
        match fields.lookup (py "n"), fields.lookup (py "e") with
        | some (.str n), some (.str e) => .ok (n, e)
        | some _, some _ => .error (.typeError (py "Expected string value"))
        | _, _ => .error (.pyJwtError (py "Not a public or private key"))
      else .error (.pyJwtError (py "Not an RSA key"))
  | _ => .error (.pyJwtError (py "Key is not valid JSON"))

/-- PyJWT, as far as it knows tokens: one there is, all other texts are none. -/
def brokerJwt : PyJwt where
  Key := PyStr × PyStr
  getUnverifiedHeader token :=
    if token = brokerToken then .ok (some (py "k1"))
    else .error (.pyJwtError (py "Not enough segments"))
  fromJwk := fromRsaJwk
  decode token key _ :=
    if token ≠ brokerToken then .error (.pyJwtError (py "Not enough segments"))
    else if key = (brokerModulus, brokerExponent) then .ok ⟨py "broker-user", some (py "jti-1")⟩
    else .error (.pyJwtError (py "Signature verification failed"))
  decodeUnverified token :=
    if token = brokerToken then .ok (some (.str (py "broker-user")))
    else .error (.pyJwtError (py "Not enough segments"))

end Sample

end Krb5TokenService.Identity
