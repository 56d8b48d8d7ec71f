import Krb5TokenService.Python.Regex
import Krb5TokenService.Service.World

/-! The input validators and the stderr classifiers of `minting.py`. -/
namespace Krb5TokenService.Minting

open Python

def inRange (low high : Nat) (c : CodePoint) : Bool := low ≤ c.val && c.val ≤ high

def isNewline (c : CodePoint) : Bool := c = 0x0A

def isLetter (c : CodePoint) : Bool := inRange 0x41 0x5A c || inRange 0x61 0x7A c

def isAsciiDigit (c : CodePoint) : Bool := inRange 0x30 0x39 c

/-- The first digit of every run of ten decimal digits of Unicode 15. -/
def digitZeros : List Nat :=
  [0x30, 0x660, 0x6F0, 0x7C0, 0x966, 0x9E6, 0xA66, 0xAE6, 0xB66, 0xBE6, 0xC66, 0xCE6, 0xD66,
    0xDE6, 0xE50, 0xED0, 0xF20, 0x1040, 0x1090, 0x17E0, 0x1810, 0x1946, 0x19D0, 0x1A80, 0x1A90,
    0x1B50, 0x1BB0, 0x1C40, 0x1C50, 0xA620, 0xA8D0, 0xA900, 0xA9D0, 0xA9F0, 0xAA50, 0xABF0,
    0xFF10, 0x104A0, 0x10D30, 0x11066, 0x110F0, 0x11136, 0x111D0, 0x112F0, 0x11450, 0x114D0,
    0x11650, 0x116C0, 0x11730, 0x118E0, 0x11950, 0x11C50, 0x11D50, 0x11DA0, 0x11F50, 0x16A60,
    0x16AC0, 0x16B50, 0x1D7CE, 0x1D7D8, 0x1D7E2, 0x1D7EC, 0x1D7F6, 0x1E140, 0x1E2F0, 0x1E4F0,
    0x1E950, 0x1FBF0]

/-- `\d` in a `str` pattern: any decimal digit of Unicode. -/
def isDigit (c : CodePoint) : Bool := digitZeros.any fun first => inRange first (first + 9) c

def isUsernameChar (c : CodePoint) : Bool :=
  isLetter c || isAsciiDigit c || c = 0x5F || c = 0x2D

/-- `_USERNAME_RE`: `^[A-Za-z][A-Za-z0-9_-]{0,63}$`. -/
def usernameRe : Regex CodePoint :=
  .seq .start (.seq (.char isLetter) (.seq (.repeat isUsernameChar 0 (some 63)) .finish))

def validateUsername (username : PyStr) : Except PyExc Unit :=
  if usernameRe.fullmatch isNewline username then .ok () else .error (.invalidUsername username)

/-- A username is a letter and then letters, digits, `_` and `-`. -/
theorem validateUsername_ok {username : PyStr} (h : validateUsername username = .ok ()) :
    ∃ first rest, username = first :: rest ∧ isLetter first = true ∧
      ∀ c ∈ rest, isUsernameChar c = true := by
  unfold validateUsername at h
  split at h
  · next hMatch =>
      simp only [Regex.fullmatch, List.any_eq_true, List.isEmpty_iff] at hMatch
      obtain ⟨last, hEnds, hLast⟩ := hMatch
      obtain ⟨afterStart, hStart, hEnds⟩ := Regex.mem_ends_seq.mp hEnds
      obtain rfl := Regex.mem_ends_start hStart
      obtain ⟨afterFirst, hFirst, hEnds⟩ := Regex.mem_ends_seq.mp hEnds
      obtain ⟨first, hLetter, hText⟩ := Regex.mem_ends_char hFirst
      obtain ⟨afterRest, hRest, hFinish⟩ := Regex.mem_ends_seq.mp hEnds
      obtain rfl := Regex.mem_ends_finish hFinish
      obtain ⟨rest, hRun, hMembers⟩ := Regex.mem_ends_repeat hRest
      rw [hLast, List.append_nil] at hRun
      exact ⟨first, rest, hText.trans (by rw [hRun]), hLetter, hMembers⟩
  · cases h

def literal (c : CodePoint) : Regex CodePoint := .char fun d => d = c

def digits : Regex CodePoint := .repeat isDigit 1 none

/-- One `(?:\d+<unit>)?` of the `NdNhNmNs` form. -/
def component (unit : CodePoint) : Regex CodePoint := .optional (.seq digits (literal unit))

def twoDigits : Regex CodePoint := .repeat isDigit 2 (some 2)

/-- `_LIFETIME_RE`, its three alternatives in order. -/
def lifetimeRe : Regex CodePoint :=
  .alt (.seq .start (.seq digits .finish))
    (.alt
      (.seq .start (.seq (.repeat isDigit 1 (some 3)) (.seq (literal 0x3A) (.seq twoDigits
        (.seq (.optional (.seq (literal 0x3A) twoDigits)) .finish)))))
      (.seq .start (.seq (component 0x64) (.seq (component 0x68) (.seq (component 0x6D)
        (.seq (component 0x73) .finish))))))

def validateLifetime (value : PyStr) : Except PyExc Unit :=
  if value ≠ [] ∧ lifetimeRe.fullmatch isNewline value then .ok ()
  else .error (.invalidLifetime value)

def badPasswordMarkers : List PyStr := [py "Password incorrect"]

def unknownPrincipalMarkers : List PyStr := [py "not found in Kerberos database"]

def revokedMarkers : List PyStr := [py "credentials have been revoked"]

def passwordExpiredMarkers : List PyStr := [py "Password has expired"]

def badKeyMarkers : List PyStr :=
  [py "Preauthentication failed", py "Decrypt integrity check failed"]

def ticketExpiredMarkers : List PyStr := [py "Ticket expired"]

def noCredentialsMarkers : List PyStr :=
  [py "Could not find any credentials to authenticate with"]

def accountRevokedDetail : PyStr :=
  py "This CERN account's credentials have been revoked. Contact CERN account support."

def passwordExpiredDetail : PyStr :=
  py "This CERN account's password has expired and must be changed before a ticket can be minted."

/-- `any(marker in stderr for marker in markers)`. -/
def mentions (stderr : PyStr) (markers : List PyStr) : Bool :=
  markers.any fun marker => stderr.contains marker

def classifyPasswordStderr (stderr : PyStr) : Option PyExc :=
  if mentions stderr badPasswordMarkers then some (.badPassword (py "bad password"))
  else if mentions stderr unknownPrincipalMarkers then
    some (.unknownPrincipal (py "unknown principal"))
  else if mentions stderr revokedMarkers then some (.accountUnusable accountRevokedDetail)
  else if mentions stderr passwordExpiredMarkers then
    some (.accountUnusable passwordExpiredDetail)
  else none

def classifyKeytabStderr (stderr : PyStr) : Option PyExc :=
  if mentions stderr badKeyMarkers then some (.badKeytab (py "bad keytab"))
  else if mentions stderr unknownPrincipalMarkers then
    some (.unknownPrincipal (py "unknown principal"))
  else if mentions stderr revokedMarkers then some (.accountUnusable accountRevokedDetail)
  else none

def classifyRenewStderr (stderr : PyStr) : Option PyExc :=
  if mentions stderr ticketExpiredMarkers then
    some (.ticketExpired (py "ticket no longer renewable"))
  else none

def classifyCernGetKeytabStderr (stderr : PyStr) : Option PyExc :=
  if mentions stderr (badKeyMarkers ++ noCredentialsMarkers) then
    some (.badPassword (py "bad password"))
  else none

section Classes

variable {stderr : PyStr} {exc : PyExc}

/-- Each class that a classifier raises has one text, and an account that
cannot be used has two: it is revoked, or its password has expired. -/
theorem classifyPasswordStderr_cases (h : classifyPasswordStderr stderr = some exc) :
    exc = .badPassword (py "bad password") ∨ exc = .unknownPrincipal (py "unknown principal") ∨
      exc = .accountUnusable accountRevokedDetail ∨
        exc = .accountUnusable passwordExpiredDetail := by
  unfold classifyPasswordStderr at h
  split at h
  · exact .inl (Option.some.inj h).symm
  · split at h
    · exact .inr (.inl (Option.some.inj h).symm)
    · split at h
      · exact .inr (.inr (.inl (Option.some.inj h).symm))
      · split at h
        · exact .inr (.inr (.inr (Option.some.inj h).symm))
        · cases h

/-- For a keytab it is revoked, or there is no such exception. -/
theorem classifyKeytabStderr_cases (h : classifyKeytabStderr stderr = some exc) :
    exc = .badKeytab (py "bad keytab") ∨ exc = .unknownPrincipal (py "unknown principal") ∨
      exc = .accountUnusable accountRevokedDetail := by
  unfold classifyKeytabStderr at h
  split at h
  · exact .inl (Option.some.inj h).symm
  · split at h
    · exact .inr (.inl (Option.some.inj h).symm)
    · split at h
      · exact .inr (.inr (Option.some.inj h).symm)
      · cases h

theorem classifyRenewStderr_cases (h : classifyRenewStderr stderr = some exc) :
    exc = .ticketExpired (py "ticket no longer renewable") := by
  unfold classifyRenewStderr at h
  grind

theorem classifyCernGetKeytabStderr_cases (h : classifyCernGetKeytabStderr stderr = some exc) :
    exc = .badPassword (py "bad password") := by
  unfold classifyCernGetKeytabStderr at h
  grind

end Classes

/-- `type(classified).__name__`, for the log. -/
def exceptionName : PyExc → PyStr
  | .badPassword _ => py "BadPasswordError"
  | .badKeytab _ => py "BadKeytabError"
  | .unknownPrincipal _ => py "UnknownPrincipalError"
  | .accountUnusable _ => py "AccountUnusableError"
  | .ticketExpired _ => py "TicketExpiredError"
  | _ => []

/-- The text the classifiers see: `stderr.decode(errors="replace").strip()`. -/
def stderrText (stderr : Bytes) : PyStr := stderr.decodeReplace.strip

def isBadPassword : PyExc → Bool
  | .badPassword _ => true
  | _ => false

/-- An account that is unusable because it was revoked. -/
def isRevoked : PyExc → Bool
  | .accountUnusable detail => detail = accountRevokedDetail
  | _ => false

/-- The two exceptions that mean a wrong secret. -/
def isBadCredential : PyExc → Bool
  | .badPassword _ | .badKeytab _ => true
  | _ => false

example : validateUsername (py "gstark") = .ok () := by rfl

example : (validateUsername (py "gstark@CERN.CH")).isOk = false := by decide

example : (validateLifetime (py "1d12h30m")).isOk = true := by decide

end Krb5TokenService.Minting
