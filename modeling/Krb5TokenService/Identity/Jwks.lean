import Krb5TokenService.EventLoop.Loop
import Krb5TokenService.Identity.Token

/-! `identity.py`: the key cache. `get_jwks` runs on one of the process's event
loops; httpx and `asyncio.Lock` answer its awaits. -/
namespace Krb5TokenService.Identity

open Python EventLoop EventLoop.Task

/-- `_JwksEntry`, with an exact rational for the float `fetched_at`. -/
structure JwksEntry where
  keys : Json
  fetchedAt : ℚ

/-- `_jwks_cache` and `_jwks_locks`. Event loops and locks are numbered, locks
in the order they are made. The clock, too, is exact. -/
structure JwksState where
  cache : PyStr → Option JwksEntry
  locks : PyStr → Option (Nat × Nat)
  made : Nat
  locked : Nat → Bool
  now : ℚ
  log : List LogEvent

namespace JwksState

def storeEntry (s : JwksState) (url : PyStr) (entry : JwksEntry) : JwksState :=
  { s with cache := Function.update s.cache url (some entry) }

def setLocked (s : JwksState) (lock : Nat) (value : Bool) : JwksState :=
  { s with locked := Function.update s.locked lock value }

def addLog (s : JwksState) (level : LogLevel) (event : String)
    (fields : List (String × LogValue)) : JwksState :=
  { s with log := s.log ++ [.line level event fields] }

/-- A new `asyncio.Lock()` for this event loop. -/
def makeLock (s : JwksState) (eventLoop : Nat) (url : PyStr) : JwksState :=
  { s with
    locks := Function.update s.locks url (some (eventLoop, s.made))
    made := s.made + 1
    locked := Function.update s.locked s.made false }

def lockFor (s : JwksState) (eventLoop : Nat) (url : PyStr) : Option Nat :=
  match s.locks url with
  | some (owner, lock) => if owner = eventLoop then some lock else none
  | none => none

/-- The cached keys, while they are not older than the TTL. -/
def freshKeys (s : JwksState) (settings : Settings) : Option Json :=
  match s.cache settings.brokerJwksUrl with
  | some entry =>
      if s.now - entry.fetchedAt ≤ settings.jwksCacheTtlSeconds then some entry.keys else none
  | none => none

end JwksState

namespace JwksState

variable {s : JwksState} {settings : Settings} {eventLoop : Nat} {url : PyStr} {keys : Json}

@[simp] theorem cache_storeEntry_self (entry : JwksEntry) :
    (s.storeEntry url entry).cache url = some entry :=
  Function.update_self ..

@[simp] theorem locked_setLocked_self (lock : Nat) (value : Bool) :
    (s.setLocked lock value).locked lock = value :=
  Function.update_self ..

@[simp] theorem locked_makeLock_self : (s.makeLock eventLoop url).locked s.made = false :=
  Function.update_self ..

@[simp] theorem lockFor_makeLock :
    (s.makeLock eventLoop url).lockFor eventLoop url = some s.made := by
  simp [lockFor, makeLock]

theorem entry_of_freshKeys (hFresh : s.freshKeys settings = some keys) :
    ∃ fetchedAt, s.cache settings.brokerJwksUrl = some ⟨keys, fetchedAt⟩ ∧
      s.now - fetchedAt ≤ settings.jwksCacheTtlSeconds := by
  unfold freshKeys at hFresh
  split at hFresh
  · rename_i entry hEntry
    split at hFresh
    · cases hFresh
      exact ⟨entry.fetchedAt, hEntry, by assumption⟩
    · cases hFresh
  · cases hFresh

end JwksState

inductive AcquireReply where
  | acquired
  | cancelled
deriving DecidableEq

/-- A response with a success status and a JSON body, or what was raised
instead. -/
inductive HttpReply where
  | served (body : Json)
  | raised (exc : PyExc)

/-- The awaits of `get_jwks`: a lock's `acquire()`, and the client's `get(url)`
with the time at which it is sent. -/
inductive JwksQuery where
  | acquire (lock : Nat)
  | get (url : PyStr) (sent : ℚ)

@[reducible] def JwksQuery.Answer : JwksQuery → Type
  | .acquire _ => AcquireReply
  | .get .. => HttpReply

abbrev JwksAction := Task JwksState PyExc JwksQuery JwksQuery.Answer

/-- `body["keys"]`. -/
def keysField : Json → Except TokenError Json
  | .obj fields =>
      match fields.lookup (py "keys") with
      | some value => .ok value
      | none => .error (.keyError (py "'keys'"))
  | .arr _ => .error (.typeError (py "list indices must be integers or slices, not str"))
  | .str _ => .error (.typeError (py "string indices must be integers, not 'str'"))
  | _ => .error (.typeError (py "object is not subscriptable"))

/-- `len(value)`. -/
def jsonLen : Json → Except TokenError Nat
  | .arr values => .ok values.length
  | .obj fields => .ok fields.length
  | .str value => .ok value.length
  | _ => .error (.typeError (py "object has no len()"))

/-- The `try` of `_fetch_jwks`. -/
def HttpReply.keys : HttpReply → Except PyExc Json
  | .served body => (keysField body).mapError TokenError.toPyExc
  | .raised exc => .error exc

def jwksState : JwksAction JwksState := EventLoop.Task.get

def logLine (level : LogLevel) (event : String) (fields : List (String × LogValue)) :
    JwksAction Unit :=
  Task.modify fun s => s.addLog level event fields

/-- `_fetch_jwks` once the client has answered. A cancellation is no
`Exception`. -/
def fetched (url : PyStr) (reply : HttpReply) : JwksAction Json :=
  match reply.keys with
  | .ok keys => pure keys
  | .error .cancelled => throw .cancelled
  | .error exc => do
      logLine .error "jwks_fetch_failed"
        [("url", .str url), ("error", .str exc.text), ("exc_info", .exc exc)]
      throw (unreachable url)

/-- `_fetch_jwks`. -/
def fetchJwks (url : PyStr) : JwksAction Json := do
  let s ← jwksState
  let reply : HttpReply ← Task.ask (JwksQuery.get url s.now)
  fetched url reply

/-- `_get_jwks_lock`. -/
def getJwksLock (eventLoop : Nat) (url : PyStr) : JwksAction Nat := do
  let s ← jwksState
  match s.lockFor eventLoop url with
  | some lock => pure lock
  | none => do
      Task.modify fun s => s.makeLock eventLoop url
      pure s.made

section

variable (settings : Settings)

/-- The `except` around the fetch, with the entry read before it. What it
returns at once is on the left. -/
def orStale (entry : Option JwksEntry) (fetch : JwksAction Json) : JwksAction (Json ⊕ Json) :=
  tryCatch (Sum.inr <$> fetch) fun exc =>
    match exc, entry with
    | .httpException .., some entry => do
        logLine .warning "jwks_refresh_failed_serving_stale"
          [("url", .str settings.brokerJwksUrl)]
        pure (.inl entry.keys)
    | exc, _ => throw exc

/-- What follows the fetch; `now` was read before it. -/
def stored (now : ℚ) : Json ⊕ Json → JwksAction Json
  | .inl stale => pure stale
  | .inr keys => do
      Task.modify fun s => s.storeEntry settings.brokerJwksUrl ⟨keys, now⟩
      let count ← Task.ofExcept ((jsonLen keys).mapError TokenError.toPyExc)
      logLine .debug "jwks_cache_refreshed"
        [("url", .str settings.brokerJwksUrl), ("key_count", .int count)]
      pure keys

/-- The body of `async with`. -/
def refresh : JwksAction Json := do
  let s ← jwksState
  match s.freshKeys settings with
  | some keys => pure keys
  | none => do
      let result ← orStale settings (s.cache settings.brokerJwksUrl)
        (fetchJwks settings.brokerJwksUrl)
      stored settings s.now result

/-- `async with` around it, from the answer to `acquire()`. -/
def withLock (lock : Nat) : AcquireReply → JwksAction Json
  | .cancelled => throw .cancelled
  | .acquired => do
      Task.modify fun s => s.setLocked lock true
      (refresh settings).andFinally (Task.modify fun s => s.setLocked lock false)

/-- `get_jwks`. -/
def getJwks (eventLoop : Nat) : JwksAction Json := do
  let s ← jwksState
  match s.freshKeys settings with
  | some keys => pure keys
  | none => do
      let lock ← getJwksLock eventLoop settings.brokerJwksUrl
      let reply : AcquireReply ← Task.ask (JwksQuery.acquire lock)
      withLock settings lock reply

/-- What is left of `get_jwks` while it fetches. -/
def afterGet (lock : Nat) (entry : Option JwksEntry) (now : ℚ) (reply : HttpReply) :
    JwksAction Json :=
  (orStale settings entry (fetched settings.brokerJwksUrl reply) >>= stored settings now).andFinally
    (Task.modify fun s => s.setLocked lock false)

/-- How a call ends whose fetch failed. -/
def fallback : Option JwksEntry → Except PyExc Json
  | some entry => .ok entry.keys
  | none => .error (unreachable settings.brokerJwksUrl)

end

section Turns

variable {settings : Settings} {eventLoop lock : Nat} {entry : JwksEntry} {now : ℚ}
    {reply : HttpReply} {s : JwksState} {keys : Json}

@[simp] theorem advance_jwksState : jwksState.advance s = (.finished (.ok s), s) := rfl

@[simp] theorem advance_logLine (level : LogLevel) (event : String)
    (fields : List (String × LogValue)) :
    (logLine level event fields).advance s = (.finished (.ok ()), s.addLog level event fields) :=
  rfl

theorem advance_getJwks_hit (hFresh : s.freshKeys settings = some keys) :
    (getJwks settings eventLoop).advance s = (.finished (.ok keys), s) := by
  rw [getJwks, advance_bind_ok advance_jwksState, hFresh]
  rfl

theorem advance_getJwksLock_some {url : PyStr} (hLock : s.lockFor eventLoop url = some lock) :
    (getJwksLock eventLoop url).advance s = (.finished (.ok lock), s) := by
  rw [getJwksLock, advance_bind_ok advance_jwksState, hLock]
  rfl

theorem advance_getJwksLock_none {url : PyStr} (hLock : s.lockFor eventLoop url = none) :
    (getJwksLock eventLoop url).advance s =
      (.finished (.ok s.made), s.makeLock eventLoop url) := by
  rw [getJwksLock, advance_bind_ok advance_jwksState, hLock]
  rfl

theorem advance_getJwks_miss (hStale : s.freshKeys settings = none)
    (hLock : s.lockFor eventLoop settings.brokerJwksUrl = some lock) :
    (getJwks settings eventLoop).advance s =
      (.waiting (.acquire lock) (withLock settings lock), s) := by
  rw [getJwks, advance_bind_ok advance_jwksState, hStale]
  show (getJwksLock eventLoop settings.brokerJwksUrl >>= _).advance s = _
  rw [advance_bind_ok (advance_getJwksLock_some hLock)]
  rfl

/-- The first call that finds no fresh entry makes the lock. -/
theorem advance_getJwks_first (hStale : s.freshKeys settings = none)
    (hLock : s.lockFor eventLoop settings.brokerJwksUrl = none) :
    (getJwks settings eventLoop).advance s =
      (.waiting (.acquire s.made) (withLock settings s.made),
        s.makeLock eventLoop settings.brokerJwksUrl) := by
  rw [getJwks, advance_bind_ok advance_jwksState, hStale]
  show (getJwksLock eventLoop settings.brokerJwksUrl >>= _).advance s = _
  rw [advance_bind_ok (advance_getJwksLock_none hLock)]
  rfl

theorem advance_withLock_hit (hFresh : s.freshKeys settings = some keys) :
    (withLock settings lock .acquired).advance s =
      (.finished (.ok keys), (s.setLocked lock true).setLocked lock false) := by
  have hRefresh : (refresh settings).advance (s.setLocked lock true) =
      (.finished (.ok keys), s.setLocked lock true) := by
    rw [refresh, advance_bind_ok advance_jwksState]
    show (match s.freshKeys settings with | some keys => _ | none => _ : JwksAction Json).advance _
      = _
    rw [hFresh]
    rfl
  rw [withLock, advance_bind_ok (advance_modify _), advance_andFinally, hRefresh]
  rfl

theorem advance_withLock_miss (hStale : s.freshKeys settings = none) :
    (withLock settings lock .acquired).advance s =
      (.waiting (.get settings.brokerJwksUrl s.now)
        (afterGet settings lock (s.cache settings.brokerJwksUrl) s.now),
        s.setLocked lock true) := by
  have hRefresh : (refresh settings).advance (s.setLocked lock true) =
      (.waiting (.get settings.brokerJwksUrl s.now)
        (fun reply => orStale settings (s.cache settings.brokerJwksUrl)
          (fetched settings.brokerJwksUrl reply) >>= stored settings s.now),
        s.setLocked lock true) := by
    rw [refresh, advance_bind_ok advance_jwksState]
    show (match s.freshKeys settings with | some keys => _ | none => _ : JwksAction Json).advance _
      = _
    rw [hStale]
    rfl
  rw [withLock, advance_bind_ok (advance_modify _), advance_andFinally, hRefresh]
  rfl

theorem advance_afterGet_sized {entry : Option JwksEntry} {count : Nat}
    (hKeys : reply.keys = .ok keys) (hLen : jsonLen keys = .ok count) :
    (afterGet settings lock entry now reply).advance s =
      (.finished (.ok keys),
        ((s.storeEntry settings.brokerJwksUrl ⟨keys, now⟩).addLog .debug
          "jwks_cache_refreshed" [("url", .str settings.brokerJwksUrl),
            ("key_count", .int count)]).setLocked lock false) := by
  have hStored : (stored settings now (.inr keys)).advance s =
      (.finished (.ok keys), (s.storeEntry settings.brokerJwksUrl ⟨keys, now⟩).addLog .debug
        "jwks_cache_refreshed" [("url", .str settings.brokerJwksUrl),
          ("key_count", .int count)]) := by
    rw [stored, advance_bind_ok (advance_modify _), hLen]
    rfl
  rw [afterGet, advance_andFinally, fetched, hKeys, orStale, advance_bind_ok rfl, hStored]
  rfl

/-- The entry is written before the length of its keys is asked for. -/
theorem advance_afterGet_unsized {entry : Option JwksEntry} {exc : TokenError}
    (hKeys : reply.keys = .ok keys) (hLen : jsonLen keys = .error exc) :
    (afterGet settings lock entry now reply).advance s =
      (.finished (.error exc.toPyExc),
        (s.storeEntry settings.brokerJwksUrl ⟨keys, now⟩).setLocked lock false) := by
  have hStored : (stored settings now (.inr keys)).advance s =
      (.finished (.error exc.toPyExc), s.storeEntry settings.brokerJwksUrl ⟨keys, now⟩) := by
    rw [stored, advance_bind_ok (advance_modify _), hLen]
    rfl
  rw [afterGet, advance_andFinally, fetched, hKeys, orStale, advance_bind_ok rfl, hStored]
  rfl

theorem advance_afterGet_ok {entry : Option JwksEntry} {values : List Json}
    (hKeys : reply.keys = .ok (.arr values)) :
    (afterGet settings lock entry now reply).advance s =
      (.finished (.ok (.arr values)),
        ((s.storeEntry settings.brokerJwksUrl ⟨.arr values, now⟩).addLog .debug
          "jwks_cache_refreshed" [("url", .str settings.brokerJwksUrl),
            ("key_count", .int values.length)]).setLocked lock false) :=
  advance_afterGet_sized hKeys rfl

theorem advance_afterGet_cancelled {entry : Option JwksEntry}
    (hKeys : reply.keys = .error .cancelled) :
    (afterGet settings lock entry now reply).advance s =
      (.finished (.error .cancelled), s.setLocked lock false) := by
  rw [afterGet, advance_andFinally, fetched, hKeys]
  rfl

theorem advance_fetched_error (url : PyStr) {exc : PyExc} (hKeys : reply.keys = .error exc)
    (hExc : exc ≠ .cancelled) :
    (fetched url reply).advance s =
      (.finished (.error (unreachable url)), s.addLog .error "jwks_fetch_failed"
        [("url", .str url), ("error", .str exc.text), ("exc_info", .exc exc)]) := by
  rw [fetched, hKeys]
  cases exc with
  | cancelled => exact absurd rfl hExc
  | _ => rfl

variable (settings lock now s) in
theorem advance_afterGet_failed (entry : Option JwksEntry) {exc : PyExc}
    (hKeys : reply.keys = .error exc) (hExc : exc ≠ .cancelled) :
    ∃ log, (afterGet settings lock entry now reply).advance s =
      (.finished (fallback settings entry),
        JwksState.setLocked { s with log := log } lock false) := by
  have hFetched := advance_fetched_error (s := s) settings.brokerJwksUrl hKeys hExc
  rw [afterGet, advance_andFinally, advance_bind, orStale, advance_tryCatch, map_eq_bind,
    advance_bind_error hFetched]
  cases entry with
  | none => exact ⟨_, rfl⟩
  | some entry => exact ⟨_, rfl⟩

variable (settings lock now s) in
/-- Whatever the fetch brings, the call ends, and gives the lock back. -/
theorem advance_afterGet (entry : Option JwksEntry) (reply : HttpReply) :
    ∃ outcome cache log, (afterGet settings lock entry now reply).advance s =
      (.finished outcome,
        JwksState.setLocked { s with cache := cache, log := log } lock false) := by
  cases hKeys : reply.keys with
  | ok keys =>
      cases hLen : jsonLen keys with
      | ok count => exact ⟨_, _, _, advance_afterGet_sized hKeys hLen⟩
      | error exc => exact ⟨_, _, _, advance_afterGet_unsized hKeys hLen⟩
  | error exc =>
      by_cases hExc : exc = .cancelled
      · rw [hExc] at hKeys
        exact ⟨_, _, _, advance_afterGet_cancelled hKeys⟩
      · obtain ⟨log, hAdvance⟩ := advance_afterGet_failed settings lock now s entry hKeys hExc
        exact ⟨_, _, log, hAdvance⟩

end Turns

end Krb5TokenService.Identity
