import Krb5TokenService.Identity.Jwks

/-! One refresh of the key cache, from any cache and for any response. Only a
list of JSON objects is meant to reach the cache; the code writes whatever the
body has under `keys`. -/
namespace Krb5TokenService.Identity

open Python EventLoop EventLoop.Task

section Statements

/-- The value under the body's `keys`, if it has one. -/
def HttpReply.Serves (value : Json) : HttpReply → Prop
  | .served (.obj fields) => fields.lookup (py "keys") = some value
  | _ => False

def ListsObjects : Json → Prop
  | .arr values => ∀ value ∈ values, ∃ fields, value = .obj fields
  | _ => False

/-- The lock is granted and the endpoint answers. What other tasks do in the
meantime is free, up to writing the cache while the lock is held. -/
structure Answers (reply : HttpReply)
    (answer : (query : JwksQuery) → JwksState → query.Answer × JwksState) : Prop where
  acquires : ∀ lock s, (answer (.acquire lock) s).1 = .acquired
  replies : ∀ url sent s, (answer (.get url sent) s).1 = reply
  keeps : ∀ url sent s, (answer (.get url sent) s).2.cache = s.cache

/-- The state that a call finds when it gets the lock. -/
def lockedAt (settings : Settings) (eventLoop : Nat)
    (answer : (query : JwksQuery) → JwksState → query.Answer × JwksState) (s : JwksState) :
    JwksState :=
  match (getJwksLock eventLoop settings.brokerJwksUrl).advance s with
  | (.finished (.ok lock), t) => (answer (.acquire lock) t).2
  | (_, t) => t

/-- A refresh stores and returns a list of objects from the body, or leaves the
entry that it found and falls back on it. -/
def Refreshed (settings : Settings) (reply : HttpReply) (prior : JwksState)
    (ended : Except PyExc Json × JwksState) : Prop :=
  (∃ keys, reply.Serves keys ∧ ListsObjects keys ∧ ended.1 = .ok keys ∧
    ended.2.cache settings.brokerJwksUrl = some ⟨keys, prior.now⟩) ∨
  (ended.2.cache settings.brokerJwksUrl = prior.cache settings.brokerJwksUrl ∧
    ended.1 = fallback settings (prior.cache settings.brokerJwksUrl))

/-- What the code needs of a response: a list of objects under `keys`, if there
is anything. The second case, that the very entry to be written is there
already, takes a negative TTL. -/
def Storable (settings : Settings) (reply : HttpReply) (prior : JwksState) : Prop :=
  ∀ keys, reply.Serves keys → ListsObjects keys ∨
    ((∃ count, jsonLen keys = .ok count) ∧
      prior.cache settings.brokerJwksUrl = some ⟨keys, prior.now⟩)

end Statements

section Refreshes

variable {settings : Settings} {eventLoop : Nat} {reply : HttpReply} {s : JwksState}
    {answer : (query : JwksQuery) → JwksState → query.Answer × JwksState}

theorem HttpReply.keys_eq_ok_iff {value : Json} : reply.keys = .ok value ↔ reply.Serves value := by
  cases reply with
  | raised exc => simp [HttpReply.keys, Serves]
  | served body =>
      cases body with
      | obj fields =>
          cases hLookup : fields.lookup (py "keys") with
          | none => simp [HttpReply.keys, keysField, Serves, hLookup, Except.mapError]
          | some found => simp [HttpReply.keys, keysField, Serves, hLookup, Except.mapError]
      | _ => simp [HttpReply.keys, keysField, Serves, Except.mapError]

/-- A refresh goes on with the lock, and then with the endpoint's answer. -/
theorem run_getJwks (hAnswers : Answers reply answer) (hStale : s.freshKeys settings = none)
    (hStill : (lockedAt settings eventLoop answer s).freshKeys settings = none) :
    ∃ lock t, t.cache = (lockedAt settings eventLoop answer s).cache ∧
      (getJwks settings eventLoop).run answer s =
        (afterGet settings lock
          ((lockedAt settings eventLoop answer s).cache settings.brokerJwksUrl)
          (lockedAt settings eventLoop answer s).now reply).run answer t := by
  have hGet : ∃ lock t, (getJwksLock eventLoop settings.brokerJwksUrl).advance s =
        (.finished (.ok lock), t) ∧
      (getJwks settings eventLoop).advance s =
        (.waiting (.acquire lock) (withLock settings lock), t) := by
    cases hFor : s.lockFor eventLoop settings.brokerJwksUrl with
    | some lock =>
        exact ⟨lock, s, advance_getJwksLock_some hFor, advance_getJwks_miss hStale hFor⟩
    | none =>
        exact ⟨s.made, _, advance_getJwksLock_none hFor, advance_getJwks_first hStale hFor⟩
  obtain ⟨lock, t, hLock, hAdvance⟩ := hGet
  have hPrior : lockedAt settings eventLoop answer s = (answer (.acquire lock) t).2 := by
    rw [lockedAt, hLock]
  rw [hPrior] at hStill ⊢
  refine ⟨lock, (answer (.get settings.brokerJwksUrl (answer (.acquire lock) t).2.now)
    ((answer (.acquire lock) t).2.setLocked lock true)).2, hAnswers.keeps .., ?_⟩
  rw [run_of_waiting answer hAdvance, hAnswers.acquires,
    run_of_waiting answer (advance_withLock_miss hStill), hAnswers.replies]

/-- What is under `keys` is stored before anything is done with it. -/
theorem run_getJwks_served (hAnswers : Answers reply answer)
    (hStale : s.freshKeys settings = none)
    (hStill : (lockedAt settings eventLoop answer s).freshKeys settings = none) {keys : Json}
    (hServes : reply.Serves keys) :
    ((getJwks settings eventLoop).run answer s).1 =
        ((jsonLen keys).mapError TokenError.toPyExc).map (fun _ => keys) ∧
      ((getJwks settings eventLoop).run answer s).2.cache settings.brokerJwksUrl =
        some ⟨keys, (lockedAt settings eventLoop answer s).now⟩ := by
  have hKeys := HttpReply.keys_eq_ok_iff.mpr hServes
  obtain ⟨lock, t, -, hRun⟩ := run_getJwks hAnswers hStale hStill
  rw [hRun]
  cases hLen : jsonLen keys with
  | ok count =>
      rw [run_of_finished answer (advance_afterGet_sized hKeys hLen)]
      exact ⟨rfl, JwksState.cache_storeEntry_self _⟩
  | error exc =>
      rw [run_of_finished answer (advance_afterGet_unsized hKeys hLen)]
      exact ⟨rfl, JwksState.cache_storeEntry_self _⟩

/-- A response without `keys` is a failed fetch. -/
theorem run_getJwks_unserved (hAnswers : Answers reply answer)
    (hStale : s.freshKeys settings = none)
    (hStill : (lockedAt settings eventLoop answer s).freshKeys settings = none)
    (hServes : ∀ keys, ¬ reply.Serves keys) (hReply : reply.keys ≠ .error .cancelled) :
    ((getJwks settings eventLoop).run answer s).1 =
        fallback settings ((lockedAt settings eventLoop answer s).cache settings.brokerJwksUrl) ∧
      ((getJwks settings eventLoop).run answer s).2.cache settings.brokerJwksUrl =
        (lockedAt settings eventLoop answer s).cache settings.brokerJwksUrl := by
  obtain ⟨lock, t, hCache, hRun⟩ := run_getJwks hAnswers hStale hStill
  cases hKeys : reply.keys with
  | ok keys => exact absurd (HttpReply.keys_eq_ok_iff.mp hKeys) (hServes keys)
  | error exc =>
      have hExc : exc ≠ .cancelled := fun hSame => hReply (by rw [hKeys, hSame])
      obtain ⟨log, hAdvance⟩ := advance_afterGet_failed settings lock
        (lockedAt settings eventLoop answer s).now t
        ((lockedAt settings eventLoop answer s).cache settings.brokerJwksUrl) hKeys hExc
      rw [hRun, run_of_finished answer hAdvance]
      exact ⟨rfl, congrFun hCache _⟩

theorem jsonLen_of_listsObjects {keys : Json} (hKeys : ListsObjects keys) :
    ∃ count, jsonLen keys = .ok count := by
  cases keys with
  | arr values => exact ⟨values.length, rfl⟩
  | _ => exact absurd hKeys id

/-- An entry as new as this would have been fresh. -/
theorem storable_iff (hTtl : 0 ≤ settings.jwksCacheTtlSeconds)
    (hStale : s.freshKeys settings = none) :
    Storable settings reply s ↔ ∀ keys, reply.Serves keys → ListsObjects keys := by
  constructor
  · intro hStorable keys hServes
    rcases hStorable keys hServes with hLists | ⟨-, hEntry⟩
    · exact hLists
    · have hAge : s.now - s.now ≤ (settings.jwksCacheTtlSeconds : ℚ) := by
        rw [sub_self]
        exact_mod_cast hTtl
      rw [JwksState.freshKeys, hEntry] at hStale
      simp only [if_pos hAge] at hStale
      cases hStale
  · exact fun hLists keys hServes => .inl (hLists keys hServes)

end Refreshes

/-- A refresh does what it is meant to exactly when the response has a list of
objects under `keys`, or nothing. -/
theorem refreshed_iff (settings : Settings) (eventLoop : Nat) (reply : HttpReply)
    (hReply : reply.keys ≠ .error .cancelled)
    (answer : (query : JwksQuery) → JwksState → query.Answer × JwksState)
    (hAnswers : Answers reply answer) (s : JwksState) (hStale : s.freshKeys settings = none)
    (hStill : (lockedAt settings eventLoop answer s).freshKeys settings = none) :
    Refreshed settings reply (lockedAt settings eventLoop answer s)
        ((getJwks settings eventLoop).run answer s) ↔
      Storable settings reply (lockedAt settings eventLoop answer s) := by
  by_cases hServes : ∃ keys, reply.Serves keys
  · obtain ⟨keys, hKeys⟩ := hServes
    have hOnly : ∀ other, reply.Serves other → other = keys := fun other hOther =>
      Except.ok.inj ((HttpReply.keys_eq_ok_iff.mpr hOther).symm.trans
        (HttpReply.keys_eq_ok_iff.mpr hKeys))
    obtain ⟨hOutcome, hCache⟩ := run_getJwks_served hAnswers hStale hStill hKeys
    constructor
    · rintro (⟨served, hServed, hLists, -⟩ | ⟨hKept, hFallback⟩) other hOther
      · rw [hOnly other hOther, ← hOnly served hServed]
        exact .inl hLists
      · rw [hOnly other hOther]
        rw [hCache] at hKept
        rw [hOutcome, ← hKept] at hFallback
        refine .inr ⟨?_, hKept.symm⟩
        cases hLen : jsonLen keys with
        | ok count => exact ⟨count, rfl⟩
        | error exc =>
            rw [hLen] at hFallback
            cases hFallback
    · intro hStorable
      rcases hStorable keys hKeys with hLists | ⟨⟨count, hLen⟩, hEntry⟩
      · obtain ⟨count, hLen⟩ := jsonLen_of_listsObjects hLists
        rw [hLen] at hOutcome
        exact .inl ⟨keys, hKeys, hLists, hOutcome, hCache⟩
      · rw [hLen] at hOutcome
        refine .inr ⟨hCache.trans hEntry.symm, ?_⟩
        rw [hEntry]
        exact hOutcome
  · have hNone : ∀ keys, ¬ reply.Serves keys := fun keys hKeys => hServes ⟨keys, hKeys⟩
    obtain ⟨hOutcome, hCache⟩ := run_getJwks_unserved hAnswers hStale hStill hNone hReply
    exact ⟨fun _ keys hKeys => absurd hKeys (hNone keys), fun _ => .inr ⟨hCache, hOutcome⟩⟩

section Cases

/-- An entry that is long out of date. -/
def staleJwks : JwksState :=
  ⟨fun _ => some ⟨.arr [], 0⟩, fun _ => none, 0, fun _ => false, 1000, []⟩

def answering (reply : HttpReply) :
    (query : JwksQuery) → JwksState → query.Answer × JwksState
  | .acquire _, s => (.acquired, s)
  | .get .., s => (reply, s)

theorem answering_answers (reply : HttpReply) : Answers reply (answering reply) :=
  ⟨fun _ _ => rfl, fun _ _ _ => rfl, fun _ _ _ => rfl⟩

theorem staleJwks_stale : staleJwks.freshKeys {} = none := by
  show (if (1000 : ℚ) - 0 ≤ (300 : ℤ) then some (Json.arr []) else none) = none
  rw [if_neg (by norm_num)]

def oneKey : HttpReply := .served (.obj [(py "keys", .arr [.obj []])])

theorem one_key_refreshed :
    Refreshed {} oneKey (lockedAt {} 0 (answering oneKey) staleJwks)
      ((getJwks {} 0).run (answering oneKey) staleJwks) := by
  refine (refreshed_iff {} 0 oneKey (fun h => by cases h) _ (answering_answers _) _
    staleJwks_stale staleJwks_stale).mpr fun keys hServes => .inl ?_
  obtain rfl := Option.some.inj hServes
  intro value hValue
  exact ⟨[], List.mem_singleton.mp hValue⟩

def noList : HttpReply := .served (.obj [(py "keys", .num 5)])

/-- A number under `keys` replaces a good entry, and the call ends in a
`TypeError`. -/
theorem number_not_refreshed :
    ¬ Refreshed {} noList (lockedAt {} 0 (answering noList) staleJwks)
      ((getJwks {} 0).run (answering noList) staleJwks) := by
  have hServes : noList.Serves (.num 5) := rfl
  obtain ⟨hOutcome, hCache⟩ := run_getJwks_served (answering_answers noList) staleJwks_stale
    staleJwks_stale hServes
  rintro (⟨keys, -, -, hOk, -⟩ | ⟨-, hFallback⟩)
  · rw [hOutcome] at hOk
    cases hOk
  · rw [hOutcome] at hFallback
    cases hFallback

end Cases

end Krb5TokenService.Identity
