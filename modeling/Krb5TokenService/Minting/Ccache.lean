import Krb5TokenService.Service.World

/-! `ccache.py`: reading the principal and the granted times out of a
credential cache. What pykrb5 makes of the file's bytes is a parameter. -/
namespace Krb5TokenService.Minting

open Python

/-- A principal as pykrb5 returns it; `text` is `str(principal)`, and `none`
when its name is not UTF-8. -/
structure Krb5Principal where
  realm : Bytes
  text : Option PyStr

/-- Times are seconds since the epoch. libkrb5 keeps 32 bits of them, all of
which `datetime.fromtimestamp` can represent. -/
structure Krb5Creds where
  server : Krb5Principal
  endtime : ℤ
  renewTill : ℤ

/-- A cache that could be opened. `broken` is the `Krb5Error` that ends the
iteration over its credentials, if one does. -/
structure Krb5Ccache where
  principal : Krb5Principal
  creds : List Krb5Creds
  broken : Option PyStr

/-- pykrb5's `cc_resolve` and `cc_get_principal` on the contents of a file, or
on a missing one; the error is the message of its `Krb5Error`. -/
structure Krb5 where
  load : Option Bytes → Except PyStr Krb5Ccache

structure CcacheInfo where
  principal : PyStr
  realm : PyStr
  expiresAt : ℤ
  renewUntil : Option ℤ

/-- The realm of the config entries MIT krb5 stores between credentials. -/
def configEntryRealm : Bytes :=
  [0x58, 0x2D, 0x43, 0x41, 0x43, 0x48, 0x45, 0x43, 0x4F, 0x4E, 0x46, 0x3A]

/-- The name of a realm's ticket-granting ticket. -/
def tgtServer (realm : PyStr) : PyStr := py "krbtgt/" ++ realm ++ py "@" ++ realm

/-- The loop over the credentials: the first one for `server`, if any. -/
def findTgt (server : PyStr) : List Krb5Creds → Except PyExc (Option Krb5Creds)
  | [] => .ok none
  | cred :: rest =>
      if cred.server.realm = configEntryRealm then findTgt server rest
      else
        match cred.server.text with
        | none => .error (.valueError (py "invalid utf-8"))
        | some text => if text = server then .ok (some cred) else findTgt server rest

def unreadable (message : PyStr) : PyExc := .ccacheParse (py "not a readable ccache: " ++ message)

/-- `read_ccache` on a file's contents. `failure` is an error of libkrb5's own
access to the file. -/
def readCcache (krb5 : Krb5) (failure : Option PyStr) (contents : Option Bytes) :
    Except PyExc CcacheInfo :=
  match failure with
  | some message => .error (unreadable message)
  | none =>
      match krb5.load contents with
      | .error message => .error (unreadable message)
      | .ok cache =>
          match cache.principal.realm.decode with
          | none => .error (.valueError (py "invalid utf-8"))
          | some realm =>
              match findTgt (tgtServer realm) cache.creds with
              | .error exc => .error exc
              | .ok (some cred) =>
                  match cache.principal.text with
                  | none => .error (.valueError (py "invalid utf-8"))
                  | some principal =>
                      .ok {
                        principal := principal
                        realm := realm
                        expiresAt := cred.endtime
                        renewUntil := if cred.renewTill = 0 then none else some cred.renewTill }
              | .ok none =>
                  match cache.broken with
                  | some message => .error (unreadable message)
                  | none =>
                      .error (.ccacheParse (py "no " ++ tgtServer realm ++
                        py " credential found in minted ccache"))

theorem findTgt_error {server : PyStr} {creds : List Krb5Creds} {exc : PyExc}
    (h : findTgt server creds = .error exc) : ∃ message, exc = .valueError message := by
  induction creds with
  | nil => simp [findTgt] at h
  | cons cred rest ih =>
      unfold findTgt at h
      split at h
      · exact ih h
      · split at h
        · cases h
          exact ⟨_, rfl⟩
        · split at h
          · simp at h
          · exact ih h

/-- The two ways to fail: `CcacheParseError`, and a name that is not UTF-8. -/
theorem readCcache_error {krb5 : Krb5} {failure : Option PyStr} {contents : Option Bytes}
    {exc : PyExc} (h : readCcache krb5 failure contents = .error exc) :
    (∃ message, exc = .ccacheParse message) ∨ ∃ message, exc = .valueError message := by
  unfold readCcache at h
  split at h
  · cases h
    exact .inl ⟨_, rfl⟩
  · split at h
    · cases h
      exact .inl ⟨_, rfl⟩
    · split at h
      · cases h
        exact .inr ⟨_, rfl⟩
      · split at h
        · cases h
          exact .inr (findTgt_error ‹_›)
        · split at h
          · cases h
            exact .inr ⟨_, rfl⟩
          · simp at h
        · split at h
          · cases h
            exact .inl ⟨_, rfl⟩
          · cases h
            exact .inl ⟨_, rfl⟩

end Krb5TokenService.Minting
