import Krb5TokenService.Identity.Token

/-! Which exceptions `verify_broker_token` lets through once it has the keys,
and what its answer owes to their order. PyJWT raises what it documents; the
list is any list of JSON values. -/
namespace Krb5TokenService.Identity

open Python EventLoop EventLoop.Task Krb5TokenService.Action

section Statements

/-- The exceptions of the two except clauses. -/
def TokenError.Caught : TokenError → Prop
  | .pyJwtError _ | .valueError _ | .keyError _ => True
  | .typeError _ | .attributeError _ => False

/-- PyJWT raises its own errors, `ValueError` and `KeyError`, and in the import
of a key also `TypeError`. -/
structure Documented (jwt : PyJwt) : Prop where
  header : ∀ token error, jwt.getUnverifiedHeader token = .error error → error.Caught
  key : ∀ keyData error, jwt.fromJwk keyData = .error error →
    error.Caught ∨ ∃ message, error = .typeError message
  token : ∀ token key args error, jwt.decode token key args = .error error → error.Caught

/-- The fields of an RSA key, public and private. -/
def rsaFields : List PyStr :=
  [py "n", py "e", py "d", py "p", py "q", py "dp", py "dq", py "qi"]

def isText : Json → Bool
  | .str _ => true
  | _ => false

/-- An RSA key with a field that is no string. -/
def mistyped : Json → Bool
  | .obj fields => isStr (py "RSA") (fields.lookup (py "kty")) &&
      rsaFields.any fun name => (fields.lookup name).any fun value => !isText value
  | _ => false

/-- The import of a key raises `TypeError` for such a key only. -/
structure DocumentedTypes (jwt : PyJwt) : Prop extends Documented jwt where
  typed : ∀ keyData message, jwt.fromJwk keyData = .error (.typeError message) →
    mistyped keyData = true

def hasKid (kid : PyStr) : Json → Bool
  | .obj fields => isStr kid (fields.lookup (py "kid"))
  | _ => false

/-- Every entry before the first one with the kid is an object. -/
def Walkable (kid : PyStr) (entries : List Json) : Prop :=
  ∀ entry ∈ entries.takeWhile fun entry => !hasKid kid entry, ∃ fields, entry = .obj fields

/-- What the selection needs of the list: without a kid nothing is looked at. -/
def Selectable (entries : List Json) : Option PyStr → Prop
  | some kid => Walkable kid entries
  | none => True

def chosen (entries : List Json) : Option PyStr → Option Json
  | some kid => entries.find? (hasKid kid)
  | none =>
      match entries with
      | [keyData] => some keyData
      | _ => none

variable (jwt : PyJwt) (settings : Settings)

/-- The import of the key raises no `TypeError`. -/
def Importable (keyData : Json) : Prop :=
  ∀ message, jwt.fromJwk keyData ≠ .error (.typeError message)

/-- `jwt.decode` accepts the token under the key and gives these claims. -/
def Decodes (token : PyStr) (keyData : Json) (claims : Claims) : Prop :=
  ∃ key, jwt.fromJwk keyData = .ok key ∧ jwt.decode token key (decodeArgs settings) = .ok claims

/-- The condition under which every failure is a 401: the walk meets objects
only, and the key it selects can be imported. -/
def Usable (entries : List Json) (token : PyStr) : Prop :=
  ∀ kid, jwt.getUnverifiedHeader token = .ok kid →
    Selectable entries kid ∧ ∀ keyData, chosen entries kid = some keyData → Importable jwt keyData

/-- The claims of a token that the selected key verifies. -/
def AcceptedUnderSelected (entries : List Json) (token : PyStr) (claims : Claims) : Prop :=
  ∃ kid keyData, jwt.getUnverifiedHeader token = .ok kid ∧
    selectJwk (.arr entries) kid = .ok (some keyData) ∧ Decodes jwt settings token keyData claims

end Statements

section Selection

variable {kid : PyStr} {entry : Json} {entries : List Json}

theorem walkable_cons : Walkable kid (entry :: entries) ↔
    hasKid kid entry = true ∨ (∃ fields, entry = .obj fields) ∧ Walkable kid entries := by
  cases hKid : hasKid kid entry with
  | true => simp [Walkable, hKid]
  | false => simp [Walkable, hKid]

theorem walkable_of_objects (h : ∀ entry ∈ entries, ∃ fields, entry = .obj fields) :
    Walkable kid entries :=
  fun entry hEntry => h entry ((List.takeWhile_sublist _).subset hEntry)

/-- An object has the kid or is passed over. -/
theorem selectByKid_obj (fields : List (PyStr × Json)) :
    selectByKid kid (.obj fields :: entries) =
      if hasKid kid (.obj fields) then .ok (some (.obj fields)) else selectByKid kid entries :=
  rfl

theorem hasKid_obj (h : hasKid kid entry = true) : ∃ fields, entry = .obj fields := by
  cases entry with
  | obj fields => exact ⟨fields, rfl⟩
  | _ => cases h

theorem selectByKid_walkable (h : Walkable kid entries) :
    selectByKid kid entries = .ok (entries.find? (hasKid kid)) := by
  induction entries with
  | nil => rfl
  | cons entry rest ih =>
      rcases walkable_cons.mp h with hKid | ⟨⟨fields, rfl⟩, hRest⟩
      · obtain ⟨fields, rfl⟩ := hasKid_obj hKid
        rw [selectByKid_obj, if_pos hKid, List.find?_cons_of_pos hKid]
      · rw [selectByKid_obj, List.find?_cons, ih hRest]
        cases hasKid kid (.obj fields) with
        | true => rfl
        | false => rfl

/-- The walk fails at the first entry that is no object. -/
theorem selectByKid_not_walkable (h : ¬ Walkable kid entries) :
    ∃ message, selectByKid kid entries = .error (.attributeError message) := by
  induction entries with
  | nil => exact absurd (fun entry hEntry => absurd hEntry List.not_mem_nil) h
  | cons entry rest ih =>
      rw [walkable_cons, not_or, not_and] at h
      cases entry with
      | obj fields =>
          rw [selectByKid_obj, if_neg h.1]
          exact ih (h.2 ⟨fields, rfl⟩)
      | _ => exact ⟨_, rfl⟩

theorem selectJwk_selectable {kid : Option PyStr} (h : Selectable entries kid) :
    selectJwk (.arr entries) kid = .ok (chosen entries kid) := by
  cases kid with
  | some kid => exact selectByKid_walkable h
  | none =>
      cases entries with
      | nil => rfl
      | cons first rest =>
          cases rest with
          | nil => rfl
          | cons second rest => rfl

theorem selectJwk_not_selectable {kid : Option PyStr} (h : ¬ Selectable entries kid) :
    ∃ message, selectJwk (.arr entries) kid = .error (.attributeError message) := by
  cases kid with
  | some kid => exact selectByKid_not_walkable h
  | none => exact absurd trivial h

end Selection

section Verification

variable {jwt : PyJwt} {settings : Settings} {entries : List Json} {token : PyStr} {w : World}
    {kid : Option PyStr} {keyData : Json} {claims : Claims}

/-- What `verify_broker_token` raises for an exception of its `try`. -/
def TokenError.answer : TokenError → PyExc
  | .pyJwtError _ | .valueError _ | .keyError _ => invalidToken
  | error => error.toPyExc

theorem TokenError.answer_eq_iff {error : TokenError} :
    error.answer = invalidToken ↔ error.Caught := by
  cases error with
  | typeError message => exact ⟨fun h => (nomatch h), fun h => absurd h id⟩
  | attributeError message => exact ⟨fun h => (nomatch h), fun h => absurd h id⟩
  | _ => exact ⟨fun _ => trivial, fun _ => rfl⟩

/-- How `verify_broker_token` ends once it has the keys. -/
def Verdict.ended : Verdict → Except PyExc Claims
  | .accepted claims => .ok claims
  | .rejected _ => .error invalidToken
  | .escaped error => .error error.toPyExc

theorem verifyWithKeys_finishes_iff {keys : Json} {outcome : Except PyExc Claims} :
    (verifyWithKeys jwt settings keys token).Finishes w outcome ↔
      outcome = (verdict jwt settings keys token).ended := by
  have hFinishes : (verifyWithKeys jwt settings keys token).Finishes w
      (verdict jwt settings keys token).ended := by
    unfold verifyWithKeys
    cases verdict jwt settings keys token with
    | _ => exact ⟨_, rfl⟩
  exact ⟨fun h => h.unique hFinishes, fun h => h ▸ hFinishes⟩

theorem verdict_ended_error {keys : Json} {error : TokenError}
    (h : decodeToken jwt settings keys token = .error error) :
    (verdict jwt settings keys token).ended = .error error.answer := by
  rw [verdict, h]
  cases error with
  | _ => rfl

theorem ended_of_header {error : TokenError} (h : jwt.getUnverifiedHeader token = .error error) :
    (verdict jwt settings (.arr entries) token).ended = .error error.answer := by
  refine verdict_ended_error ?_
  rw [decodeToken, h]
  rfl

theorem ended_of_not_selectable (hHeader : jwt.getUnverifiedHeader token = .ok kid)
    (h : ¬ Selectable entries kid) : ∃ message,
      (verdict jwt settings (.arr entries) token).ended = .error (.attributeError message) := by
  obtain ⟨message, hSelect⟩ := selectJwk_not_selectable h
  have hDecode : decodeToken jwt settings (.arr entries) token =
      .error (.attributeError message) := by
    rw [decodeToken, hHeader]
    show (selectJwk (.arr entries) kid >>= _) = _
    rw [hSelect]
    rfl
  exact ⟨message, verdict_ended_error hDecode⟩

theorem ended_of_unchosen (hHeader : jwt.getUnverifiedHeader token = .ok kid)
    (h : Selectable entries kid) (hNone : chosen entries kid = none) :
    (verdict jwt settings (.arr entries) token).ended = .error invalidToken := by
  have hDecode : decodeToken jwt settings (.arr entries) token = .ok (.error kid) := by
    rw [decodeToken, hHeader]
    show (selectJwk (.arr entries) kid >>= _) = _
    rw [selectJwk_selectable h, hNone]
    rfl
  rw [verdict, hDecode]
  rfl

/-- The key that was selected decides. -/
theorem ended_of_chosen (hHeader : jwt.getUnverifiedHeader token = .ok kid)
    (h : Selectable entries kid) (hChosen : chosen entries kid = some keyData) :
    (verdict jwt settings (.arr entries) token).ended =
      (jwt.fromJwk keyData >>= fun key => jwt.decode token key (decodeArgs settings)).mapError
        TokenError.answer := by
  have hDecode : decodeToken jwt settings (.arr entries) token =
      (jwt.fromJwk keyData >>= fun key => jwt.decode token key (decodeArgs settings)).map
        Except.ok := by
    rw [decodeToken, hHeader]
    show (selectJwk (.arr entries) kid >>= _) = _
    rw [selectJwk_selectable h, hChosen]
    show (jwt.fromJwk keyData >>= _) = _
    cases jwt.fromJwk keyData with
    | error error => rfl
    | ok key =>
        show (jwt.decode token key (decodeArgs settings) >>= _) = _
        cases hToken : jwt.decode token key (decodeArgs settings) with
        | error error => rw [show (Except.ok key >>= _) = _ from hToken]; rfl
        | ok claims => rw [show (Except.ok key >>= _) = _ from hToken]; rfl
  cases hResult : jwt.fromJwk keyData >>= fun key => jwt.decode token key (decodeArgs settings) with
  | error error =>
      rw [hResult] at hDecode
      exact verdict_ended_error hDecode
  | ok claims =>
      rw [hResult] at hDecode
      rw [verdict, hDecode]
      rfl

theorem decodes_iff : Decodes jwt settings token keyData claims ↔
    (jwt.fromJwk keyData >>= fun key => jwt.decode token key (decodeArgs settings)) =
      .ok claims := by
  constructor
  · rintro ⟨key, hKey, hToken⟩
    rw [hKey]
    exact hToken
  · intro h
    cases hKey : jwt.fromJwk keyData with
    | error error =>
        rw [hKey] at h
        cases h
    | ok key =>
        rw [hKey] at h
        exact ⟨key, hKey, h⟩

/-- With PyJWT as documented, only the import of the key can fail in a way that
escapes. -/
theorem caught_of_importable (hJwt : Documented jwt) {error : TokenError}
    (h : (jwt.fromJwk keyData >>= fun key => jwt.decode token key (decodeArgs settings)) =
      .error error) : error.Caught ↔ Importable jwt keyData := by
  cases hKey : jwt.fromJwk keyData with
  | ok key =>
      rw [hKey] at h
      have hImportable : Importable jwt keyData := fun message hType => by
        rw [hKey] at hType
        cases hType
      exact iff_of_true (hJwt.token token key _ error h) hImportable
  | error keyError =>
      rw [hKey] at h
      obtain rfl := Except.error.inj h
      constructor
      · intro hCaught message hType
        rw [hKey] at hType
        obtain rfl := Except.error.inj hType
        exact hCaught
      · intro hImportable
        rcases hJwt.key keyData keyError hKey with hCaught | ⟨message, rfl⟩
        · exact hCaught
        · exact absurd hKey (hImportable message)

/-- The claims are those of a token that the selected key verifies. -/
theorem accepted_iff : (verdict jwt settings (.arr entries) token).ended = .ok claims ↔
    ∃ kid keyData, jwt.getUnverifiedHeader token = .ok kid ∧ Selectable entries kid ∧
      chosen entries kid = some keyData ∧ Decodes jwt settings token keyData claims := by
  constructor
  · intro h
    cases hHeader : jwt.getUnverifiedHeader token with
    | error error =>
        rw [ended_of_header hHeader] at h
        cases h
    | ok kid =>
        by_cases hSelectable : Selectable entries kid
        · cases hChosen : chosen entries kid with
          | none =>
              rw [ended_of_unchosen hHeader hSelectable hChosen] at h
              cases h
          | some keyData =>
              rw [ended_of_chosen hHeader hSelectable hChosen] at h
              refine ⟨kid, keyData, rfl, hSelectable, hChosen, decodes_iff.mpr ?_⟩
              cases hResult : jwt.fromJwk keyData >>= fun key =>
                jwt.decode token key (decodeArgs settings) with
              | error error =>
                  rw [hResult] at h
                  cases h
              | ok claims =>
                  rw [hResult] at h
                  rw [Except.ok.inj h]
        · obtain ⟨message, hEnded⟩ := ended_of_not_selectable hHeader hSelectable
          rw [hEnded] at h
          cases h
  · rintro ⟨kid, keyData, hHeader, hSelectable, hChosen, hDecodes⟩
    rw [ended_of_chosen hHeader hSelectable hChosen, decodes_iff.mp hDecodes]
    rfl

/-- The 401 is the answer to a header that PyJWT refuses, and to a list that
can be walked and in which the selected key, if there is one, can be imported
and does not verify. -/
theorem refused_iff (hJwt : Documented jwt) :
    (verdict jwt settings (.arr entries) token).ended = .error invalidToken ↔
      ∀ kid, jwt.getUnverifiedHeader token = .ok kid → Selectable entries kid ∧
        ∀ keyData, chosen entries kid = some keyData → Importable jwt keyData ∧
          ∀ claims, ¬ Decodes jwt settings token keyData claims := by
  cases hHeader : jwt.getUnverifiedHeader token with
  | error error =>
      rw [ended_of_header hHeader]
      have hCaught := hJwt.header token error hHeader
      exact iff_of_true (congrArg _ (TokenError.answer_eq_iff.mpr hCaught))
        (fun kid hKid => by cases hKid)
  | ok kid =>
      by_cases hSelectable : Selectable entries kid
      · cases hChosen : chosen entries kid with
        | none =>
            refine iff_of_true (ended_of_unchosen hHeader hSelectable hChosen) ?_
            rintro _ ⟨⟩
            refine ⟨hSelectable, fun keyData hSome => ?_⟩
            rw [hChosen] at hSome
            cases hSome
        | some keyData =>
            rw [ended_of_chosen hHeader hSelectable hChosen]
            cases hResult : jwt.fromJwk keyData >>= fun key =>
              jwt.decode token key (decodeArgs settings) with
            | ok claims =>
                refine iff_of_false (fun h => nomatch h) fun h => ?_
                exact ((h kid rfl).2 keyData hChosen).2 claims (decodes_iff.mpr hResult)
            | error error =>
                have hNot : ∀ claims, ¬ Decodes jwt settings token keyData claims := by
                  intro claims hDecodes
                  rw [decodes_iff.mp hDecodes] at hResult
                  cases hResult
                constructor
                · intro h
                  have hCaught := TokenError.answer_eq_iff.mp (Except.error.inj h)
                  rintro _ ⟨⟩
                  refine ⟨hSelectable, fun other hOther => ?_⟩
                  obtain rfl := Option.some.inj (hChosen.symm.trans hOther)
                  exact ⟨(caught_of_importable hJwt hResult).mp hCaught, hNot⟩
                · intro h
                  have hImportable := ((h kid rfl).2 keyData hChosen).1
                  exact congrArg _ (TokenError.answer_eq_iff.mpr
                    ((caught_of_importable hJwt hResult).mpr hImportable))
      · obtain ⟨message, hEnded⟩ := ended_of_not_selectable hHeader hSelectable
        rw [hEnded]
        exact iff_of_false (fun h => nomatch h) fun h => hSelectable (h kid rfl).1

theorem importable_of_decodes (h : Decodes jwt settings token keyData claims) :
    Importable jwt keyData := by
  obtain ⟨key, hKey, -⟩ := h
  intro message hType
  rw [hKey] at hType
  cases hType

end Verification

/-- Once it has a list, `verify_broker_token` returns the claims of a token that
the selected key verifies or raises the 401, exactly when the walk to that key
meets objects only and its import raises no `TypeError`. -/
theorem verified_or_refused_iff (jwt : PyJwt) (hJwt : Documented jwt) (settings : Settings)
    (entries : List Json) (token : PyStr) (w : World) :
    ((∃ claims, AcceptedUnderSelected jwt settings entries token claims ∧
        (verifyWithKeys jwt settings (.arr entries) token).Finishes w (.ok claims)) ∨
      (verifyWithKeys jwt settings (.arr entries) token).Finishes w (.error invalidToken)) ↔
      Usable jwt entries token := by
  constructor
  · rintro (⟨claims, -, hAccepted⟩ | hRefused) kid hHeader
    · obtain ⟨kid', keyData, hHeader', hSelectable, hChosen, hDecodes⟩ :=
        accepted_iff.mp (verifyWithKeys_finishes_iff.mp hAccepted).symm
      obtain rfl := Except.ok.inj (hHeader'.symm.trans hHeader)
      refine ⟨hSelectable, fun other hOther => ?_⟩
      obtain rfl := Option.some.inj (hChosen.symm.trans hOther)
      exact importable_of_decodes hDecodes
    · obtain ⟨hSelectable, hKeys⟩ :=
        (refused_iff hJwt).mp (verifyWithKeys_finishes_iff.mp hRefused).symm kid hHeader
      exact ⟨hSelectable, fun keyData hChosen => (hKeys keyData hChosen).1⟩
  · intro hUsable
    by_cases hAccepted : ∃ claims, (verdict jwt settings (.arr entries) token).ended = .ok claims
    · obtain ⟨claims, hEnded⟩ := hAccepted
      obtain ⟨kid, keyData, hHeader, hSelectable, hChosen, hDecodes⟩ := accepted_iff.mp hEnded
      have hSelect : selectJwk (.arr entries) kid = .ok (some keyData) := by
        rw [selectJwk_selectable hSelectable, hChosen]
      exact .inl ⟨claims, ⟨kid, keyData, hHeader, hSelect, hDecodes⟩,
        verifyWithKeys_finishes_iff.mpr hEnded.symm⟩
    · refine .inr (verifyWithKeys_finishes_iff.mpr ((refused_iff hJwt).mpr ?_).symm)
      intro kid hHeader
      obtain ⟨hSelectable, hImportable⟩ := hUsable kid hHeader
      refine ⟨hSelectable, fun keyData hChosen => ⟨hImportable keyData hChosen, ?_⟩⟩
      intro claims hDecodes
      exact hAccepted ⟨claims, accepted_iff.mpr
        ⟨kid, keyData, hHeader, hSelectable, hChosen, hDecodes⟩⟩

section Order

/-- The same claims, or the 401 in both cases. -/
def SameResult (first second : Except PyExc Claims) : Prop :=
  (∃ claims, first = .ok claims ∧ second = .ok claims) ∨
    (first = .error invalidToken ∧ second = .error invalidToken)

/-- Both lists can be walked up to their first entry with the kid, which is the
same in both, and is no mistyped key. -/
structure SameFirst (kid : PyStr) (entries entries' : List Json) : Prop where
  walkable : Walkable kid entries
  walkable' : Walkable kid entries'
  first : entries.find? (hasKid kid) = entries'.find? (hasKid kid)
  typed : ∀ keyData, entries.find? (hasKid kid) = some keyData → mistyped keyData = false

variable {kid : PyStr} {entries entries' : List Json}

variable {jwt : PyJwt} {settings : Settings} {token : PyStr} {claims : Claims}

theorem accepted_iff_of_kid (hHeader : jwt.getUnverifiedHeader token = .ok (some kid)) :
    (verdict jwt settings (.arr entries) token).ended = .ok claims ↔
      Walkable kid entries ∧ ∃ keyData, entries.find? (hasKid kid) = some keyData ∧
        Decodes jwt settings token keyData claims := by
  rw [accepted_iff]
  constructor
  · rintro ⟨kid', keyData, hKid, hSelectable, hChosen, hDecodes⟩
    obtain rfl := Except.ok.inj (hHeader.symm.trans hKid)
    exact ⟨hSelectable, keyData, hChosen, hDecodes⟩
  · rintro ⟨hWalkable, keyData, hFind, hDecodes⟩
    exact ⟨some kid, keyData, hHeader, hWalkable, hFind, hDecodes⟩

theorem refused_iff_of_kid (hJwt : Documented jwt)
    (hHeader : jwt.getUnverifiedHeader token = .ok (some kid)) :
    (verdict jwt settings (.arr entries) token).ended = .error invalidToken ↔
      Walkable kid entries ∧ ∀ keyData, entries.find? (hasKid kid) = some keyData →
        Importable jwt keyData ∧ ∀ claims, ¬ Decodes jwt settings token keyData claims := by
  rw [refused_iff hJwt]
  constructor
  · exact fun h => h (some kid) hHeader
  · intro h kid' hKid
    obtain rfl := Except.ok.inj (hHeader.symm.trans hKid)
    exact h

theorem importable_of_typed (hJwt : DocumentedTypes jwt) {keyData : Json}
    (h : mistyped keyData = false) : Importable jwt keyData := by
  intro message hType
  rw [hJwt.typed keyData message hType] at h
  cases h

/-- An answer that is the claims or the 401, by what the first entry with the
kid comes to. -/
theorem sameResult_of_sameFirst (hJwt : DocumentedTypes jwt)
    (hHeader : jwt.getUnverifiedHeader token = .ok (some kid))
    (h : SameFirst kid entries entries') :
    SameResult (verdict jwt settings (.arr entries) token).ended
      (verdict jwt settings (.arr entries') token).ended := by
  obtain ⟨hWalkable, hWalkable', hFirst, hTyped⟩ := h
  by_cases hDecodes : ∃ keyData claims, entries.find? (hasKid kid) = some keyData ∧
      Decodes jwt settings token keyData claims
  · obtain ⟨keyData, claims, hFind, hDecodes⟩ := hDecodes
    exact .inl ⟨claims, (accepted_iff_of_kid hHeader).mpr ⟨hWalkable, keyData, hFind, hDecodes⟩,
      (accepted_iff_of_kid hHeader).mpr ⟨hWalkable', keyData, hFirst ▸ hFind, hDecodes⟩⟩
  · have hRefused (keyData : Json) (hFind : entries.find? (hasKid kid) = some keyData) :
        Importable jwt keyData ∧ ∀ claims, ¬ Decodes jwt settings token keyData claims :=
      ⟨importable_of_typed hJwt (hTyped keyData hFind),
        fun claims h => hDecodes ⟨keyData, claims, hFind, h⟩⟩
    exact .inr ⟨(refused_iff_of_kid hJwt.toDocumented hHeader).mpr ⟨hWalkable, hRefused⟩,
      (refused_iff_of_kid hJwt.toDocumented hHeader).mpr
        ⟨hWalkable', fun keyData hFind => hRefused keyData (hFirst ▸ hFind)⟩⟩

section Table

open Classical in
/-- A PyJWT that knows which keys verify its tokens, all of this kid, and raises
what is documented for every other key. -/
noncomputable def tableJwt (kid : PyStr) (verifies : Json → Prop) : PyJwt where
  Key := Unit
  getUnverifiedHeader _ := .ok (some kid)
  fromJwk keyData :=
    if verifies keyData then .ok ()
    else if mistyped keyData then .error (.typeError (py "Expected string value"))
    else .error (.pyJwtError (py "Not an RSA key"))
  decode _ _ _ := .ok ⟨py "broker-user", none⟩
  decodeUnverified _ := .ok none

variable {verifies : Json → Prop}

theorem tableJwt_documented : DocumentedTypes (tableJwt kid verifies) where
  header _ _ h := by cases h
  token _ _ _ _ h := by cases h
  key keyData error h := by
    simp only [tableJwt] at h
    split at h
    · cases h
    · split at h
      · cases h
        exact .inr ⟨_, rfl⟩
      · cases h
        exact .inl trivial
  typed keyData message h := by
    simp only [tableJwt] at h
    split at h
    · cases h
    · split at h
      · assumption
      · cases h

theorem tableJwt_decodes {keyData : Json} :
    (∃ claims, Decodes (tableJwt kid verifies) settings token keyData claims) ↔
      verifies keyData := by
  constructor
  · rintro ⟨claims, key, hKey, -⟩
    simp only [tableJwt] at hKey
    split at hKey
    · assumption
    · split at hKey <;> cases hKey
  · intro h
    exact ⟨_, (), by simp [tableJwt, h], rfl⟩

theorem tableJwt_not_importable {keyData : Json} (hVerifies : ¬ verifies keyData)
    (hMistyped : mistyped keyData = true) : ¬ Importable (tableJwt kid verifies) keyData :=
  fun h => h (py "Expected string value") (by simp [tableJwt, hVerifies, hMistyped])

/-- Under a table, the same result means that both lists can be walked, and that
of both first entries with the kid or of none the table says that it verifies;
one that does not verify is no mistyped key. -/
theorem table_alike
    (h : SameResult (verdict (tableJwt kid verifies) settings (.arr entries) token).ended
      (verdict (tableJwt kid verifies) settings (.arr entries') token).ended) :
    Walkable kid entries ∧ Walkable kid entries' ∧
      ((∃ keyData, entries.find? (hasKid kid) = some keyData ∧ verifies keyData) ↔
        ∃ keyData, entries'.find? (hasKid kid) = some keyData ∧ verifies keyData) ∧
      ∀ keyData, entries.find? (hasKid kid) = some keyData → ¬ verifies keyData →
        mistyped keyData = false := by
  have hHeader : (tableJwt kid verifies).getUnverifiedHeader token = .ok (some kid) := rfl
  rcases h with ⟨claims, hFirst, hSecond⟩ | ⟨hFirst, hSecond⟩
  · obtain ⟨hWalkable, one, hOne, hDecodes⟩ := (accepted_iff_of_kid hHeader).mp hFirst
    obtain ⟨hWalkable', other, hOther, hDecodes'⟩ := (accepted_iff_of_kid hHeader).mp hSecond
    have hVerifies := tableJwt_decodes.mp ⟨claims, hDecodes⟩
    refine ⟨hWalkable, hWalkable', iff_of_true ⟨one, hOne, hVerifies⟩
      ⟨other, hOther, tableJwt_decodes.mp ⟨claims, hDecodes'⟩⟩, fun keyData hFind hNot => ?_⟩
    obtain rfl := Option.some.inj (hOne.symm.trans hFind)
    exact absurd hVerifies hNot
  · obtain ⟨hWalkable, hOne⟩ :=
      (refused_iff_of_kid tableJwt_documented.toDocumented hHeader).mp hFirst
    obtain ⟨hWalkable', hOther⟩ :=
      (refused_iff_of_kid tableJwt_documented.toDocumented hHeader).mp hSecond
    refine ⟨hWalkable, hWalkable', iff_of_false ?_ ?_, fun keyData hFind hNot => ?_⟩
    · rintro ⟨keyData, hFind, hVerifies⟩
      obtain ⟨claims, hDecodes⟩ := tableJwt_decodes.mpr hVerifies
      exact (hOne keyData hFind).2 claims hDecodes
    · rintro ⟨keyData, hFind, hVerifies⟩
      obtain ⟨claims, hDecodes⟩ := tableJwt_decodes.mpr hVerifies
      exact (hOther keyData hFind).2 claims hDecodes
    · by_contra hMistyped
      exact tableJwt_not_importable hNot (eq_true_of_ne_false hMistyped) (hOne keyData hFind).1

end Table

/-- Two lists give a token of the kid the same result, whatever PyJWT makes of
the token and of the keys, exactly when the walk to the first entry with the kid
meets objects only and ends at the same entry in both, which is no mistyped
key. -/
theorem same_result_iff (settings : Settings) (token kid : PyStr) (entries entries' : List Json) :
    (∀ jwt, DocumentedTypes jwt → jwt.getUnverifiedHeader token = .ok (some kid) →
      ∀ w w', ∃ result result',
        (verifyWithKeys jwt settings (.arr entries) token).Finishes w result ∧
        (verifyWithKeys jwt settings (.arr entries') token).Finishes w' result' ∧
        SameResult result result') ↔ SameFirst kid entries entries' := by
  constructor
  · intro h
    have hTable (verifies : Json → Prop) :
        SameResult (verdict (tableJwt kid verifies) settings (.arr entries) token).ended
          (verdict (tableJwt kid verifies) settings (.arr entries') token).ended := by
      let w : World := ⟨fun _ => none, 0, [], [], fun _ => none⟩
      obtain ⟨_, _, hFirst, hSecond, hSame⟩ := h (tableJwt kid verifies) tableJwt_documented rfl w w
      obtain rfl := verifyWithKeys_finishes_iff.mp hFirst
      obtain rfl := verifyWithKeys_finishes_iff.mp hSecond
      exact hSame
    obtain ⟨hWalkable, hWalkable', -, hTyped⟩ := table_alike (hTable fun _ => False)
    -- a key that only the first entry of one list verifies is the first of the other
    have hFirst (keyData : Json) : entries.find? (hasKid kid) = some keyData ↔
        entries'.find? (hasKid kid) = some keyData := by
      obtain ⟨-, -, hBoth, -⟩ := table_alike (hTable fun other => other = keyData)
      simpa using hBoth
    exact ⟨hWalkable, hWalkable', Option.ext hFirst, fun keyData hFind => hTyped keyData hFind id⟩
  · intro h jwt hJwt hHeader w w'
    exact ⟨_, _, verifyWithKeys_finishes_iff.mpr rfl, verifyWithKeys_finishes_iff.mpr rfl,
      sameResult_of_sameFirst hJwt hHeader h⟩

end Order

section Cases

theorem brokerJwt_documented : DocumentedTypes brokerJwt where
  header token error h := by
    simp only [brokerJwt] at h
    split at h
    · cases h
    · cases h
      trivial
  key keyData error h := by
    simp only [brokerJwt] at h
    unfold fromRsaJwk at h
    split at h
    · split at h
      · split at h
        · cases h
        · cases h
          exact .inr ⟨_, rfl⟩
        · cases h
          exact .inl trivial
      · cases h
        exact .inl trivial
    · cases h
      exact .inl trivial
  token token key args error h := by
    simp only [brokerJwt] at h
    split at h
    · cases h
      trivial
    · split at h
      · cases h
      · cases h
        trivial
  typed keyData message h := by
    simp only [brokerJwt] at h
    unfold fromRsaJwk at h
    split at h
    · split at h
      next hRsa =>
        split at h
        · cases h
        next n e hTexts hN hE =>
          -- one of the two is there and is no text
          simp only [mistyped, hRsa, Bool.true_and, rsaFields, List.any_cons, hN, hE]
          cases n with
          | str n =>
              cases e with
              | str e => exact absurd rfl (hTexts n e rfl)
              | _ => simp [isText]
          | _ => simp [isText]
        · cases h
      · cases h
    · cases h

theorem broker_decodes :
    Decodes brokerJwt {} brokerToken brokerKey ⟨py "broker-user", some (py "jti-1")⟩ :=
  ⟨(brokerModulus, brokerExponent), rfl, rfl⟩

def groundWorld : World := ⟨fun _ => none, 0, [], [], fun _ => none⟩

theorem one_key_verifies :
    (∃ claims, AcceptedUnderSelected brokerJwt {} [brokerKey] brokerToken claims ∧
        (verifyWithKeys brokerJwt {} (.arr [brokerKey]) brokerToken).Finishes groundWorld
          (.ok claims)) ∨
      (verifyWithKeys brokerJwt {} (.arr [brokerKey]) brokerToken).Finishes groundWorld
        (.error invalidToken) := by
  refine (verified_or_refused_iff brokerJwt brokerJwt_documented.toDocumented {} _ _ _).mpr ?_
  intro kid hHeader
  obtain rfl : some (py "k1") = kid := Except.ok.inj hHeader
  refine ⟨walkable_of_objects ?_, ?_⟩
  · simp [brokerKey]
  · intro keyData hChosen
    obtain rfl := Option.some.inj hChosen
    exact importable_of_decodes broker_decodes

/-- A list with a number in front: the token is signed with its only key, and
an `AttributeError` escapes. -/
theorem number_escapes :
    ¬ ((∃ claims, AcceptedUnderSelected brokerJwt {} [.num 5, brokerKey] brokerToken claims ∧
        (verifyWithKeys brokerJwt {} (.arr [.num 5, brokerKey]) brokerToken).Finishes groundWorld
          (.ok claims)) ∨
      (verifyWithKeys brokerJwt {} (.arr [.num 5, brokerKey]) brokerToken).Finishes groundWorld
        (.error invalidToken)) := by
  have hNot : ¬ Selectable [.num 5, brokerKey] (some (py "k1")) := by
    intro hWalkable
    obtain ⟨fields, hObject⟩ := hWalkable (.num 5) List.mem_cons_self
    cases hObject
  have hHeader : brokerJwt.getUnverifiedHeader brokerToken = .ok (some (py "k1")) := rfl
  obtain ⟨message, hEnded⟩ : ∃ message,
      (verdict brokerJwt {} (.arr [.num 5, brokerKey]) brokerToken).ended =
        .error (.attributeError message) := ended_of_not_selectable hHeader hNot
  rintro (⟨claims, -, hAccepted⟩ | hRefused)
  · have hOutcome := verifyWithKeys_finishes_iff.mp hAccepted
    rw [hEnded] at hOutcome
    cases hOutcome
  · have hOutcome := verifyWithKeys_finishes_iff.mp hRefused
    rw [hEnded] at hOutcome
    cases hOutcome

/-- An RSA and an elliptic-curve key share the kid: the token is accepted or
refused as one or the other comes first. -/
theorem order_decides :
    (∀ entry, entry ∈ [brokerKey, curveKey] ↔ entry ∈ [curveKey, brokerKey]) ∧
      ¬ ∃ result result',
        (verifyWithKeys brokerJwt {} (.arr [brokerKey, curveKey]) brokerToken).Finishes
          groundWorld result ∧
        (verifyWithKeys brokerJwt {} (.arr [curveKey, brokerKey]) brokerToken).Finishes
          groundWorld result' ∧
        SameResult result result' := by
  refine ⟨fun entry => by simp [or_comm], ?_⟩
  rintro ⟨result, result', hFirst, hSecond, hSame⟩
  have hAccepted : result = .ok ⟨py "broker-user", some (py "jti-1")⟩ :=
    verifyWithKeys_finishes_iff.mp hFirst
  have hRefused : result' = .error invalidToken := verifyWithKeys_finishes_iff.mp hSecond
  rw [hAccepted, hRefused] at hSame
  rcases hSame with ⟨claims, -, hSame⟩ | ⟨hSame, -⟩
  · cases hSame
  · cases hSame

end Cases

end Krb5TokenService.Identity
