import Krb5TokenService.Logging.Redact

/-! What a log line may show of the secrets in its event: the record that the
processor chain of `configure_logging` hands to its `JSONRenderer`. The chain
redacts six keys at the top level, and nothing else. -/
namespace Krb5TokenService.Logging

open Python Nested

variable {Object : Type}

/-- The names of the service's secrets. -/
def secretKeys : List PyStr :=
  [py "password", py "keytab", py "keytab_b64", py "ccache", py "ccache_b64", py "token",
    py "bearer", py "authorization"]

def isSecret (key : PyStr) : Bool := decide (key ∈ secretKeys)

namespace EventDict

/-- Replace what stands under the name of a secret, at any depth. -/
def replaceSecrets (f : LogValue Object → LogValue Object) (event : EventDict Object) :
    EventDict Object :=
  event.mapValues fun key value =>
    if isSecret key then f value else value.replace isSecret f

/-- Two events that differ only in values under the name of a secret. -/
def SameButSecrets (event other : EventDict Object) : Prop :=
  event.replaceSecrets (fun _ => redactedValue) = other.replaceSecrets fun _ => redactedValue

/-- Every secret of the event stands under a redacted key at the top level. -/
def Covered (event : EventDict Object) : Prop :=
  ∀ key value, event.get? key = some value →
    key ∈ redactedKeys ∨ isSecret key = false ∧ value.clear isSecret = true

theorem get?_replaceSecrets (f : LogValue Object → LogValue Object) (event : EventDict Object)
    (key : PyStr) :
    (event.replaceSecrets f).get? key = (event.get? key).map fun value =>
      if isSecret key then f value else value.replace isSecret f :=
  get?_mapValues ..

end EventDict

/-- The part of structlog in the chain: its processors before the redaction
and after it, up to the renderer, with the keys that they read and write. -/
structure Structlog (Object : Type) where
  own : List PyStr
  before : EventDict Object → EventDict Object
  after : EventDict Object → EventDict Object

/-- The record that an event is emitted as. -/
def Structlog.record (log : Structlog Object) (event : EventDict Object) : EventDict Object :=
  log.after (redact (log.before event))

/-- A processor passes on every field that is not under one of these keys, and
decides by those that are. -/
structure KeepsTo (own : List PyStr) (processor : EventDict Object → EventDict Object) :
    Prop where
  others : ∀ event key, key ∉ own → (processor event).get? key = event.get? key
  blind : ∀ event other, event.keys = other.keys →
    (∀ key ∈ own, event.get? key = other.get? key) →
      (processor event).keys = (processor other).keys ∧
        ∀ key ∈ own, (processor event).get? key = (processor other).get? key

/-- structlog as documented: no processor keeps a secret's name for itself, and
each keeps to its own keys. -/
structure Structlog.Documented (log : Structlog Object) : Prop where
  apart : ∀ key ∈ log.own, isSecret key = false
  before : KeepsTo log.own log.before
  after : KeepsTo log.own log.after

/-- The record of an event does not depend on its secrets, and shows every
other field as it is. -/
structure Structlog.Discreet (log : Structlog Object) (event : EventDict Object) : Prop where
  hidden : ∀ other, event.SameButSecrets other → log.record event = log.record other
  shown : ∀ key, key ∉ log.own → isSecret key = false →
    (log.record event).get? key = event.get? key

section Emission

variable {log : Structlog Object} {event other : EventDict Object}

theorem isSecret_of_redacted {key : PyStr} (h : key ∈ redactedKeys) : isSecret key = true := by
  have hAll : redactedKeys.all isSecret = true := by decide
  exact List.all_eq_true.mp hAll key h

/-- Covered secrets are all that the redaction has to remove. -/
theorem redact_eq_of_covered (hCovered : event.Covered) (hSame : event.SameButSecrets other) :
    redact event = redact other := by
  have hKeys : event.keys = other.keys := by
    simpa [EventDict.replaceSecrets] using congrArg EventDict.keys hSame
  refine EventDict.ext_get? (by simpa using hKeys) fun key => ?_
  have hGet := congrArg (EventDict.get? · key) hSame
  simp only [EventDict.get?_replaceSecrets] at hGet
  rw [get?_redact, get?_redact]
  cases hValue : event.get? key with
  | none =>
      rw [hValue] at hGet
      rw [Option.map_eq_none_iff.mp hGet.symm]
  | some value =>
      rw [hValue, Option.map_some, eq_comm, Option.map_eq_some_iff] at hGet
      obtain ⟨value', hOther, hAgree⟩ := hGet
      rw [hOther]
      rcases hCovered key value hValue with hRedacted | ⟨hPublic, hClear⟩
      · simp [hRedacted]
      · simp only [hPublic, Bool.false_eq_true, if_false] at hAgree
        rw [Value.eq_of_replace_eq hClear hAgree.symm]

/-- Processors that keep to their own keys do not see what the redaction
removes. -/
theorem redact_before_congr (hDocumented : log.Documented) (hSame : redact event = redact other) :
    redact (log.before event) = redact (log.before other) := by
  have hPublic : ∀ key ∈ log.own, key ∉ redactedKeys := fun key hOwn hRedacted =>
    absurd (isSecret_of_redacted hRedacted) (by simp [hDocumented.apart key hOwn])
  have hGet (key : PyStr) := congrArg (EventDict.get? · key) hSame
  have hOwnGet : ∀ key ∈ log.own, event.get? key = other.get? key := fun key hOwn => by
    simpa [get?_redact, hPublic key hOwn] using hGet key
  have hKeys : event.keys = other.keys := by simpa using congrArg EventDict.keys hSame
  obtain ⟨hKeys', hOwnGet'⟩ := hDocumented.before.blind event other hKeys hOwnGet
  refine EventDict.ext_get? (by simpa using hKeys') fun key => ?_
  rw [get?_redact, get?_redact]
  by_cases hOwn : key ∈ log.own
  · rw [if_neg (hPublic key hOwn), if_neg (hPublic key hOwn), hOwnGet' key hOwn]
  · rw [hDocumented.before.others event key hOwn, hDocumented.before.others other key hOwn,
      ← get?_redact, ← get?_redact]
    exact hGet key

theorem record_congr (hDocumented : log.Documented) (hSame : redact event = redact other) :
    log.record event = log.record other := by
  rw [Structlog.record, Structlog.record, redact_before_congr hDocumented hSame]

theorem record_shown (hDocumented : log.Documented) {key : PyStr} (hOther : key ∉ log.own)
    (hKey : key ∉ redactedKeys) : (log.record event).get? key = event.get? key := by
  rw [Structlog.record, hDocumented.after.others _ _ hOther, get?_redact, if_neg hKey,
    hDocumented.before.others _ _ hOther]

/-- Another value in place of every secret. -/
def wrapped (value : LogValue Object) : LogValue Object := .list [value]

theorem wrapped_ne (value : LogValue Object) : wrapped value ≠ value := by
  intro h
  have hSize := congrArg sizeOf h
  simp only [wrapped, Value.list.sizeOf_spec, List.cons.sizeOf_spec, List.nil.sizeOf_spec] at hSize
  omega

theorem sameButSecrets_replace (f : LogValue Object → LogValue Object) :
    event.SameButSecrets (event.replaceSecrets f) := by
  refine EventDict.ext_get? (by simp [EventDict.replaceSecrets]) fun key => ?_
  simp only [EventDict.get?_replaceSecrets, Option.map_map]
  congr 1
  funext value
  cases isSecret key with
  | false => simp [value.replace_replace, Function.comp_def]
  | true => simp

theorem discreet_of_covered (hDocumented : log.Documented) (hCovered : event.Covered) :
    log.Discreet event where
  hidden other hSame := record_congr hDocumented (redact_eq_of_covered hCovered hSame)
  shown key hOwn hPublic := record_shown hDocumented hOwn fun hRedacted =>
    absurd (isSecret_of_redacted hRedacted) (by simp [hPublic])

/-- A secret that is not covered shows: wrapped in a list, it makes another
record. -/
theorem covered_of_discreet (hDocumented : log.Documented)
    (hOwnClear : ∀ key ∈ log.own, ∀ value, event.get? key = some value →
      value.clear isSecret = true)
    (h : log.Discreet event) : event.Covered := by
  intro key value hValue
  by_cases hRedacted : key ∈ redactedKeys
  · exact .inl hRedacted
  by_cases hOwn : key ∈ log.own
  · exact .inr ⟨hDocumented.apart key hOwn, hOwnClear key hOwn value hValue⟩
  have hRecord := h.hidden _ (sameButSecrets_replace wrapped)
  have hGet := congrArg (EventDict.get? · key) hRecord
  simp only [record_shown hDocumented hOwn hRedacted, EventDict.get?_replaceSecrets, hValue,
    Option.map_some, Option.some.injEq] at hGet
  cases hKey : isSecret key with
  | true =>
      rw [hKey, if_pos rfl] at hGet
      exact absurd hGet.symm (wrapped_ne value)
  | false =>
      rw [hKey, if_neg (by simp)] at hGet
      exact .inr ⟨rfl, value.clear_of_replace_eq wrapped_ne hGet.symm⟩

/-- The record of an event hides its secrets when each of them stands under a
redacted key at the top level, and, if structlog's own fields hold none, only
then. -/
theorem record_discreet_iff (log : Structlog Object) (hDocumented : log.Documented)
    (event : EventDict Object) :
    (event.Covered → log.Discreet event) ∧
    ((∀ key ∈ log.own, ∀ value, event.get? key = some value → value.clear isSecret = true) →
      log.Discreet event → event.Covered) :=
  ⟨discreet_of_covered hDocumented, covered_of_discreet hDocumented⟩

end Emission

section Cases

namespace EventDict

/-- `event_dict[key] = value`. -/
def put (key : PyStr) (value : LogValue Object) (event : EventDict Object) : EventDict Object :=
  if h : key ∈ event.keys then event.set key value
  else ⟨event.fields ++ [(key, value)], by
    rw [List.map_append, List.map_singleton, List.nodup_append_comm]
    exact List.nodup_cons.mpr ⟨h, event.nodup⟩⟩

theorem exists_get? {key : PyStr} {event : EventDict Object} (h : key ∈ event.keys) :
    ∃ value, event.get? key = some value := by
  obtain ⟨field, hMem, rfl⟩ := List.mem_map.mp h
  cases hGet : event.get? field.1 with
  | none => simpa using List.lookup_eq_none_iff.mp hGet field hMem
  | some value => exact ⟨value, rfl⟩

theorem get?_put (key key' : PyStr) (value : LogValue Object) (event : EventDict Object) :
    (event.put key value).get? key' = if key' = key then some value else event.get? key' := by
  unfold put
  split
  · next hThere =>
      obtain ⟨old, hOld⟩ := exists_get? hThere
      rw [set, get?_mapValues]
      by_cases hSame : key' = key
      · simp [hSame, hOld]
      · simp [hSame]
  · next hNew =>
      have hNone : event.fields.lookup key = none := get?_none hNew
      simp only [get?, List.lookup_append]
      by_cases hSame : key' = key
      · simp [hSame, hNone]
      · simp [hSame, List.lookup_cons, beq_false_of_ne hSame]

theorem keys_put (key : PyStr) (value : LogValue Object) (event : EventDict Object) :
    (event.put key value).keys = if key ∈ event.keys then event.keys else event.keys ++ [key] := by
  unfold put
  split
  · rw [set, keys_mapValues]
  · simp [keys]

end EventDict

/-- A processor that adds a field of its own. -/
theorem keepsTo_put {own : List PyStr} {key : PyStr} (hOwn : key ∈ own)
    (value : LogValue Object) : KeepsTo own (EventDict.put key value) where
  others event key' hOther := by
    have hNe : key' ≠ key := by
      rintro rfl
      exact hOther hOwn
    rw [EventDict.get?_put, if_neg hNe]
  blind event other hKeys hGet := by
    refine ⟨by rw [EventDict.keys_put, EventDict.keys_put, hKeys], fun key' hKey' => ?_⟩
    rw [EventDict.get?_put, EventDict.get?_put, hGet key' hKey']

theorem KeepsTo.comp {own : List PyStr} {first second : EventDict Object → EventDict Object}
    (hSecond : KeepsTo own second) (hFirst : KeepsTo own first) :
    KeepsTo own (second ∘ first) where
  others event key hOther := by
    rw [Function.comp_apply, hSecond.others _ key hOther, hFirst.others event key hOther]
  blind event other hKeys hGet := by
    obtain ⟨hKeys', hGet'⟩ := hFirst.blind event other hKeys hGet
    exact hSecond.blind _ _ hKeys' hGet'

theorem keepsTo_id (own : List PyStr) : KeepsTo own (id : EventDict Object → EventDict Object) :=
  ⟨fun _ _ _ => rfl, fun _ _ hKeys hGet => ⟨hKeys, hGet⟩⟩

def text (s : String) : LogValue Object := .leaf (.str (py s))

/-- The keys of the three fields that structlog adds. -/
def addedKeys : List PyStr := [py "logger", py "level", py "timestamp"]

/-- The chain on an event with no arguments, stack or exception in it: the
logger's name, the level and the time are added. -/
def sampleLog : Structlog Object where
  own := addedKeys
  before := EventDict.put (py "timestamp") (text "2026-01-01T00:00:00Z") ∘
    EventDict.put (py "level") (text "info") ∘
    EventDict.put (py "logger") (text "krb5_token_service.app")
  after := id

theorem sampleLog_documented : (sampleLog : Structlog Object).Documented where
  apart key hKey := by
    have hAll : addedKeys.all (!isSecret ·) = true := by decide
    simpa using List.all_eq_true.mp hAll key hKey
  before := (keepsTo_put (by simp [sampleLog, addedKeys]) _).comp
    ((keepsTo_put (by simp [sampleLog, addedKeys]) _).comp
      (keepsTo_put (by simp [sampleLog, addedKeys]) _))
  after := keepsTo_id _

/-- An event with one field besides its text. -/
def sampleEvent (key : String) (value : LogValue Unit) : EventDict Unit :=
  EventDict.put (py key) value (EventDict.put (py "event") (text "oops") ⟨[], List.nodup_nil⟩)

theorem sampleEvent_get? (key : String) (value : LogValue Unit) :
    (sampleEvent key value).get? (py key) = some value := by
  rw [sampleEvent, EventDict.get?_put, if_pos rfl]

/-- Events that differ only in one value, which holds nothing but secrets or
agrees outside them. -/
theorem sameButSecrets_put {key : PyStr} {value value' : LogValue Object}
    (event : EventDict Object)
    (h : isSecret key = true ∨ value.replace isSecret (fun _ => redactedValue) =
      value'.replace isSecret fun _ => redactedValue) :
    (event.put key value).SameButSecrets (event.put key value') := by
  refine EventDict.ext_get? ?_ fun key' => ?_
  · simp only [EventDict.replaceSecrets, EventDict.keys_mapValues, EventDict.keys_put]
  · rw [EventDict.get?_replaceSecrets, EventDict.get?_replaceSecrets, EventDict.get?_put,
      EventDict.get?_put]
    by_cases hSame : key' = key
    · subst hSame
      rcases h with hSecret | hAgree
      · simp [hSecret]
      · simp [hAgree]
    · simp [hSame]

theorem text_ne {s s' : String} (h : py s ≠ py s') : (text s : LogValue Object) ≠ text s' :=
  fun hSame => h (Atom.str.inj (Value.leaf.inj hSame))

/-- A field that structlog does not own and the redaction does not know. -/
theorem sampleLog_ne {key : String} {value value' : LogValue Unit} (hOwn : py key ∉ addedKeys)
    (hKey : py key ∉ redactedKeys) (hValues : value ≠ value') :
    sampleLog.record (sampleEvent key value) ≠ sampleLog.record (sampleEvent key value') := by
  intro hSame
  have hGet := congrArg (EventDict.get? · (py key)) hSame
  simp only [record_shown sampleLog_documented (show py key ∉ sampleLog.own from hOwn) hKey,
    sampleEvent_get?, Option.some.injEq] at hGet
  exact hValues hGet

/-- A keytab, and a password one level down, reach the record. -/
theorem secrets_emitted :
    ((sampleEvent "keytab_b64" (text "BQIA")).SameButSecrets
        (sampleEvent "keytab_b64" (text "BQIB")) ∧
      sampleLog.record (sampleEvent "keytab_b64" (text "BQIA")) ≠
        sampleLog.record (sampleEvent "keytab_b64" (text "BQIB"))) ∧
    (sampleEvent "body" (.dict [(py "password", text "secret")])).SameButSecrets
        (sampleEvent "body" (.dict [(py "password", text "hunter2")])) ∧
      sampleLog.record (sampleEvent "body" (.dict [(py "password", text "secret")])) ≠
        sampleLog.record (sampleEvent "body" (.dict [(py "password", text "hunter2")])) := by
  have hKeytab : isSecret (py "keytab_b64") = true := by decide
  have hPassword : isSecret (py "password") = true := by decide
  refine ⟨⟨sameButSecrets_put _ (.inl hKeytab), ?_⟩, sameButSecrets_put _ (.inr ?_), ?_⟩
  · exact sampleLog_ne (by decide) (by decide) (text_ne (by decide))
  · simp [Value.replace, replaceFields, replaceField, hPassword]
  · refine sampleLog_ne (by decide) (by decide) fun hSame => ?_
    have hField := (List.cons.inj (Value.dict.inj hSame)).1
    exact text_ne (by decide) (congrArg Prod.snd hField)

/-- A password at the top level does not reach the record. -/
theorem password_redacted : sampleLog.Discreet (sampleEvent "password" (text "secret")) := by
  refine (record_discreet_iff sampleLog sampleLog_documented _).1 fun key value hValue => ?_
  rw [sampleEvent, EventDict.get?_put, EventDict.get?_put] at hValue
  split at hValue
  · next hKey => exact .inl (hKey ▸ by decide)
  split at hValue
  · next hKey =>
      cases hValue
      exact .inr ⟨hKey ▸ by decide, rfl⟩
  · cases hValue

end Cases

end Krb5TokenService.Logging
