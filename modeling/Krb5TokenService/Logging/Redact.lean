import Krb5TokenService.Python.Text
import Krb5TokenService.Text.Nested
import Mathlib.Data.List.Nodup

/-! The processor chain of `logging.py`: what `SensitiveValueRedactProcessor`
keeps out of the emitted record, and what it does not look at. -/
namespace Krb5TokenService.Logging

open Python Nested

/-- A value that is neither a list nor a dict: a string or another object. -/
inductive Atom (Object : Type) where
  | str (text : PyStr)
  | object (value : Object)

abbrev LogValue (Object : Type) := Value PyStr (Atom Object)

/-- A structlog event dict, in insertion order. -/
structure EventDict (Object : Type) where
  fields : List (PyStr × LogValue Object)
  nodup : (fields.map Prod.fst).Nodup

namespace EventDict

variable {Object : Type}

def keys (event : EventDict Object) : List PyStr := event.fields.map Prod.fst

def get? (event : EventDict Object) (key : PyStr) : Option (LogValue Object) :=
  event.fields.lookup key

/-- Another value for every field, by its key and its value. -/
def mapValues (f : PyStr → LogValue Object → LogValue Object) (event : EventDict Object) :
    EventDict Object where
  fields := event.fields.map fun field => (field.1, f field.1 field.2)
  nodup := by simpa [Function.comp_def] using event.nodup

@[simp] theorem keys_mapValues (f : PyStr → LogValue Object → LogValue Object)
    (event : EventDict Object) : (event.mapValues f).keys = event.keys := by
  simp [keys, mapValues, Function.comp_def]

theorem get?_mapValues (f : PyStr → LogValue Object → LogValue Object)
    (event : EventDict Object) (key : PyStr) :
    (event.mapValues f).get? key = (event.get? key).map (f key) := by
  unfold get? mapValues
  simp only
  induction event.fields with
  | nil => rfl
  | cons field fields ih =>
      rw [List.map_cons, List.lookup_cons, List.lookup_cons]
      by_cases hKey : key = field.1
      · simp [hKey]
      · simp [beq_false_of_ne hKey, ih]

theorem lookup_none {fields : List (PyStr × LogValue Object)} {key : PyStr}
    (h : key ∉ fields.map Prod.fst) : fields.lookup key = none := by
  rw [List.lookup_eq_none_iff]
  intro field hMem
  have hKey : key ≠ field.1 := fun hSame => h (hSame ▸ List.mem_map_of_mem hMem)
  simp [hKey]

theorem fields_ext {fields other : List (PyStr × LogValue Object)}
    (hNodup : (fields.map Prod.fst).Nodup)
    (hKeys : fields.map Prod.fst = other.map Prod.fst)
    (hGet : ∀ key, fields.lookup key = other.lookup key) : fields = other := by
  induction fields generalizing other with
  | nil => exact (List.map_eq_nil_iff.mp hKeys.symm).symm
  | cons field fields ih =>
      cases other with
      | nil => cases hKeys
      | cons field' other =>
          obtain ⟨key, value⟩ := field
          obtain ⟨key', value'⟩ := field'
          simp only [List.map_cons, List.cons.injEq] at hKeys
          obtain ⟨rfl, hKeys⟩ := hKeys
          obtain ⟨hFresh, hNodup⟩ := List.nodup_cons.mp hNodup
          have hValue : value = value' := by simpa using hGet key
          have hRest : fields = other := by
            refine ih hNodup hKeys fun key' => ?_
            by_cases hSame : key' = key
            · subst hSame
              rw [lookup_none hFresh, lookup_none (hKeys ▸ hFresh)]
            · simpa [List.lookup_cons, beq_false_of_ne hSame] using hGet key'
          rw [hValue, hRest]

/-- A dict is its keys, in their order, and its lookups. -/
theorem ext_get? {event other : EventDict Object} (hKeys : event.keys = other.keys)
    (hGet : ∀ key, event.get? key = other.get? key) : event = other := by
  have hFields := fields_ext event.nodup hKeys hGet
  cases event
  cases other
  cases hFields
  rfl

theorem get?_none {event : EventDict Object} {key : PyStr} (h : key ∉ event.keys) :
    event.get? key = none := lookup_none h

/-- `event_dict[key] = value`, where the key is there. -/
def set (event : EventDict Object) (key : PyStr) (value : LogValue Object) : EventDict Object :=
  event.mapValues fun key' value' => if key' = key then value else value'

end EventDict

section Redaction

variable {Object : Type}

/-- `_REDACTED_KEYS`. -/
def redactedKeys : List PyStr :=
  [py "token", py "bearer", py "authorization", py "password", py "ccache", py "ccache_b64"]

/-- `_REDACTED_VALUE`. -/
def redactedValue : LogValue Object := .leaf (.str (py "[REDACTED]"))

/-- The loop body of `SensitiveValueRedactProcessor.__call__`. -/
def redactKey (event : EventDict Object) (key : PyStr) : EventDict Object :=
  if key ∈ event.keys then event.set key redactedValue else event

/-- `SensitiveValueRedactProcessor.__call__`. -/
def redact (event : EventDict Object) : EventDict Object := redactedKeys.foldl redactKey event

theorem keys_redactKey (event : EventDict Object) (key : PyStr) :
    (redactKey event key).keys = event.keys := by
  unfold redactKey
  split
  · exact EventDict.keys_mapValues ..
  · rfl

theorem get?_redactKey (event : EventDict Object) (key key' : PyStr) :
    (redactKey event key).get? key' =
      if key' = key then (event.get? key').map fun _ => redactedValue else event.get? key' := by
  unfold redactKey
  by_cases hThere : key ∈ event.keys
  · rw [if_pos hThere, EventDict.set, EventDict.get?_mapValues]
    by_cases hSame : key' = key
    · simp [hSame]
    · simp [hSame]
  · rw [if_neg hThere]
    by_cases hSame : key' = key
    · simp [hSame, EventDict.get?_none hThere]
    · simp [hSame]

theorem keys_redactKeys (keys : List PyStr) (event : EventDict Object) :
    (keys.foldl redactKey event).keys = event.keys := by
  induction keys generalizing event with
  | nil => rfl
  | cons key keys ih => rw [List.foldl_cons, ih, keys_redactKey]

theorem get?_redactKeys (keys : List PyStr) (event : EventDict Object) (key : PyStr) :
    (keys.foldl redactKey event).get? key =
      if key ∈ keys then (event.get? key).map fun _ => redactedValue else event.get? key := by
  induction keys generalizing event with
  | nil => simp
  | cons key' keys ih =>
      rw [List.foldl_cons, ih, get?_redactKey]
      by_cases hSame : key = key'
      · subst hSame
        by_cases hLater : key ∈ keys
        · simp [hLater, Function.comp_def]
        · simp [hLater]
      · simp [hSame]

@[simp] theorem keys_redact (event : EventDict Object) : (redact event).keys = event.keys :=
  keys_redactKeys redactedKeys event

theorem get?_redact (event : EventDict Object) (key : PyStr) :
    (redact event).get? key =
      if key ∈ redactedKeys then (event.get? key).map fun _ => redactedValue
      else event.get? key :=
  get?_redactKeys redactedKeys event key

end Redaction

end Krb5TokenService.Logging
