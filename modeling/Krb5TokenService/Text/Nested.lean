/-! Values nested to any depth in lists and dicts, and what stands in them
under chosen keys. -/
namespace Nested

inductive Value (Key Leaf : Type) where
  | leaf (value : Leaf)
  | list (items : List (Value Key Leaf))
  | dict (fields : List (Key × Value Key Leaf))

variable {Key Leaf : Type}

section Chosen

variable (chosen : Key → Bool)

mutual

/-- Replace what stands under a chosen key, at any depth. -/
def Value.replace (f : Value Key Leaf → Value Key Leaf) : Value Key Leaf → Value Key Leaf
  | .leaf value => .leaf value
  | .list items => .list (replaceItems f items)
  | .dict fields => .dict (replaceFields f fields)

def replaceItems (f : Value Key Leaf → Value Key Leaf) :
    List (Value Key Leaf) → List (Value Key Leaf)
  | [] => []
  | value :: items => value.replace f :: replaceItems f items

def replaceFields (f : Value Key Leaf → Value Key Leaf) :
    List (Key × Value Key Leaf) → List (Key × Value Key Leaf)
  | [] => []
  | field :: fields => replaceField f field :: replaceFields f fields

def replaceField (f : Value Key Leaf → Value Key Leaf) :
    Key × Value Key Leaf → Key × Value Key Leaf
  | (key, value) => (key, if chosen key then f value else value.replace f)

end

mutual

/-- No key at any depth is chosen. -/
def Value.clear : Value Key Leaf → Bool
  | .leaf _ => true
  | .list items => clearItems items
  | .dict fields => clearFields fields

def clearItems : List (Value Key Leaf) → Bool
  | [] => true
  | value :: items => value.clear && clearItems items

def clearFields : List (Key × Value Key Leaf) → Bool
  | [] => true
  | field :: fields => clearField field && clearFields fields

def clearField : Key × Value Key Leaf → Bool
  | (key, value) => !chosen key && value.clear

end

end Chosen

section Laws

variable {chosen : Key → Bool} {f g : Value Key Leaf → Value Key Leaf}

mutual

/-- Of two replacements in a row only the second has to be made, at what the
first left. -/
theorem Value.replace_replace (value : Value Key Leaf) :
    (value.replace chosen g).replace chosen f = value.replace chosen (f ∘ g) := by
  cases value with
  | leaf value => rfl
  | list items => simp only [Value.replace, replaceItems_replaceItems items]
  | dict fields => simp only [Value.replace, replaceFields_replaceFields fields]

theorem replaceItems_replaceItems (items : List (Value Key Leaf)) :
    replaceItems chosen f (replaceItems chosen g items) = replaceItems chosen (f ∘ g) items := by
  cases items with
  | nil => rfl
  | cons value items =>
      simp only [replaceItems, value.replace_replace, replaceItems_replaceItems items]

theorem replaceFields_replaceFields (fields : List (Key × Value Key Leaf)) :
    replaceFields chosen f (replaceFields chosen g fields) =
      replaceFields chosen (f ∘ g) fields := by
  cases fields with
  | nil => rfl
  | cons field fields =>
      simp only [replaceFields, replaceField_replaceField field,
        replaceFields_replaceFields fields]

theorem replaceField_replaceField (field : Key × Value Key Leaf) :
    replaceField chosen f (replaceField chosen g field) = replaceField chosen (f ∘ g) field := by
  cases field with
  | mk key value =>
      cases hKey : chosen key with
      | false => simp [replaceField, hKey, value.replace_replace]
      | true => simp [replaceField, hKey]

end

mutual

/-- A value without a chosen key is left alone. -/
theorem Value.replace_of_clear (value : Value Key Leaf) (h : value.clear chosen = true) :
    value.replace chosen f = value := by
  cases value with
  | leaf value => rfl
  | list items => rw [Value.replace, replaceItems_of_clear items h]
  | dict fields => rw [Value.replace, replaceFields_of_clear fields h]

theorem replaceItems_of_clear (items : List (Value Key Leaf))
    (h : clearItems chosen items = true) : replaceItems chosen f items = items := by
  cases items with
  | nil => rfl
  | cons value items =>
      simp only [clearItems, Bool.and_eq_true] at h
      rw [replaceItems, value.replace_of_clear h.1, replaceItems_of_clear items h.2]

theorem replaceFields_of_clear (fields : List (Key × Value Key Leaf))
    (h : clearFields chosen fields = true) : replaceFields chosen f fields = fields := by
  cases fields with
  | nil => rfl
  | cons field fields =>
      simp only [clearFields, Bool.and_eq_true] at h
      rw [replaceFields, replaceField_of_clear field h.1, replaceFields_of_clear fields h.2]

theorem replaceField_of_clear (field : Key × Value Key Leaf)
    (h : clearField chosen field = true) : replaceField chosen f field = field := by
  cases field with
  | mk key value =>
      simp only [clearField, Bool.and_eq_true, Bool.not_eq_true'] at h
      rw [replaceField, h.1, value.replace_of_clear h.2]
      rfl

end

mutual

/-- A replacement keeps the keys. -/
theorem Value.clear_replace (value : Value Key Leaf) :
    (value.replace chosen f).clear chosen = value.clear chosen := by
  cases value with
  | leaf value => rfl
  | list items => simp only [Value.replace, Value.clear, clearItems_replace items]
  | dict fields => simp only [Value.replace, Value.clear, clearFields_replace fields]

theorem clearItems_replace (items : List (Value Key Leaf)) :
    clearItems chosen (replaceItems chosen f items) = clearItems chosen items := by
  cases items with
  | nil => rfl
  | cons value items =>
      simp only [replaceItems, clearItems, value.clear_replace, clearItems_replace items]

theorem clearFields_replace (fields : List (Key × Value Key Leaf)) :
    clearFields chosen (replaceFields chosen f fields) = clearFields chosen fields := by
  cases fields with
  | nil => rfl
  | cons field fields =>
      simp only [replaceFields, clearFields, clearField_replace field, clearFields_replace fields]

theorem clearField_replace (field : Key × Value Key Leaf) :
    clearField chosen (replaceField chosen f field) = clearField chosen field := by
  cases field with
  | mk key value =>
      cases hKey : chosen key with
      | false => simp [replaceField, clearField, hKey, value.clear_replace]
      | true => simp [replaceField, clearField, hKey]

end

mutual

/-- A replacement that changes whatever it replaces leaves only a value without
a chosen key as it is. -/
theorem Value.clear_of_replace_eq (hChanges : ∀ value, f value ≠ value)
    (value : Value Key Leaf) (h : value.replace chosen f = value) : value.clear chosen = true := by
  cases value with
  | leaf value => rfl
  | list items => exact clearItems_of_replace_eq hChanges items (Value.list.inj h)
  | dict fields => exact clearFields_of_replace_eq hChanges fields (Value.dict.inj h)

theorem clearItems_of_replace_eq (hChanges : ∀ value, f value ≠ value)
    (items : List (Value Key Leaf)) (h : replaceItems chosen f items = items) :
    clearItems chosen items = true := by
  cases items with
  | nil => rfl
  | cons value items =>
      obtain ⟨hValue, hItems⟩ := List.cons.inj h
      rw [clearItems, value.clear_of_replace_eq hChanges hValue,
        clearItems_of_replace_eq hChanges items hItems]
      rfl

theorem clearFields_of_replace_eq (hChanges : ∀ value, f value ≠ value)
    (fields : List (Key × Value Key Leaf)) (h : replaceFields chosen f fields = fields) :
    clearFields chosen fields = true := by
  cases fields with
  | nil => rfl
  | cons field fields =>
      obtain ⟨hField, hFields⟩ := List.cons.inj h
      rw [clearFields, clearField_of_replace_eq hChanges field hField,
        clearFields_of_replace_eq hChanges fields hFields]
      rfl

theorem clearField_of_replace_eq (hChanges : ∀ value, f value ≠ value)
    (field : Key × Value Key Leaf) (h : replaceField chosen f field = field) :
    clearField chosen field = true := by
  cases field with
  | mk key value =>
      have hValue := congrArg Prod.snd h
      cases hKey : chosen key with
      | false =>
          simp only [replaceField, hKey, Bool.false_eq_true, if_false] at hValue
          simp [clearField, hKey, value.clear_of_replace_eq hChanges hValue]
      | true =>
          simp only [replaceField, hKey, if_true] at hValue
          exact absurd hValue (hChanges value)

end

/-- Two values that agree outside the chosen keys are equal if one has none. -/
theorem Value.eq_of_replace_eq {value other : Value Key Leaf} (hClear : value.clear chosen = true)
    (h : value.replace chosen f = other.replace chosen f) : value = other := by
  have hOther : other.clear chosen = true := by
    rw [← other.clear_replace, ← h, value.clear_replace, hClear]
  rw [← value.replace_of_clear hClear, h, other.replace_of_clear hOther]

end Laws

end Nested
