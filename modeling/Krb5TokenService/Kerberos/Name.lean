import Mathlib.Data.List.Basic

/-! Kerberos principal names as text: components with a separator between them,
and a realm after another separator. -/
namespace Kerberos

variable {Char : Type}

/-- What a name is written with. `escaped` is what a character stands for after
the escape. -/
structure Separators (Char : Type) where
  component : Char
  realm : Char
  escape : Char
  escaped : Char → Char

/-- A name has a first component, if only an empty one. -/
structure Name (Char : Type) where
  first : List Char
  others : List (List Char)
  realm : Option (List Char)
deriving DecidableEq

def Name.prepend (text : List Char) (name : Name Char) : Name Char :=
  { name with first := text ++ name.first }

variable [DecidableEq Char] (s : Separators Char)

/-- The realm, up to the end. The flag says that the last character was the
escape. -/
def parseRealm : Bool → List Char → Option (List Char)
  | false, [] => some []
  | true, [] => none
  | true, c :: rest => (parseRealm false rest).map (s.escaped c :: ·)
  | false, c :: rest =>
      if c = s.escape then parseRealm true rest
      else if c = s.component ∨ c = s.realm then none
      else (parseRealm false rest).map (c :: ·)

def parseName : Bool → List Char → Option (Name Char)
  | false, [] => some ⟨[], [], none⟩
  | true, [] => none
  | true, c :: rest => (parseName false rest).map (.prepend [s.escaped c])
  | false, c :: rest =>
      if c = s.escape then parseName true rest
      else if c = s.component then
        (parseName false rest).map fun name => ⟨[], name.first :: name.others, name.realm⟩
      else if c = s.realm then (parseRealm s false rest).map fun realm => ⟨[], [], some realm⟩
      else (parseName false rest).map (.prepend [c])

/-- A text with nothing in it that a name is written with. -/
def Plain (text : List Char) : Prop := s.component ∉ text ∧ s.realm ∉ text ∧ s.escape ∉ text

variable {s} {c : Char} {text rest : List Char}

omit [DecidableEq Char] in
theorem plain_cons :
    Plain s (c :: text) ↔ (s.component ≠ c ∧ s.realm ≠ c ∧ s.escape ≠ c) ∧ Plain s text := by
  simp only [Plain, List.mem_cons, not_or]
  tauto

theorem parseRealm_plain (h : Plain s text) : parseRealm s false text = some text := by
  induction text with
  | nil => rfl
  | cons c text ih =>
      obtain ⟨⟨hComponent, hRealm, hEscape⟩, hRest⟩ := plain_cons.mp h
      simp [parseRealm, hComponent.symm, hRealm.symm, hEscape.symm, ih hRest]

theorem parseName_plain_append (h : Plain s text) :
    parseName s false (text ++ rest) = (parseName s false rest).map (.prepend text) := by
  induction text with
  | nil => exact Option.map_id'.symm
  | cons c text ih =>
      obtain ⟨⟨hComponent, hRealm, hEscape⟩, hRest⟩ := plain_cons.mp h
      rw [List.cons_append, parseName, if_neg hEscape.symm, if_neg hComponent.symm,
        if_neg hRealm.symm, ih hRest, Option.map_map]
      rfl

/-- One plain component is read back as it was written, with whatever realm the
rest is read as. -/
theorem parseName_component {realm : List Char} (hSeparators : s.realm ≠ s.component)
    (hEscape : s.realm ≠ s.escape) (hText : Plain s text) :
    parseName s false (text ++ s.realm :: realm) =
      (parseRealm s false realm).map fun realm => ⟨text, [], some realm⟩ := by
  rw [parseName_plain_append hText, parseName, if_neg hEscape, if_neg hSeparators, if_pos rfl,
    Option.map_map]
  simp [Name.prepend, Function.comp_def]

end Kerberos
