import Mathlib.Data.List.Infix

/-! Searches for a marker in a template whose holes are filled: literal
segments with one and the same filler between any two. A filler that begins
and ends with a delimiter outside the marker, and lacks an element of the
marker in between, never takes part in an occurrence. -/
namespace Template

variable {α : Type} {marker : List α}

/-- No occurrence goes across an element that is not in the marker. -/
theorem infix_append_cons_iff {d : α} (hDelimiter : d ∉ marker) {first rest : List α} :
    marker <:+: first ++ d :: rest ↔ marker <:+: first ∨ marker <:+: rest := by
  constructor
  · intro h
    rcases List.infix_append_iff_ne_nil.mp h with
      hFirst | hRest | ⟨before, after, -, hAfter, rfl, -, hPrefix⟩
    · exact .inl hFirst
    · rcases List.infix_cons_iff.mp hRest with hPrefix | hLater
      · rcases List.prefix_cons_iff.mp hPrefix with rfl | ⟨tail, rfl, -⟩
        · exact .inl List.nil_infix
        · exact absurd List.mem_cons_self hDelimiter
      · exact .inr hLater
    · rcases List.prefix_cons_iff.mp hPrefix with rfl | ⟨tail, rfl, -⟩
      · exact absurd rfl hAfter
      · exact absurd (List.mem_append_right _ List.mem_cons_self) hDelimiter
  · rintro (hFirst | hRest)
    · exact hFirst.trans (List.prefix_append _ _).isInfix
    · exact hRest.trans ((List.suffix_cons d rest).trans (List.suffix_append _ _)).isInfix

/-- A delimited filler splits the text around it. -/
theorem infix_filler_iff {d c : α} {body : List α} (hDelimiter : d ∉ marker) (hMem : c ∈ marker)
    (hBody : c ∉ body) {first rest : List α} :
    marker <:+: first ++ (d :: body ++ [d]) ++ rest ↔ marker <:+: first ∨ marker <:+: rest := by
  have hNotBody : ¬ marker <:+: body := fun h => hBody (h.subset hMem)
  have hText : first ++ (d :: body ++ [d]) ++ rest = first ++ d :: (body ++ d :: rest) := by simp
  rw [hText, infix_append_cons_iff hDelimiter, infix_append_cons_iff hDelimiter]
  simp [hNotBody]

/-- The markers in a filled template are those of its literal segments. -/
theorem infix_intercalate_iff {d c : α} {body : List α} (hDelimiter : d ∉ marker)
    (hMem : c ∈ marker) (hBody : c ∉ body) (segments : List (List α)) :
    marker <:+: (d :: body ++ [d]).intercalate segments ↔
      ∃ segment ∈ segments, marker <:+: segment := by
  induction segments with
  | nil =>
      have hNonempty : marker ≠ [] := List.ne_nil_of_mem hMem
      simp [hNonempty]
  | cons segment segments ih =>
      cases segments with
      | nil => simp
      | cons next segments =>
          rw [List.intercalate_cons_cons, infix_filler_iff hDelimiter hMem hBody, ih]
          simp

/-- Dropping leading elements keeps every occurrence of a marker that begins
with an element not dropped. -/
theorem infix_dropWhile_iff {drop : α → Bool} {m : α} {tail : List α} (hFirst : drop m = false)
    (text : List α) : m :: tail <:+: text.dropWhile drop ↔ m :: tail <:+: text := by
  induction text with
  | nil => rfl
  | cons c text ih =>
      cases hDrop : drop c with
      | false => rw [List.dropWhile_cons_of_neg (by simp [hDrop])]
      | true =>
          have hDiffers : ¬ m = c := fun hSame => by simp [hSame, hDrop] at hFirst
          rw [List.dropWhile_cons_of_pos hDrop, ih, List.infix_cons_iff, List.cons_prefix_cons]
          simp [hDiffers]

/-- The same for elements dropped at both ends. -/
theorem infix_trim_iff {drop : α → Bool} (hFirst : ∃ m tail, marker = m :: tail ∧ drop m = false)
    (hLast : ∃ front m, marker = front ++ [m] ∧ drop m = false) (text : List α) :
    marker <:+: ((text.dropWhile drop).reverse.dropWhile drop).reverse ↔ marker <:+: text := by
  obtain ⟨m, tail, hMarker, hKept⟩ := hFirst
  obtain ⟨front, last, hReverse, hLastKept⟩ := hLast
  have hReversed : marker.reverse = last :: front.reverse := by simp [hReverse]
  rw [← List.reverse_infix, List.reverse_reverse, hReversed, infix_dropWhile_iff hLastKept,
    ← hReversed, List.reverse_infix, hMarker, infix_dropWhile_iff hKept]

end Template
