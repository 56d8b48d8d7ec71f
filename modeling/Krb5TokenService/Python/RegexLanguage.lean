import Krb5TokenService.Python.Regex
import Mathlib.Data.List.Basic

/-! The texts that a pattern matches, and that backtracking finds exactly
these. Inside a pattern there is no anchor; `$` may close it. -/
namespace Python.Regex

variable {Char : Type}

/-- The texts that a pattern takes up. An anchor takes up nothing. -/
def Reads : Regex Char → List Char → Prop
  | .start, run | .finish, run => run = []
  | .char member, run => ∃ c, member c = true ∧ run = [c]
  | .repeat member least most, run =>
      (∀ c ∈ run, member c = true) ∧ least ≤ run.length ∧ ∀ bound ∈ most, run.length ≤ bound
  | .optional body, run => body.Reads run ∨ run = []
  | .seq first second, run => ∃ left right, run = left ++ right ∧ first.Reads left ∧
      second.Reads right
  | .alt left right, run => left.Reads run ∨ right.Reads run

def anchorFree : Regex Char → Bool
  | .start | .finish => false
  | .char _ | .repeat _ _ _ => true
  | .optional body => body.anchorFree
  | .seq first second | .alt first second => first.anchorFree && second.anchorFree

/-- No anchor, except for `$` at the very end. -/
def closed : Regex Char → Bool
  | .finish => true
  | .seq first second => first.anchorFree && second.closed
  | r => r.anchorFree

section Runs

variable {isNewline member : Char → Bool} {p q : Position Char}

/-- The entry `n` of the runs is what is left after `n` members. -/
theorem getElem?_afterRun {text rest : List Char} {n : Nat} :
    (afterRun member text)[n]? = some rest ↔
      ∃ run, text = run ++ rest ∧ (∀ c ∈ run, member c = true) ∧ run.length = n := by
  induction text generalizing n with
  | nil =>
      constructor
      · intro h
        cases n with
        | zero => exact ⟨[], by simpa [afterRun] using h, by simp, rfl⟩
        | succ n => simp [afterRun] at h
      · rintro ⟨run, hText, -, rfl⟩
        obtain ⟨rfl, rfl⟩ := List.append_eq_nil_iff.mp hText.symm
        rfl
  | cons c text ih =>
      cases n with
      | zero =>
          constructor
          · intro h
            exact ⟨[], by simpa [afterRun] using h, by simp, rfl⟩
          · rintro ⟨run, hText, -, hLength⟩
            obtain rfl := List.length_eq_zero_iff.mp hLength
            simpa [afterRun] using hText
      | succ n =>
          by_cases hMember : member c = true
          · rw [afterRun, if_pos hMember, List.getElem?_cons_succ, ih]
            constructor
            · rintro ⟨run, rfl, hRun, rfl⟩
              exact ⟨c :: run, rfl, by simpa [hMember] using hRun, rfl⟩
            · rintro ⟨run, hText, hRun, hLength⟩
              cases run with
              | nil => simp at hLength
              | cons d run =>
                  obtain ⟨rfl, rfl⟩ := List.cons.inj hText
                  exact ⟨run, rfl, fun c hMem => hRun c (List.mem_cons_of_mem _ hMem),
                    by simpa using hLength⟩
          · rw [afterRun, if_neg hMember]
            constructor
            · intro h
              simp at h
            · rintro ⟨run, hText, hRun, hLength⟩
              cases run with
              | nil => simp at hLength
              | cons d run =>
                  obtain ⟨rfl, -⟩ := List.cons.inj hText
                  exact absurd (hRun _ List.mem_cons_self) hMember

/-- What is left after a run whose length is within the bounds. -/
theorem mem_runs_iff {text rest : List Char} {least : Nat} {most : Option Nat} {n : Nat} :
    (rest, n) ∈ (match most with
        | none => (afterRun member text).zipIdx.drop least
        | some bound => ((afterRun member text).zipIdx.drop least).take (bound + 1 - least)) ↔
      (afterRun member text)[n]? = some rest ∧ least ≤ n ∧ ∀ bound ∈ most, n ≤ bound := by
  have hEntry (i : Nat) : (afterRun member text).zipIdx[i]? = some (rest, n) ↔
      i = n ∧ (afterRun member text)[n]? = some rest := by
    simp only [List.getElem?_zipIdx, Option.map_eq_some_iff, Prod.mk.injEq, Nat.zero_add]
    grind
  cases most with
  | none =>
      simp only [List.mem_iff_getElem?, List.getElem?_drop, hEntry]
      constructor
      · rintro ⟨i, rfl, hRest⟩
        exact ⟨hRest, Nat.le_add_right _ _, by simp⟩
      · rintro ⟨hRest, hLeast, -⟩
        exact ⟨n - least, by omega, hRest⟩
  | some bound =>
      simp only [List.mem_iff_getElem?, List.getElem?_take, List.getElem?_drop,
        Option.ite_none_right_eq_some, hEntry]
      constructor
      · rintro ⟨i, hTake, rfl, hRest⟩
        refine ⟨hRest, Nat.le_add_right _ _, fun bound' hBound => ?_⟩
        obtain rfl := Option.some.inj hBound
        omega
      · rintro ⟨hRest, hLeast, hMost⟩
        have hBound := hMost bound rfl
        exact ⟨n - least, by omega, by omega, hRest⟩

theorem mem_ends_repeat_iff {least : Nat} {most : Option Nat} :
    q ∈ (Regex.repeat member least most).ends isNewline p ↔
      ∃ run, p.rest = run ++ q.rest ∧ (Regex.repeat member least most).Reads run ∧
        q.atStart = (p.atStart && run.isEmpty) := by
  simp only [ends, List.mem_map]
  constructor
  · rintro ⟨⟨rest, n⟩, hMem, rfl⟩
    obtain ⟨hRest, hLeast, hMost⟩ := mem_runs_iff.mp hMem
    obtain ⟨run, hText, hMembers, rfl⟩ := getElem?_afterRun.mp hRest
    refine ⟨run, hText, ⟨hMembers, hLeast, hMost⟩, ?_⟩
    cases run <;> rfl
  · rintro ⟨run, hText, ⟨hMembers, hLeast, hMost⟩, hStart⟩
    have hRest := getElem?_afterRun.mpr ⟨run, hText, hMembers, rfl⟩
    refine ⟨(q.rest, run.length), mem_runs_iff.mpr ⟨hRest, hLeast, hMost⟩, ?_⟩
    obtain ⟨atStart, rest⟩ := q
    cases hStart
    cases run <;> rfl

theorem mem_ends_char_iff :
    q ∈ (char member).ends isNewline p ↔
      ∃ c, member c = true ∧ p.rest = c :: q.rest ∧ q.atStart = false := by
  constructor
  · intro h
    obtain ⟨c, hMember, hText⟩ := mem_ends_char h
    refine ⟨c, hMember, hText, ?_⟩
    simp only [ends, hText, hMember, if_true, List.mem_singleton] at h
    rw [h]
  · rintro ⟨c, hMember, hText, hStart⟩
    obtain ⟨atStart, rest⟩ := q
    cases hStart
    simp [ends, hText, hMember]

end Runs

section Language

variable {isNewline : Char → Bool} {r : Regex Char}

/-- Backtracking inside a pattern stops after exactly the texts it reads. -/
theorem mem_ends_iff (hFree : r.anchorFree = true) {p q : Position Char} :
    q ∈ r.ends isNewline p ↔
      ∃ run, p.rest = run ++ q.rest ∧ r.Reads run ∧ q.atStart = (p.atStart && run.isEmpty) := by
  induction r generalizing p q with
  | start => cases hFree
  | finish => cases hFree
  | char member =>
      rw [mem_ends_char_iff]
      constructor
      · rintro ⟨c, hMember, hText, hStart⟩
        exact ⟨[c], hText, ⟨c, hMember, rfl⟩, by simpa using hStart⟩
      · rintro ⟨_, hText, ⟨c, hMember, rfl⟩, hStart⟩
        exact ⟨c, hMember, hText, by simpa using hStart⟩
  | «repeat» member least most => exact mem_ends_repeat_iff
  | optional body ih =>
      simp only [ends, List.mem_append, List.mem_singleton, ih hFree, Reads]
      constructor
      · rintro (⟨run, hText, hRun, hStart⟩ | rfl)
        · exact ⟨run, hText, .inl hRun, hStart⟩
        · exact ⟨[], rfl, .inr rfl, by simp⟩
      · rintro ⟨run, hText, hRun | rfl, hStart⟩
        · exact .inl ⟨run, hText, hRun, hStart⟩
        · refine .inr ?_
          obtain ⟨atStart, rest⟩ := q
          obtain ⟨atStart', text⟩ := p
          simp only [List.nil_append, List.isEmpty_nil, Bool.and_true] at hText hStart
          rw [hText, hStart]
  | seq first second ihFirst ihSecond =>
      simp only [anchorFree, Bool.and_eq_true] at hFree
      rw [mem_ends_seq]
      simp only [ihFirst hFree.1, ihSecond hFree.2]
      constructor
      · rintro ⟨middle, ⟨left, hLeft, hFirst, hStart⟩, right, hRight, hSecond, hStart'⟩
        refine ⟨left ++ right, by rw [hLeft, hRight, List.append_assoc],
          ⟨left, right, rfl, hFirst, hSecond⟩, ?_⟩
        rw [hStart', hStart]
        cases left <;> simp
      · rintro ⟨run, hText, ⟨left, right, rfl, hFirst, hSecond⟩, hStart⟩
        refine ⟨⟨p.atStart && left.isEmpty, right ++ q.rest⟩,
          ⟨left, by rw [hText, List.append_assoc], hFirst, rfl⟩, right, rfl, hSecond, ?_⟩
        rw [hStart]
        cases left <;> simp
  | alt left right ihLeft ihRight =>
      simp only [anchorFree, Bool.and_eq_true] at hFree
      simp only [ends, List.mem_append, ihLeft hFree.1, ihRight hFree.2, Reads]
      grind

theorem ends_free_iff (hFree : r.anchorFree = true) {p : Position Char} :
    (∃ q ∈ r.ends isNewline p, q.rest = []) ↔ r.Reads p.rest := by
  constructor
  · rintro ⟨q, hEnds, hRest⟩
    obtain ⟨run, hText, hRun, -⟩ := (mem_ends_iff hFree).mp hEnds
    rwa [hText, hRest, List.append_nil]
  · intro hReads
    exact ⟨⟨p.atStart && p.rest.isEmpty, []⟩,
      (mem_ends_iff hFree).mpr ⟨p.rest, by simp, hReads, rfl⟩, rfl⟩

/-- A pattern that `$` may close matches to the end exactly what it reads: the
end is then no newline. -/
theorem ends_closed_iff (hClosed : r.closed = true) {p : Position Char} :
    (∃ q ∈ r.ends isNewline p, q.rest = []) ↔ r.Reads p.rest := by
  induction r generalizing p with
  | finish =>
      constructor
      · rintro ⟨q, hEnds, hRest⟩
        rwa [mem_ends_finish hEnds] at hRest
      · intro hRest
        have hRest : p.rest = [] := hRest
        exact ⟨p, by simp [ends, hRest], hRest⟩
  | seq first second ihFirst ihSecond =>
      simp only [closed, Bool.and_eq_true] at hClosed
      simp only [mem_ends_seq]
      constructor
      · rintro ⟨q, ⟨middle, hFirst, hSecond⟩, hRest⟩
        obtain ⟨left, hText, hLeft, -⟩ := (mem_ends_iff hClosed.1).mp hFirst
        exact ⟨left, middle.rest, hText, hLeft, (ihSecond hClosed.2).mp ⟨q, hSecond, hRest⟩⟩
      · rintro ⟨left, right, hText, hLeft, hRight⟩
        have hFirst : ⟨p.atStart && left.isEmpty, right⟩ ∈ first.ends isNewline p :=
          (mem_ends_iff hClosed.1).mpr ⟨left, hText, hLeft, rfl⟩
        obtain ⟨q, hSecond, hRest⟩ :=
          (ihSecond hClosed.2 (p := ⟨p.atStart && left.isEmpty, right⟩)).mpr hRight
        exact ⟨q, ⟨_, hFirst, hSecond⟩, hRest⟩
  | _ => exact ends_free_iff hClosed

/-- `re.fullmatch` with a pattern between `^` and `$`. -/
theorem fullmatch_start_iff (hClosed : r.closed = true) (text : List Char) :
    (seq start r).fullmatch isNewline text = true ↔ r.Reads text := by
  have hEnds : (∃ q ∈ r.ends isNewline ⟨true, text⟩, q.rest = []) ↔ r.Reads text :=
    ends_closed_iff hClosed
  rw [← hEnds]
  simp [fullmatch, ends]

theorem fullmatch_alt_iff {left right : Regex Char} (text : List Char) :
    (alt left right).fullmatch isNewline text = true ↔
      left.fullmatch isNewline text = true ∨ right.fullmatch isNewline text = true := by
  simp [fullmatch, ends]

end Language

end Python.Regex
