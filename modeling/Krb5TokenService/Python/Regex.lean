import Mathlib.Data.List.Basic

/-! A fragment of Python's `re`: character classes, counted repetition of a
class, optional groups, sequence, alternation and the two anchors. A pattern
denotes every end position that backtracking can reach, so a full match
exists exactly when one of them is the end of the text. -/
namespace Python

inductive Regex (Char : Type) : Type where
  | start
  | finish
  | char (member : Char → Bool)
  | repeat (member : Char → Bool) (least : Nat) (most : Option Nat)
  | optional (body : Regex Char)
  | seq (first second : Regex Char)
  | alt (left right : Regex Char)

namespace Regex

variable {Char : Type}

/-- A position in a text: whether it is the start, and what follows. -/
structure Position (Char : Type) where
  atStart : Bool
  rest : List Char

/-- What may be left after a run of members of a class, longest run last. -/
def afterRun (member : Char → Bool) : List Char → List (List Char)
  | [] => [[]]
  | c :: rest => (c :: rest) :: if member c then afterRun member rest else []

/-- Every position at which a match that begins here can end. The newline
test is a parameter, since `$` also matches before a final newline. -/
def ends (isNewline : Char → Bool) : Regex Char → Position Char → List (Position Char)
  | .start, p => if p.atStart then [p] else []
  | .finish, p =>
      match p.rest with
      | [] => [p]
      | [c] => if isNewline c then [p] else []
      | _ => []
  | .char member, p =>
      match p.rest with
      | [] => []
      | c :: rest => if member c then [⟨false, rest⟩] else []
  | .repeat member least most, p =>
      let runs := (afterRun member p.rest).zipIdx.drop least
      let allowed := match most with
        | none => runs
        | some bound => runs.take (bound + 1 - least)
      allowed.map fun run => ⟨p.atStart && run.2 == 0, run.1⟩
  | .optional body, p => body.ends isNewline p ++ [p]
  | .seq first second, p => (first.ends isNewline p).flatMap (second.ends isNewline)
  | .alt left right, p => left.ends isNewline p ++ right.ends isNewline p

/-- `re.fullmatch`. -/
def fullmatch (isNewline : Char → Bool) (r : Regex Char) (text : List Char) : Bool :=
  (r.ends isNewline ⟨true, text⟩).any fun p => p.rest.isEmpty

section Ends

variable {isNewline : Char → Bool} {member : Char → Bool} {p q : Position Char}

theorem mem_ends_seq {first second : Regex Char} :
    q ∈ (seq first second).ends isNewline p ↔
      ∃ middle ∈ first.ends isNewline p, q ∈ second.ends isNewline middle := by
  simp [ends]

theorem mem_ends_char (h : q ∈ (char member).ends isNewline p) :
    ∃ c, member c = true ∧ p.rest = c :: q.rest := by
  unfold ends at h
  split at h
  · simp at h
  · split at h
    · obtain rfl := List.mem_singleton.mp h
      exact ⟨_, ‹_›, ‹_›⟩
    · simp at h

theorem mem_afterRun {text rest : List Char} (h : rest ∈ afterRun member text) :
    ∃ run, text = run ++ rest ∧ ∀ c ∈ run, member c = true := by
  induction text with
  | nil =>
      obtain rfl := List.mem_singleton.mp h
      exact ⟨[], rfl, by simp⟩
  | cons c text ih =>
      rcases List.mem_cons.mp h with rfl | hLater
      · exact ⟨[], rfl, by simp⟩
      · by_cases hMember : member c = true
        · rw [if_pos hMember] at hLater
          obtain ⟨run, rfl, hRun⟩ := ih hLater
          exact ⟨c :: run, rfl, by simpa [hMember] using hRun⟩
        · simp [hMember] at hLater

theorem mem_ends_repeat {least : Nat} {most : Option Nat}
    (h : q ∈ (Regex.repeat member least most).ends isNewline p) :
    ∃ run, p.rest = run ++ q.rest ∧ ∀ c ∈ run, member c = true := by
  simp only [ends, List.mem_map] at h
  obtain ⟨⟨rest, i⟩, hRun, rfl⟩ := h
  have hMem : (rest, i) ∈ (afterRun member p.rest).zipIdx := by
    cases most with
    | none => exact List.mem_of_mem_drop hRun
    | some bound => exact List.mem_of_mem_drop (List.mem_of_mem_take hRun)
  exact mem_afterRun (List.fst_mem_of_mem_zipIdx hMem)

theorem mem_ends_finish (h : q ∈ finish.ends isNewline p) : q = p := by
  unfold ends at h
  split at h
  · exact List.mem_singleton.mp h
  · split at h
    · exact List.mem_singleton.mp h
    · simp at h
  · simp at h

theorem mem_ends_start (h : q ∈ start.ends isNewline p) : q = p := by
  unfold ends at h
  split at h
  · exact List.mem_singleton.mp h
  · simp at h

end Ends

end Regex

end Python
