import Krb5TokenService.Minting.Harmless

/-! What the minting operations leave alone: the limiter, the clock, the audit
lines already written and the length of every bytearray. -/
namespace Krb5TokenService.Minting

open Python

/-- All but the files, the contents of the buffers and lines that are no audit
lines is as it was; new buffers may be there. -/
structure MintFrame (w w' : World) : Prop where
  limiter : w'.limiter = w.limiter
  now : w'.now = w.now
  audits : audits w'.log = audits w.log
  buffers : ∀ buf < w.heap.length, buf < w'.heap.length ∧
    (w'.heap.getD buf []).length = (w.heap.getD buf []).length

theorem MintFrame.rfl {w : World} : MintFrame w w :=
  ⟨by rfl, by rfl, by rfl, fun _ hBuf => ⟨hBuf, by rfl⟩⟩

theorem MintFrame.trans {w₁ w₂ w₃ : World} (h : MintFrame w₁ w₂) (h' : MintFrame w₂ w₃) :
    MintFrame w₁ w₃ where
  limiter := h'.limiter.trans h.limiter
  now := h'.now.trans h.now
  audits := h'.audits.trans h.audits
  buffers buf hBuf := by
    obtain ⟨hIn, hLength⟩ := h.buffers buf hBuf
    obtain ⟨hIn', hLength'⟩ := h'.buffers buf hIn
    exact ⟨hIn', hLength'.trans hLength⟩

instance : IsPreorder World MintFrame where
  refl _ := .rfl
  trans _ _ _ := .trans

/-- An allocation adds a buffer behind the others, and an update keeps the
length of the one it changes. -/
theorem mintFrame_harmless : Harmless MintFrame where
  refl _ := .rfl
  files _ _ := ⟨rfl, rfl, rfl, fun _ hBuf => ⟨hBuf, rfl⟩⟩
  line _ _ _ _ := ⟨rfl, rfl, by simp, fun _ hBuf => ⟨hBuf, rfl⟩⟩
  alloc w contents := by
    refine ⟨rfl, rfl, rfl, fun buf hBuf => ?_⟩
    have hOld : (w.heap ++ [contents]).getD buf [] = w.heap.getD buf [] := by
      simp [List.getD, List.getElem?_append_left hBuf]
    exact ⟨by simp; omega, congrArg List.length hOld⟩
  update w buf bytes hLength := by
    refine ⟨rfl, rfl, rfl, fun other hOther => ⟨by simpa using hOther, ?_⟩⟩
    by_cases hSame : buf = other
    · subst hSame
      simp [List.getD, hOther] at hLength ⊢
      exact hLength
    · simp [List.getD, List.getElem?_set_ne hSame]

end Krb5TokenService.Minting
