import Krb5TokenService.EventLoop.Loop

/-! One loop that does the work of two. Each of its waiting tasks is a waiting
task of the one, of the other, or of both, in whatever order they wait there;
a schedule of the two is put together from a schedule for every move. -/
namespace EventLoop

section Waiting

variable {α β γ : Type}

/-- `Is w left right` says which task of either side `w` is, if any. -/
inductive Split (Is : α → Option β → Option γ → Prop) : List α → List β → List γ → Prop
  | nil : Split Is [] [] []
  | cons {w : α} {left : Option β} {right : Option γ} {ws : List α} {ls ls' : List β}
      {rs rs' : List γ} (hIs : Is w left right) (hRest : Split Is ws ls rs)
      (hLeft : ls'.Perm (left.toList ++ ls)) (hRight : rs'.Perm (right.toList ++ rs)) :
      Split Is (w :: ws) ls' rs'

variable {Is : α → Option β → Option γ → Prop} {w : α} {ws : List α} {ls ls' : List β}
    {rs rs' : List γ}

/-- The order on either side is free. -/
theorem Split.perm (h : Split Is ws ls rs) (hLeft : ls'.Perm ls) (hRight : rs'.Perm rs) :
    Split Is ws ls' rs' := by
  cases h with
  | nil =>
      rw [hLeft.eq_nil, hRight.eq_nil]
      exact .nil
  | cons hIs hRest hLeft' hRight' =>
      exact .cons hIs hRest (hLeft.trans hLeft') (hRight.trans hRight')

theorem Split.append {left : Option β} {right : Option γ} (h : Split Is ws ls rs)
    (hIs : Is w left right) :
    Split Is (ws ++ [w]) (ls ++ left.toList) (rs ++ right.toList) := by
  induction h with
  | nil => exact .cons hIs .nil (by simp) (by simp)
  | cons hIs' hRest hLeft hRight ih =>
      refine .cons hIs' ih ?_ ?_
      · rw [← List.append_assoc]
        exact hLeft.append_right _
      · rw [← List.append_assoc]
        exact hRight.append_right _

/-- Taking one task out takes out what it is on either side. -/
theorem Split.take (h : Split Is ws ls rs) {index : Nat} (hIndex : ws[index]? = some w) :
    ∃ left right ls' rs', Is w left right ∧ Split Is (ws.eraseIdx index) ls' rs' ∧
      ls.Perm (left.toList ++ ls') ∧ rs.Perm (right.toList ++ rs') := by
  induction h generalizing index with
  | nil => cases hIndex
  | cons hIs hRest hLeft hRight ih =>
      cases index with
      | zero =>
          obtain rfl := Option.some.inj hIndex
          exact ⟨_, _, _, _, hIs, hRest, hLeft, hRight⟩
      | succ index =>
          obtain ⟨left, right, ls', rs', hHere, hOthers, hTakenLeft, hTakenRight⟩ := ih hIndex
          refine ⟨left, right, _, _, hHere, .cons hIs hOthers (.refl _) (.refl _), ?_, ?_⟩
          · exact (hLeft.trans (hTakenLeft.append_left _)).trans (List.perm_append_comm_assoc _ _ _)
          · exact (hRight.trans (hTakenRight.append_left _)).trans
              (List.perm_append_comm_assoc _ _ _)

/-- Whoever is first up to order has a place of its own. -/
theorem exists_index_of_perm {x : β} (h : ls.Perm (x :: ls')) :
    ∃ index, ls[index]? = some x ∧ (ls.eraseIdx index).Perm ls' := by
  obtain ⟨index, hIn, hHere⟩ := List.getElem_of_mem (h.mem_iff.mpr List.mem_cons_self)
  refine ⟨index, List.getElem?_eq_some_iff.mpr ⟨hIn, hHere⟩, ?_⟩
  have hTaken := List.getElem_cons_eraseIdx_perm hIn
  rw [hHere] at hTaken
  exact (hTaken.trans h).cons_inv

theorem Split.mem (h : Split Is ws ls rs) (hw : w ∈ ws) :
    ∃ left right, Is w left right ∧ (∀ x ∈ left, x ∈ ls) ∧ ∀ y ∈ right, y ∈ rs := by
  obtain ⟨index, hIn, hHere⟩ := List.getElem_of_mem hw
  obtain ⟨left, right, ls', rs', hIs, -, hLeft, hRight⟩ :=
    h.take (List.getElem?_eq_some_iff.mpr ⟨hIn, hHere⟩)
  refine ⟨left, right, hIs, fun x hx => hLeft.mem_iff.mpr ?_, fun y hy => hRight.mem_iff.mpr ?_⟩
  · exact List.mem_append_left _ (Option.mem_toList.mpr hx)
  · exact List.mem_append_left _ (Option.mem_toList.mpr hy)

/-- Tasks counted on one loop and on the left. -/
theorem Split.countP_left (h : Split Is ws ls rs) {p : α → Bool} {q : β → Bool}
    (hSame : ∀ w left right, Is w left right → (if p w then 1 else 0) = left.toList.countP q) :
    ws.countP p = ls.countP q := by
  induction h with
  | nil => rfl
  | cons hIs hRest hLeft hRight ih =>
      rw [List.countP_cons, ih, hLeft.countP_eq, List.countP_append, ← hSame _ _ _ hIs,
        Nat.add_comm]

/-- What is collected from the tasks of one loop and from those on the right. -/
theorem Split.filterMap_right (h : Split Is ws ls rs) {δ : Type} {f : α → Option δ}
    {g : γ → Option δ}
    (hSame : ∀ w left right, Is w left right → (f w).toList = right.toList.filterMap g) :
    (ws.filterMap f).Perm (rs.filterMap g) := by
  induction h with
  | nil => exact .refl _
  | @cons w left right ws ls ls' rs rs' hIs hRest hLeft hRight ih =>
      have hHere : (w :: ws).filterMap f = (f w).toList ++ ws.filterMap f := by
        rw [List.filterMap_cons]
        cases f w <;> rfl
      rw [hHere, hSame _ _ _ hIs]
      refine (ih.append_left _).trans ?_
      rw [← List.filterMap_append]
      exact (hRight.filterMap g).symm

end Waiting

end EventLoop
