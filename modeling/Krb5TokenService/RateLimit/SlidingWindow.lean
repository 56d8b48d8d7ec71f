import Mathlib.Algebra.Order.Group.Defs
import Mathlib.Tactic.Common
import Mathlib.Algebra.Order.Group.Unbundled.Basic

/-! Lists of event times seen through a window that ends at the present.
Pruning a list is destructive, but it never loses a time that a later window
of at most the same width still covers. -/
namespace SlidingWindow

variable {T : Type*} [AddCommGroup T] [LinearOrder T]
    {width narrow now later : T} {times : List T}

/-- The times that lie in `(now - width, now]`, if none lies in the future. -/
def recent (width now : T) (times : List T) : List T :=
  times.filter fun t => decide (now - t < width)

@[simp] theorem recent_nil : recent width now ([] : List T) = [] := rfl

@[simp] theorem recent_append (first second : List T) :
    recent width now (first ++ second) = recent width now first ++ recent width now second :=
  List.filter_append ..

@[simp] theorem mem_recent {t : T} : t ∈ recent width now times ↔ t ∈ times ∧ now - t < width := by
  simp [recent]

theorem recent_singleton_self (hWidth : 0 < width) : recent width now [now] = [now] := by
  simp [recent, hWidth]

theorem recent_length_le : (recent width now times).length ≤ times.length :=
  List.length_filter_le ..

theorem recent_eq_nil (h : ∀ t ∈ times, width ≤ now - t) : recent width now times = [] := by
  simp only [recent, List.filter_eq_nil_iff, decide_eq_true_eq, not_lt]
  exact h

variable [IsOrderedAddMonoid T]

/-- A window that moves on and does not widen never needs a pruned time. -/
theorem recent_recent (hWidth : narrow ≤ width) (hNow : now ≤ later) :
    recent narrow later (recent width now times) = recent narrow later times := by
  simp only [recent, List.filter_filter]
  congr 1
  funext t
  simp only [Bool.and_eq_decide, decide_eq_decide, decide_eq_true_eq, and_iff_left_iff_imp]
  intro h
  exact lt_of_le_of_lt (sub_le_sub_right hNow t) (lt_of_lt_of_le h hWidth)

theorem recent_length_mono (hWidth : narrow ≤ width) (hNow : now ≤ later) :
    (recent narrow later times).length ≤ (recent width now times).length := by
  rw [← recent_recent hWidth hNow]
  exact recent_length_le

/-- Counting with the window's two ends named, when nothing lies in the
future. -/
theorem recent_length_eq_countP (h : ∀ t ∈ times, t ≤ now) :
    (recent width now times).length =
      times.countP fun t => decide (now - width < t ∧ t ≤ now) := by
  rw [recent, ← List.countP_eq_length_filter]
  apply List.countP_congr
  intro t hMem
  have hLe := h t hMem
  simp only [decide_eq_true_eq, hLe, and_true]
  exact sub_lt_comm

end SlidingWindow
