import Mathlib.Order.Defs.PartialOrder
import Mathlib.Data.List.Basic

/-! Requests for one value of which at most one is under way. What has arrived
was asked for in the order in which it arrived. -/
namespace EventLoop

/-- When the requests under way were sent, and the answers with the times their
requests were sent, newest first. -/
structure Flights (Time Value : Type) where
  now : Time
  flying : List Time
  landed : List (Time × Value)

namespace Flights

variable {Time Value : Type} [Preorder Time]

inductive Step (f : Flights Time Value) : Flights Time Value → Prop
  | wait {now : Time} (hNow : f.now ≤ now) : Step f ⟨now, f.flying, f.landed⟩
  | depart (hFree : f.flying = []) : Step f ⟨f.now, [f.now], f.landed⟩
  | land {sent : Time} (hFlying : f.flying = [sent]) (value : Value) :
      Step f ⟨f.now, [], (sent, value) :: f.landed⟩
  | fail {sent : Time} (hFlying : f.flying = [sent]) : Step f ⟨f.now, [], f.landed⟩

structure Orderly (f : Flights Time Value) : Prop where
  single : f.flying.length ≤ 1
  sentBefore : ∀ sent ∈ f.flying, sent ≤ f.now ∧ ∀ arrival ∈ f.landed, arrival.1 ≤ sent
  landedBefore : ∀ arrival ∈ f.landed, arrival.1 ≤ f.now
  ordered : f.landed.Pairwise fun newer older => older.1 ≤ newer.1

variable {f f' : Flights Time Value}

theorem orderly_grounded (now : Time) : Orderly (⟨now, [], []⟩ : Flights Time Value) :=
  ⟨Nat.zero_le 1, fun _ h => absurd h List.not_mem_nil, fun _ h => absurd h List.not_mem_nil, .nil⟩

theorem Orderly.step (h : Orderly f) (hStep : Step f f') : Orderly f' := by
  cases hStep with
  | wait hNow =>
      refine ⟨h.single, ?_, ?_, h.ordered⟩
      · intro sent hSent
        have hBefore := h.sentBefore sent hSent
        exact ⟨le_trans hBefore.1 hNow, hBefore.2⟩
      · intro arrival hArrival
        exact le_trans (h.landedBefore arrival hArrival) hNow
  | depart hFree =>
      refine ⟨Nat.le_refl 1, ?_, h.landedBefore, h.ordered⟩
      intro sent hSent
      rw [List.mem_singleton.mp hSent]
      exact ⟨le_rfl, h.landedBefore⟩
  | @land sent hFlying value =>
      have hBefore := h.sentBefore sent (by rw [hFlying]; exact List.mem_singleton_self sent)
      refine ⟨Nat.zero_le 1, fun _ hNone => absurd hNone List.not_mem_nil, ?_, ?_⟩
      · intro arrival hArrival
        rcases List.mem_cons.mp hArrival with hNew | hOld
        · rw [hNew]
          exact hBefore.1
        · exact h.landedBefore arrival hOld
      · exact List.pairwise_cons.mpr ⟨hBefore.2, h.ordered⟩
  | fail hFlying =>
      exact ⟨Nat.zero_le 1, fun _ hNone => absurd hNone List.not_mem_nil, h.landedBefore,
        h.ordered⟩

end Flights

end EventLoop
