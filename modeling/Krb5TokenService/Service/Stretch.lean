import Krb5TokenService.Service.Plan

/-! Rules for following a handler from one await to the next: which checks it
passes, how it is refused, and how it conducts itself around its child. -/
namespace Krb5TokenService.Service

open Python EventLoop EventLoop.Task Krb5TokenService.Action
open RateLimit Identity Minting

/-- What one stretch of a handler does to the shared state, as far as other
requests can tell: the limiter it leaves and the audit line it writes. -/
structure Leaves (limiter : LimiterState) (emitted : Option Outcome) (w w' : World) : Prop where
  limiter : w'.limiter = limiter
  now : w'.now = w.now
  audits : audits w'.log = audits w.log ++ emitted.toList

section Leaves

variable {limiter limiter' : LimiterState} {emitted : Option Outcome} {w w' w'' : World}

theorem Leaves.rfl : Leaves w.limiter none w w := ⟨by rfl, by rfl, by simp⟩

theorem Leaves.trans (h : Leaves limiter none w w') (h' : Leaves limiter' emitted w' w'') :
    Leaves limiter' emitted w w'' where
  limiter := h'.limiter
  now := h'.now.trans h.now
  audits := by rw [h'.audits, h.audits]; simp

theorem Leaves.of_frame (h : MintFrame w w') : Leaves w.limiter none w w' :=
  ⟨h.limiter, h.now, by simpa using h.audits⟩

end Leaves

section Rules

variable {α β : Type} {w w' : World} {limiter limiter' : LimiterState}

/-- A part of a handler that passes with a value `Accepts` describes, or
refuses the request. -/
def Gate (task : Action β) (w : World) (verdict : Except Refusal Unit) (Accepts : β → Prop)
    (limiter : LimiterState) : Prop :=
  match verdict with
  | .ok () => ∃ value w', task.advance w = (.finished (.ok value), w') ∧ Accepts value ∧
      Leaves limiter none w w'
  | .error refusal => ∃ exc w', task.advance w = (.finished (.error exc), w') ∧
      errorResponse exc = refusal.response ∧ Leaves limiter refusal.audited w w'

/-- A handler that runs to its end with this verdict. -/
def Ends (task : Action α) (w : World) (verdict : Except Refusal α) (limiter : LimiterState) :
    Prop :=
  ∃ result w', task.advance w = (.finished result, w') ∧ Agrees result verdict ∧
    Leaves limiter (audited verdict) w w'

/-- A handler that is refused on the way to its child, or starts the child
and then ends as `closing` and `settled` say. -/
def Conducts (task : Action α) (w : World) (opening : Except Refusal Unit)
    (limiter : LimiterState) (closing : ChildReply → Except Refusal α)
    (settled : ChildReply → World → LimiterState) : Prop :=
  match opening with
  | .error refusal => Ends task w (.error refusal) limiter
  | .ok () => ∃ spec next w', task.advance w = (.waiting (.child spec) next, w') ∧
      Leaves limiter none w w' ∧
      ∀ reply w₁, Ends (next reply) w₁ (closing reply) (settled reply w₁)

variable {closing : ChildReply → Except Refusal α} {settled : ChildReply → World → LimiterState}
    {opening verdict : Except Refusal Unit} {task : Action β} {f : β → Action α}
    {Accepts : β → Prop}

theorem Ends.of_bind {value : β} {result : Except Refusal α}
    (hFirst : task.advance w = (.finished (.ok value), w')) (hLeaves : Leaves limiter' none w w')
    (h : Ends (f value) w' result limiter) : Ends (task >>= f) w result limiter := by
  obtain ⟨outcome, w'', hAdvance, hAgrees, hRest⟩ := h
  exact ⟨outcome, w'', (advance_bind_ok hFirst).trans hAdvance, hAgrees, hLeaves.trans hRest⟩

theorem Conducts.of_bind {value : β} (hFirst : task.advance w = (.finished (.ok value), w'))
    (hLeaves : Leaves limiter' none w w')
    (h : Conducts (f value) w' opening limiter closing settled) :
    Conducts (task >>= f) w opening limiter closing settled := by
  cases opening with
  | error refusal => exact Ends.of_bind hFirst hLeaves h
  | ok _ =>
      obtain ⟨spec, next, w'', hAdvance, hRest, hClosing⟩ := h
      exact ⟨spec, next, w'', (advance_bind_ok hFirst).trans hAdvance, hLeaves.trans hRest,
        hClosing⟩

/-- A check in front of the rest of a handler. -/
theorem Conducts.gate (hGate : Gate task w verdict Accepts limiter')
    (hRefused : verdict ≠ .ok () → limiter' = limiter)
    (hRest : ∀ value w', verdict = .ok () → Accepts value → Leaves limiter' none w w' →
      Conducts (f value) w' opening limiter closing settled) :
    Conducts (task >>= f) w (do verdict; opening) limiter closing settled := by
  cases verdict with
  | ok _ =>
      obtain ⟨value, w', hAdvance, hAccepts, hLeaves⟩ := hGate
      exact .of_bind hAdvance hLeaves (hRest value w' rfl hAccepts hLeaves)
  | error refusal =>
      obtain ⟨exc, w', hAdvance, hResponse, hLeaves⟩ := hGate
      rw [← hRefused (by simp)]
      exact ⟨.error exc, w', advance_bind_error hAdvance, hResponse, hLeaves⟩

/-- Two checks in a row. -/
theorem Gate.bind {γ : Type} {task' : β → Action γ} {verdict' : Except Refusal Unit}
    {Accepts' : γ → Prop} (hGate : Gate task w verdict Accepts limiter')
    (hRefused : verdict ≠ .ok () → limiter' = limiter)
    (hRest : ∀ value w', verdict = .ok () → Accepts value → Leaves limiter' none w w' →
      Gate (task' value) w' verdict' Accepts' limiter) :
    Gate (task >>= task') w (do verdict; verdict') Accepts' limiter := by
  cases verdict with
  | ok _ =>
      obtain ⟨value, w', hAdvance, hAccepts, hLeaves⟩ := hGate
      have hNext := hRest value w' rfl hAccepts hLeaves
      change Gate (task >>= task') w verdict' Accepts' limiter
      cases verdict' with
      | ok _ =>
          obtain ⟨value', w'', hAdvance', hAccepts', hLeaves'⟩ := hNext
          exact ⟨value', w'', (advance_bind_ok hAdvance).trans hAdvance', hAccepts',
            hLeaves.trans hLeaves'⟩
      | error refusal =>
          obtain ⟨exc, w'', hAdvance', hResponse, hLeaves'⟩ := hNext
          exact ⟨exc, w'', (advance_bind_ok hAdvance).trans hAdvance', hResponse,
            hLeaves.trans hLeaves'⟩
  | error refusal =>
      obtain ⟨exc, w', hAdvance, hResponse, hLeaves⟩ := hGate
      rw [← hRefused (by simp)]
      exact ⟨exc, w', advance_bind_error hAdvance, hResponse, hLeaves⟩

end Rules

end Krb5TokenService.Service
