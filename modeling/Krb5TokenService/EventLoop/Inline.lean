import Krb5TokenService.EventLoop.Raises

/-! A task whose awaits are themselves computations. `inline` runs it on a part
of a larger state, with another task in the place of each await; that task has
a state of its own next to the first, and awaits what is really awaited. -/
namespace EventLoop

/-- A part of a state that can be read and replaced. -/
structure View (Whole Part : Type) where
  get : Whole → Part
  set : Whole → Part → Whole
  get_set : ∀ whole part, get (set whole part) = part
  set_get : ∀ whole, set whole (get whole) = whole
  set_set : ∀ whole first second, set (set whole first) second = set whole second

namespace Task

section Definitions

variable {State Error Query : Type} {Reply : Query → Type} {α β : Type}

/-- Go on with the value of a computation that cannot raise. -/
def andThen (f : α → Task State Error Query Reply β) :
    Task State Empty Query Reply α → Task State Error Query Reply β
  | .done (.ok a) => f a
  | .act update next => .act update fun s => (next s).andThen f
  | .await query next => .await query fun r => (next r).andThen f

/-- The way a task ends, whichever it is, as a value. -/
def attempt : Task State Error Query Reply α → Task State Empty Query Reply (Except Error α)
  | .done outcome => .done (.ok outcome)
  | .act update next => .act update fun s => (next s).attempt
  | .await query next => .await query fun r => (next r).attempt

variable {Whole Part Query' : Type} {Reply' : Query' → Type}

def inline (view : View Whole Part)
    (sub : (query : Query) → Task Whole Empty Query' Reply' (Reply query)) :
    Task Part Error Query Reply α → Task Whole Error Query' Reply' α
  | .done outcome => .done outcome
  | .act update next =>
      .act (fun w => view.set w (update (view.get w))) fun w => (next (view.get w)).inline view sub
  | .await query next => (sub query).andThen fun r => (next r).inline view sub

/-- The same task on a larger state, with its awaits under other names. -/
def lift (view : View Whole Part) (rename : Query → Query')
    (reply : (query : Query) → Reply' (rename query) → Reply query) :
    Task Part Error Query Reply α → Task Whole Error Query' Reply' α :=
  inline view fun query => .await (rename query) fun r => .done (.ok (reply query r))

end Definitions

section Sequencing

variable {State Error Query : Type} {Reply : Query → Type} {α β γ : Type}

theorem andThen_bind (sub : Task State Empty Query Reply α)
    (f : α → Task State Error Query Reply β) (g : β → Task State Error Query Reply γ) :
    sub.andThen f >>= g = sub.andThen fun a => f a >>= g := by
  change (sub.andThen f).bind g = _
  induction sub with
  | done outcome =>
      cases outcome with
      | ok a => rfl
      | error e => exact e.elim
  | act update next ih => exact congrArg _ (funext ih)
  | await query next ih => exact congrArg _ (funext ih)

theorem andThen_andThen (sub : Task State Empty Query Reply α)
    (f : α → Task State Empty Query Reply β) (g : β → Task State Error Query Reply γ) :
    (sub.andThen f).andThen g = sub.andThen fun a => (f a).andThen g := by
  induction sub with
  | done outcome =>
      cases outcome with
      | ok a => rfl
      | error e => exact e.elim
  | act update next ih => exact congrArg _ (funext ih)
  | await query next ih => exact congrArg _ (funext ih)

/-- To go on by ending as a task did, up to a change that is none for a value
nor for anything it may raise, is to run the task. -/
theorem attempt_andThen {task : Task State Error Query Reply α}
    {f : Except Error α → Except Error α} (hOk : ∀ a, f (.ok a) = .ok a)
    (hRaises : task.Raises fun e => f (.error e) = .error e) :
    task.attempt.andThen (fun outcome => .done (f outcome)) = task := by
  induction task with
  | done outcome =>
      cases outcome with
      | ok a => exact congrArg _ (hOk a)
      | error e => exact congrArg _ hRaises
  | act update next ih => exact congrArg _ (funext fun s => ih s (hRaises s))
  | await query next ih => exact congrArg _ (funext fun r => ih r (hRaises r))

end Sequencing

section Homomorphism

variable {Whole Part Error Query Query' : Type} {Reply : Query → Type} {Reply' : Query' → Type}
    {α β : Type} (view : View Whole Part)
    (sub : (query : Query) → Task Whole Empty Query' Reply' (Reply query))

/-- Inlining goes through sequencing. -/
theorem inline_bind (task : Task Part Error Query Reply α)
    (f : α → Task Part Error Query Reply β) :
    inline view sub (task >>= f) = inline view sub task >>= fun a => inline view sub (f a) := by
  change inline view sub (task.bind f) = (inline view sub task).bind _
  induction task with
  | done outcome => cases outcome <;> rfl
  | act update next ih => exact congrArg _ (funext fun w => ih (view.get w))
  | await query next ih =>
      refine Eq.trans ?_ (andThen_bind (sub query) _ _).symm
      exact congrArg (fun rest => (sub query).andThen rest) (funext ih)

end Homomorphism

section Advance

variable {Whole Part Error Query Query' : Type} {Reply : Query → Type} {Reply' : Query' → Type}
    {α β : Type} (view : View Whole Part)
    (sub : (query : Query) → Task Whole Empty Query' Reply' (Reply query))
    {task : Task Part Error Query Reply α} {w : Whole} {p : Part}

/-- A stretch with an end. -/
theorem advance_inline_finished {outcome : Except Error α}
    (h : task.advance (view.get w) = (.finished outcome, p)) :
    (task.inline view sub).advance w = (.finished outcome, view.set w p) := by
  induction task generalizing w with
  | done outcome' =>
      cases h
      exact congrArg _ (view.set_get w).symm
  | act update next ih =>
      have hNext := ih (view.get w) (w := view.set w (update (view.get w)))
        (by rw [view.get_set]; exact h)
      rw [view.set_set] at hNext
      exact hNext
  | await query next ih => cases h

/-- A stretch up to an await goes on with what stands for it. -/
theorem advance_inline_waiting {query : Query} {next : Reply query → Task Part Error Query Reply α}
    (h : task.advance (view.get w) = (.waiting query next, p)) :
    (task.inline view sub).advance w =
      ((sub query).andThen fun r => (next r).inline view sub).advance (view.set w p) := by
  induction task generalizing w with
  | done outcome' => cases h
  | act update next' ih =>
      have hNext := ih (view.get w) (w := view.set w (update (view.get w)))
        (by rw [view.get_set]; exact h)
      rw [view.set_set] at hNext
      exact hNext
  | await query' next' ih =>
      cases h
      rw [view.set_get]
      rfl

variable {view}

theorem Raises.lift {P : Error → Prop} (h : task.Raises P) {rename : Query → Query'}
    {reply : (query : Query) → Reply' (rename query) → Reply query} :
    (task.lift view rename reply).Raises P := by
  induction task with
  | done outcome =>
      cases outcome with
      | ok a => trivial
      | error e => exact h
  | act update next ih => exact fun w => ih (view.get w) (h (view.get w))
  | await query next ih => exact fun r => ih (reply query r) (h (reply query r))

variable {State : Type} {s t : State} {first : Task State Empty Query' Reply' α}
    {f : α → Task State Error Query' Reply' β}

theorem advance_andThen_finished {a : α} (h : first.advance s = (.finished (.ok a), t)) :
    (first.andThen f).advance s = (f a).advance t := by
  induction first generalizing s with
  | done outcome =>
      cases h
      rfl
  | act update next ih => exact ih s h
  | await query next ih => cases h

theorem advance_andThen_waiting {query : Query'}
    {next : Reply' query → Task State Empty Query' Reply' α}
    (h : first.advance s = (.waiting query next, t)) :
    (first.andThen f).advance s = (.waiting query fun r => (next r).andThen f, t) := by
  induction first generalizing s with
  | done outcome => cases h
  | act update next ih => exact ih s h
  | await query' next ih =>
      cases h
      rfl

variable {call : Task State Error Query' Reply' α}

theorem advance_attempt_finished {outcome : Except Error α}
    (h : call.advance s = (.finished outcome, t)) :
    call.attempt.advance s = (.finished (.ok outcome), t) := by
  induction call generalizing s with
  | done outcome' =>
      cases h
      rfl
  | act update next ih => exact ih s h
  | await query next ih => cases h

theorem advance_attempt_waiting {query : Query'}
    {next : Reply' query → Task State Error Query' Reply' α}
    (h : call.advance s = (.waiting query next, t)) :
    call.attempt.advance s = (.waiting query fun r => (next r).attempt, t) := by
  induction call generalizing s with
  | done outcome => cases h
  | act update next ih => exact ih s h
  | await query' next ih =>
      cases h
      rfl

end Advance

end Task

end EventLoop
