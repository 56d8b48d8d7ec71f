import Krb5TokenService.EventLoop.Task

/-! The exceptions that may leave a task, whatever states and replies it sees. -/
namespace EventLoop.Task

variable {State Error Query : Type} {Reply : Query → Type} {α β : Type}

def Raises (P : Error → Prop) : Task State Error Query Reply α → Prop
  | .done (.ok _) => True
  | .done (.error e) => P e
  | .act _ next => ∀ s, (next s).Raises P
  | .await _ next => ∀ r, (next r).Raises P

section Rules

variable {P P' : Error → Prop} {task : Task State Error Query Reply α}

theorem raises_pure (a : α) : (pure a : Task State Error Query Reply α).Raises P := trivial

theorem raises_throw {e : Error} (h : P e) :
    (throw e : Task State Error Query Reply α).Raises P := h

theorem raises_modify (update : State → State) :
    (modify update : Task State Error Query Reply Unit).Raises P := fun _ => trivial

theorem raises_get : (get : Task State Error Query Reply State).Raises P := fun _ => trivial

theorem raises_ask (query : Query) :
    (ask query : Task State Error Query Reply (Reply query)).Raises P := fun _ => trivial

theorem Raises.bind (h : task.Raises P) {f : α → Task State Error Query Reply β}
    (hNext : ∀ a, (f a).Raises P) : (task >>= f).Raises P := by
  change (task.bind f).Raises P
  induction task with
  | done outcome =>
      cases outcome with
      | ok a => exact hNext a
      | error e => exact h
  | act update next ih => exact fun s => ih s (h s)
  | await query next ih => exact fun r => ih r (h r)

theorem Raises.map (h : task.Raises P) (f : α → β) : (f <$> task).Raises P :=
  h.bind fun a => raises_pure (f a)

/-- A handler is asked only about what its task may raise. -/
theorem Raises.tryCatch (h : task.Raises P') {handler : Error → Task State Error Query Reply α}
    (hHandler : ∀ e, P' e → (handler e).Raises P) : (tryCatch task handler).Raises P := by
  change (task.tryCatch handler).Raises P
  induction task with
  | done outcome =>
      cases outcome with
      | ok a => trivial
      | error e => exact hHandler e h
  | act update next ih => exact fun s => ih s (h s)
  | await query next ih => exact fun r => ih r (h r)

theorem Raises.andFinally (h : task.Raises P) {cleanup : Task State Error Query Reply Unit}
    (hCleanup : cleanup.Raises P) : (task.andFinally cleanup).Raises P := by
  induction task with
  | done outcome =>
      refine hCleanup.bind fun _ => ?_
      cases outcome with
      | ok a => trivial
      | error e => exact h
  | act update next ih => exact fun s => ih s (h s)
  | await query next ih => exact fun r => ih r (h r)

end Rules

end EventLoop.Task
