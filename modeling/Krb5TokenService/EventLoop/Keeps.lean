import Krb5TokenService.EventLoop.Task
import Mathlib.Order.Defs.Unbundled

/-! Frame rules for tasks: a relation between the state before and after that
every update of a task respects. Other tasks are not assumed to respect it;
the relation speaks of each atomic stretch of the task alone. -/
namespace EventLoop.Task

variable {State Error Query : Type} {Reply : Query → Type} {α β : Type}

def Keeps (R : State → State → Prop) : Task State Error Query Reply α → Prop
  | .done _ => True
  | .act update next => ∀ s, R s (update s) ∧ (next s).Keeps R
  | .await _ next => ∀ r, (next r).Keeps R

/-- What a task that begins with an await keeps once it has the reply, which
the relation may speak of. -/
def KeepsAfter (R : (query : Query) → Reply query → State → State → Prop) :
    Task State Error Query Reply α → Prop
  | .await query next => ∀ r, (next r).Keeps (R query r)
  | _ => True

section

variable {R S : State → State → Prop} {task : Task State Error Query Reply α}

theorem keeps_pure (a : α) : (pure a : Task State Error Query Reply α).Keeps R := trivial

theorem keeps_throw (e : Error) : (throw e : Task State Error Query Reply α).Keeps R := trivial

theorem keeps_ofExcept (result : Except Error α) :
    (ofExcept result : Task State Error Query Reply α).Keeps R := trivial

theorem keeps_ask (query : Query) :
    (ask query : Task State Error Query Reply (Reply query)).Keeps R := fun _ => trivial

theorem keeps_modify {update : State → State} (h : ∀ s, R s (update s)) :
    (modify update : Task State Error Query Reply Unit).Keeps R := fun s => ⟨h s, trivial⟩

theorem keeps_get (hRefl : ∀ s, R s s) :
    (get : Task State Error Query Reply State).Keeps R := fun s => ⟨hRefl s, trivial⟩

theorem Keeps.bind (h : task.Keeps R) {f : α → Task State Error Query Reply β}
    (hNext : ∀ a, (f a).Keeps R) : (task >>= f).Keeps R := by
  change (task.bind f).Keeps R
  induction task with
  | done outcome =>
      cases outcome with
      | ok a => exact hNext a
      | error e => trivial
  | act update next ih => exact fun s => ⟨(h s).1, ih s (h s).2⟩
  | await query next ih => exact fun r => ih r (h r)

theorem Keeps.map (h : task.Keeps R) (f : α → β) : (f <$> task).Keeps R :=
  h.bind fun a => keeps_pure (f a)

theorem Keeps.tryCatch (h : task.Keeps R) {handler : Error → Task State Error Query Reply α}
    (hHandler : ∀ e, (handler e).Keeps R) : (tryCatch task handler).Keeps R := by
  change (task.tryCatch handler).Keeps R
  induction task with
  | done outcome =>
      cases outcome with
      | ok a => trivial
      | error e => exact hHandler e
  | act update next ih => exact fun s => ⟨(h s).1, ih s (h s).2⟩
  | await query next ih => exact fun r => ih r (h r)

theorem Keeps.andFinally (h : task.Keeps R) {cleanup : Task State Error Query Reply Unit}
    (hCleanup : cleanup.Keeps R) : (task.andFinally cleanup).Keeps R := by
  induction task with
  | done outcome => exact hCleanup.bind fun _ => keeps_ofExcept outcome
  | act update next ih => exact fun s => ⟨(h s).1, ih s (h s).2⟩
  | await query next ih => exact fun r => ih r (h r)

theorem Keeps.mono (h : task.Keeps R) (hMono : ∀ s s', R s s' → S s s') : task.Keeps S := by
  induction task with
  | done outcome => trivial
  | act update next ih => exact fun s => ⟨hMono _ _ (h s).1, ih s (h s).2⟩
  | await query next ih => exact fun r => ih r (h r)

theorem KeepsAfter.map {R : (query : Query) → Reply query → State → State → Prop}
    (h : task.KeepsAfter R) (f : α → β) : (f <$> task).KeepsAfter R := by
  cases task with
  | done outcome => cases outcome <;> trivial
  | act update next => trivial
  | await query next => exact fun r => (h r).map f

/-- A handler that begins no await of its own. -/
theorem KeepsAfter.tryCatch {R : (query : Query) → Reply query → State → State → Prop}
    (h : task.KeepsAfter R) (value : Error → α) :
    (tryCatch task fun e => pure (value e)).KeepsAfter R := by
  cases task with
  | done outcome => cases outcome <;> trivial
  | act update next => trivial
  | await query next => exact fun r => (h r).tryCatch fun e => keeps_pure (value e)

/-- What a task still has to do after an await keeps the relation too. -/
theorem Keeps.waiting (h : task.Keeps R) {s s' : State} {query : Query}
    {next : Reply query → Task State Error Query Reply α}
    (hAdvance : task.advance s = (.waiting query next, s')) (r : Reply query) :
    (next r).Keeps R := by
  induction task generalizing s with
  | done outcome => simp [advance] at hAdvance
  | act update next' ih => exact ih s (h s).2 hAdvance
  | await query' next' ih =>
      cases hAdvance
      exact h r

variable [IsPreorder State R]

/-- One atomic stretch respects the relation. -/
theorem Keeps.advance (h : task.Keeps R) (s : State) : R s (task.advance s).2 := by
  induction task generalizing s with
  | done outcome => exact refl s
  | act update next ih => exact IsTrans.trans _ _ _ (h s).1 (ih s (h s).2 _)
  | await query next ih => exact refl s

/-- A whole run respects it when what happens during the awaits does. -/
theorem Keeps.run (h : task.Keeps R) {answer : (query : Query) → State → Reply query × State}
    (hAnswer : ∀ query s, R s (answer query s).2) (s : State) : R s (task.run answer s).2 := by
  induction task generalizing s with
  | done outcome => exact refl s
  | act update next ih => exact IsTrans.trans _ _ _ (h s).1 (ih s (h s).2 _)
  | await query next ih => exact IsTrans.trans _ _ _ (hAnswer query s) (ih _ (h _) _)

end

end EventLoop.Task
