import Mathlib.Tactic.Common

/-! Cooperative tasks on one event loop. A task reads and updates a shared
state atomically until it awaits a reply, returns a value or raises. Nothing
here depends on what the state, the queries or the exceptions are. -/
namespace EventLoop

/-- A resumable computation. The continuation of `act` sees the state from
before the update; the continuation of `await` sees only the reply, because
other tasks may have changed the state in between. -/
inductive Task (State Error Query : Type) (Reply : Query → Type) (Result : Type) : Type where
  | done (outcome : Except Error Result)
  | act (update : State → State) (next : State → Task State Error Query Reply Result)
  | await (query : Query) (next : Reply query → Task State Error Query Reply Result)

/-- How one atomic stretch of a task ends. -/
inductive Turn (State Error Query : Type) (Reply : Query → Type) (Result : Type) : Type where
  | finished (outcome : Except Error Result)
  | waiting (query : Query) (next : Reply query → Task State Error Query Reply Result)

namespace Task

variable {State Error Query : Type} {Reply : Query → Type} {α β : Type}

protected def bind (task : Task State Error Query Reply α)
    (f : α → Task State Error Query Reply β) : Task State Error Query Reply β :=
  match task with
  | .done (.ok a) => f a
  | .done (.error e) => .done (.error e)
  | .act update next => .act update fun s => (next s).bind f
  | .await query next => .await query fun r => (next r).bind f

protected def tryCatch (task : Task State Error Query Reply α)
    (handler : Error → Task State Error Query Reply α) : Task State Error Query Reply α :=
  match task with
  | .done (.ok a) => .done (.ok a)
  | .done (.error e) => handler e
  | .act update next => .act update fun s => (next s).tryCatch handler
  | .await query next => .await query fun r => (next r).tryCatch handler

/-- `try: body finally: cleanup`. An exception of the cleanup replaces
whatever the body ended with, as in Python. -/
def andFinally (body : Task State Error Query Reply α)
    (cleanup : Task State Error Query Reply Unit) : Task State Error Query Reply α :=
  match body with
  | .done outcome => cleanup.bind fun _ => .done outcome
  | .act update next => .act update fun s => (next s).andFinally cleanup
  | .await query next => .await query fun r => (next r).andFinally cleanup

instance : Monad (Task State Error Query Reply) where
  pure a := .done (.ok a)
  bind := Task.bind

instance : MonadExceptOf Error (Task State Error Query Reply) where
  throw e := .done (.error e)
  tryCatch := Task.tryCatch

def get : Task State Error Query Reply State := .act id fun s => .done (.ok s)

def modify (update : State → State) : Task State Error Query Reply Unit :=
  .act update fun _ => .done (.ok ())

/-- Raise the error of a computed result, or return its value. -/
def ofExcept (result : Except Error α) : Task State Error Query Reply α := .done result

def ask (query : Query) : Task State Error Query Reply (Reply query) :=
  .await query fun r => .done (.ok r)

/-- Run one atomic stretch: up to the next await, or to the end. -/
def advance : Task State Error Query Reply α → State → Turn State Error Query Reply α × State
  | .done outcome, s => (.finished outcome, s)
  | .act update next, s => (next s).advance (update s)
  | .await query next, s => (.waiting query next, s)

/-- Run to the end when `answer` decides every reply, and may change the
shared state while the task waits for it. -/
def run (answer : (query : Query) → State → Reply query × State) :
    Task State Error Query Reply α → State → Except Error α × State
  | .done outcome, s => (outcome, s)
  | .act update next, s => (next s).run answer (update s)
  | .await query next, s =>
      let replied := answer query s
      (next replied.1).run answer replied.2

/-- The awaits of such a run, each with the state it found. -/
def awaits (answer : (query : Query) → State → Reply query × State) :
    Task State Error Query Reply α → State → List (Query × State)
  | .done _, _ => []
  | .act update next, s => (next s).awaits answer (update s)
  | .await query next, s =>
      let replied := answer query s
      (query, s) :: (next replied.1).awaits answer replied.2

section Advance

variable {task : Task State Error Query Reply α} {s t : State} {e : Error}

@[simp] theorem advance_pure (a : α) :
    (pure a : Task State Error Query Reply α).advance s = (.finished (.ok a), s) := rfl

@[simp] theorem advance_throw (e : Error) :
    (throw e : Task State Error Query Reply α).advance s = (.finished (.error e), s) := rfl

@[simp] theorem advance_get :
    (get : Task State Error Query Reply State).advance s = (.finished (.ok s), s) := rfl

@[simp] theorem advance_modify (update : State → State) :
    (modify update : Task State Error Query Reply Unit).advance s =
      (.finished (.ok ()), update s) := rfl

@[simp] theorem advance_ofExcept (result : Except Error α) :
    (ofExcept result : Task State Error Query Reply α).advance s = (.finished result, s) := rfl

@[simp] theorem advance_ask (query : Query) :
    (ask query : Task State Error Query Reply (Reply query)).advance s =
      (.waiting query fun r => pure r, s) := rfl

theorem advance_bind (f : α → Task State Error Query Reply β) :
    (task >>= f).advance s =
      match task.advance s with
      | (.finished (.ok a), t) => (f a).advance t
      | (.finished (.error e), t) => (.finished (.error e), t)
      | (.waiting query next, t) => (.waiting query fun r => next r >>= f, t) := by
  change (task.bind f).advance s = _
  induction task generalizing s with
  | done outcome => cases outcome <;> rfl
  | act update next ih => exact ih s
  | await query next ih => rfl

theorem advance_bind_ok {f : α → Task State Error Query Reply β} {a : α}
    (h : task.advance s = (.finished (.ok a), t)) :
    (task >>= f).advance s = (f a).advance t := by
  rw [advance_bind, h]

theorem advance_bind_error {f : α → Task State Error Query Reply β}
    (h : task.advance s = (.finished (.error e), t)) :
    (task >>= f).advance s = (.finished (.error e), t) := by
  rw [advance_bind, h]

theorem advance_bind_waiting {f : α → Task State Error Query Reply β} {query : Query}
    {next : Reply query → Task State Error Query Reply α}
    (h : task.advance s = (.waiting query next, t)) :
    (task >>= f).advance s = (.waiting query fun r => next r >>= f, t) := by
  rw [advance_bind, h]

theorem map_eq_bind (f : α → β) : f <$> task = task >>= fun a => pure (f a) := rfl

theorem advance_tryCatch (handler : Error → Task State Error Query Reply α) :
    (tryCatch task handler).advance s =
      match task.advance s with
      | (.finished (.ok a), t) => (.finished (.ok a), t)
      | (.finished (.error e), t) => (handler e).advance t
      | (.waiting query next, t) =>
          (.waiting query fun r => tryCatch (next r) handler, t) := by
  change (task.tryCatch handler).advance s = _
  induction task generalizing s with
  | done outcome => cases outcome <;> rfl
  | act update next ih => exact ih s
  | await query next ih => rfl

theorem advance_andFinally (cleanup : Task State Error Query Reply Unit) :
    (task.andFinally cleanup).advance s =
      match task.advance s with
      | (.finished outcome, t) => (cleanup >>= fun _ => ofExcept outcome).advance t
      | (.waiting query next, t) =>
          (.waiting query fun r => (next r).andFinally cleanup, t) := by
  induction task generalizing s with
  | done outcome => rfl
  | act update next ih => exact ih s
  | await query next ih => rfl

end Advance

section Run

variable (answer : (query : Query) → State → Reply query × State)
    {task : Task State Error Query Reply α} {s t : State}

/-- A complete run is its first stretch, the reply, and the rest. -/
theorem run_eq_advance :
    task.run answer s =
      match task.advance s with
      | (.finished outcome, t) => (outcome, t)
      | (.waiting query next, t) =>
          (next (answer query t).1).run answer (answer query t).2 := by
  induction task generalizing s with
  | done outcome => rfl
  | act update next ih => exact ih s
  | await query next ih => rfl

theorem run_of_finished {outcome : Except Error α}
    (h : task.advance s = (.finished outcome, t)) : task.run answer s = (outcome, t) := by
  rw [run_eq_advance, h]

theorem run_of_waiting {query : Query} {next : Reply query → Task State Error Query Reply α}
    (h : task.advance s = (.waiting query next, t)) :
    task.run answer s = (next (answer query t).1).run answer (answer query t).2 := by
  rw [run_eq_advance, h]

theorem awaits_eq_advance :
    task.awaits answer s =
      match task.advance s with
      | (.finished _, _) => []
      | (.waiting query next, t) =>
          (query, t) :: (next (answer query t).1).awaits answer (answer query t).2 := by
  induction task generalizing s with
  | done outcome => rfl
  | act update next ih => exact ih s
  | await query next ih => rfl

theorem awaits_of_finished {outcome : Except Error α}
    (h : task.advance s = (.finished outcome, t)) : task.awaits answer s = [] := by
  rw [awaits_eq_advance, h]

theorem awaits_of_waiting {query : Query} {next : Reply query → Task State Error Query Reply α}
    (h : task.advance s = (.waiting query next, t)) :
    task.awaits answer s =
      (query, t) :: (next (answer query t).1).awaits answer (answer query t).2 := by
  rw [awaits_eq_advance, h]

theorem run_bind (f : α → Task State Error Query Reply β) :
    (task >>= f).run answer s =
      match task.run answer s with
      | (.ok a, t) => (f a).run answer t
      | (.error e, t) => (.error e, t) := by
  change (task.bind f).run answer s = _
  induction task generalizing s with
  | done outcome => cases outcome <;> rfl
  | act update next ih => exact ih s
  | await query next ih => exact ih _

theorem run_bind_ok {f : α → Task State Error Query Reply β} {a : α}
    (h : task.advance s = (.finished (.ok a), t)) :
    (task >>= f).run answer s = (f a).run answer t := by
  rw [run_bind, run_of_finished answer h]

theorem run_bind_error {f : α → Task State Error Query Reply β} {e : Error}
    (h : task.advance s = (.finished (.error e), t)) :
    (task >>= f).run answer s = (.error e, t) := by
  rw [run_bind, run_of_finished answer h]

/-- A run of `try: .. finally: cleanup` ends with a run of the cleanup. -/
theorem run_andFinally (cleanup : Task State Error Query Reply Unit) :
    (task.andFinally cleanup).run answer s =
      (cleanup >>= fun _ => ofExcept (task.run answer s).1).run answer
        (task.run answer s).2 := by
  induction task generalizing s with
  | done outcome => rfl
  | act update next ih => exact ih s
  | await query next ih => exact ih _

end Run

end Task

end EventLoop
