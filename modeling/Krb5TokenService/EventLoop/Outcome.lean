import Krb5TokenService.EventLoop.Task

/-! How a stretch of a task ends, with the state it leaves abstracted away:
with an outcome, or waiting for a reply that decides the outcome. Frame rules
say separately what happens to the state. -/
namespace EventLoop.Task

variable {State Error Query : Type} {Reply : Query → Type} {α β : Type}

/-- The task runs to its end without an await. -/
def Finishes (task : Task State Error Query Reply α) (s : State) (outcome : Except Error α) :
    Prop :=
  ∃ t, task.advance s = (.finished outcome, t)

/-- The task awaits this query next; the reply alone decides its outcome,
whatever the state has become in the meantime. -/
def Asks (task : Task State Error Query Reply α) (s : State) (query : Query)
    (outcome : Reply query → Except Error α) : Prop :=
  ∃ next t, task.advance s = (.waiting query next, t) ∧ ∀ r u, (next r).Finishes u (outcome r)

section

variable {task : Task State Error Query Reply α} {s t : State} {query : Query}
    {outcome : Reply query → Except Error α}

theorem finishes_pure (a : α) : (pure a : Task State Error Query Reply α).Finishes s (.ok a) :=
  ⟨s, rfl⟩

theorem Finishes.unique {first second : Except Error α} (h : task.Finishes s first)
    (h' : task.Finishes s second) : first = second := by
  obtain ⟨t, hAdvance⟩ := h
  obtain ⟨u, hAdvance'⟩ := h'
  exact Turn.finished.inj (Prod.mk.inj (hAdvance.symm.trans hAdvance')).1

theorem finishes_ofExcept (result : Except Error α) :
    (ofExcept result : Task State Error Query Reply α).Finishes s result := ⟨s, rfl⟩

theorem Finishes.error_bind {e : Error} (h : task.Finishes s (.error e))
    (f : α → Task State Error Query Reply β) : (task >>= f).Finishes s (.error e) := by
  obtain ⟨t, hAdvance⟩ := h
  exact ⟨t, advance_bind_error hAdvance⟩

/-- The rest of a task, after a first part that has ended in `t`. -/
theorem Finishes.of_bind {a : α} {f : α → Task State Error Query Reply β}
    {result : Except Error β} (hFirst : task.advance s = (.finished (.ok a), t))
    (h : (f a).Finishes t result) : (task >>= f).Finishes s result := by
  obtain ⟨u, hAdvance⟩ := h
  exact ⟨u, (advance_bind_ok hFirst).trans hAdvance⟩

/-- A rest that finishes alike in every state needs no intermediate state. -/
theorem Finishes.bind {first : Except Error α} (h : task.Finishes s first)
    {f : α → Task State Error Query Reply β} {g : α → Except Error β}
    (hNext : ∀ a t, (f a).Finishes t (g a)) : (task >>= f).Finishes s (first >>= g) := by
  cases first with
  | error e => exact h.error_bind f
  | ok a =>
      obtain ⟨t, hAdvance⟩ := h
      exact .of_bind hAdvance (hNext a t)

/-- A cleanup that fails replaces the outcome; otherwise it stands. -/
theorem Finishes.andFinally {first : Except Error α} (h : task.Finishes s first)
    {cleanup : Task State Error Query Reply Unit} {result : Except Error Unit}
    (hCleanup : ∀ t, cleanup.Finishes t result) :
    (task.andFinally cleanup).Finishes s (result >>= fun _ => first) := by
  obtain ⟨t, hAdvance⟩ := h
  have hRest := (hCleanup t).bind (f := fun _ => ofExcept first) (g := fun _ => first)
    fun _ _ => finishes_ofExcept first
  obtain ⟨u, hEnd⟩ := hRest
  exact ⟨u, by rw [advance_andFinally, hAdvance]; exact hEnd⟩

end

end EventLoop.Task
