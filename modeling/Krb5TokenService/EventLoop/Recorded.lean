import Krb5TokenService.EventLoop.Outcome

/-! What a task adds to a log, next to how it ends. A record says both without
any state, and is built with the same operations as the task it describes. -/
namespace EventLoop

variable {State Error Query Event : Type} {Reply : Query → Type} {α β : Type}

structure Recorded (Error Event Result : Type) where
  outcome : Except Error Result
  events : List Event

namespace Recorded

protected def bind (record : Recorded Error Event α) (f : α → Recorded Error Event β) :
    Recorded Error Event β :=
  match record with
  | ⟨.ok a, events⟩ => ⟨(f a).outcome, events ++ (f a).events⟩
  | ⟨.error e, events⟩ => ⟨.error e, events⟩

protected def tryCatch (record : Recorded Error Event α)
    (handler : Error → Recorded Error Event α) : Recorded Error Event α :=
  match record with
  | ⟨.ok a, events⟩ => ⟨.ok a, events⟩
  | ⟨.error e, events⟩ => ⟨(handler e).outcome, events ++ (handler e).events⟩

instance : Monad (Recorded Error Event) where
  pure a := ⟨.ok a, []⟩
  bind := Recorded.bind

instance : MonadExceptOf Error (Recorded Error Event) where
  throw e := ⟨.error e, []⟩
  tryCatch := Recorded.tryCatch

def event (e : Event) : Recorded Error Event Unit := ⟨.ok (), [e]⟩

def ofExcept (result : Except Error α) : Recorded Error Event α := ⟨result, []⟩

/-- `try: body finally: cleanup`. -/
def andFinally (record : Recorded Error Event α) (cleanup : Recorded Error Event Unit) :
    Recorded Error Event α :=
  ⟨cleanup.outcome >>= fun _ => record.outcome, record.events ++ cleanup.events⟩

section Outcomes

@[simp] theorem outcome_pure (a : α) : (pure a : Recorded Error Event α).outcome = .ok a := rfl

@[simp] theorem outcome_throw (e : Error) :
    (throw e : Recorded Error Event α).outcome = .error e := rfl

@[simp] theorem outcome_event (e : Event) :
    (event e : Recorded Error Event Unit).outcome = .ok () := rfl

@[simp] theorem outcome_ofExcept (result : Except Error α) :
    (ofExcept result : Recorded Error Event α).outcome = result := rfl

@[simp] theorem outcome_bind (record : Recorded Error Event α) (f : α → Recorded Error Event β) :
    (record >>= f).outcome = record.outcome >>= fun a => (f a).outcome := by
  obtain ⟨outcome, events⟩ := record
  cases outcome <;> rfl

@[simp] theorem outcome_tryCatch (record : Recorded Error Event α)
    (handler : Error → Recorded Error Event α) :
    (tryCatch record handler).outcome = tryCatch record.outcome fun e => (handler e).outcome := by
  obtain ⟨outcome, events⟩ := record
  cases outcome <;> rfl

@[simp] theorem outcome_andFinally (record : Recorded Error Event α)
    (cleanup : Recorded Error Event Unit) :
    (record.andFinally cleanup).outcome = cleanup.outcome >>= fun _ => record.outcome := rfl

end Outcomes

/-- Two records that no one can tell apart by their events, nor by an error
they end with; values are related by `Same`. -/
inductive Matches (Same : α → β → Prop) : Recorded Error Event α → Recorded Error Event β → Prop
  | ok {a : α} {b : β} (hSame : Same a b) (events : List Event) :
      Matches Same ⟨.ok a, events⟩ ⟨.ok b, events⟩
  | error (e : Error) (events : List Event) : Matches Same ⟨.error e, events⟩ ⟨.error e, events⟩

namespace Matches

variable {γ δ : Type} {Same : α → β → Prop} {Same' : γ → δ → Prop}
    {record : Recorded Error Event α} {record' : Recorded Error Event β}

theorem events_eq (h : Matches Same record record') : record.events = record'.events := by
  cases h with
  | ok hSame events => rfl
  | error e events => rfl

protected theorem refl {Same : α → α → Prop} (hSame : ∀ a, Same a a)
    (record : Recorded Error Event α) : Matches Same record record := by
  obtain ⟨outcome, events⟩ := record
  cases outcome with
  | ok a => exact .ok (hSame a) events
  | error e => exact .error e events

protected theorem pure {a : α} {b : β} (hSame : Same a b) :
    Matches Same (pure a : Recorded Error Event α) (pure b) := .ok hSame []

protected theorem throw (e : Error) :
    Matches Same (throw e : Recorded Error Event α) (throw e) := .error e []

/-- Events that come first stand in both. -/
theorem after {events : List Event} (h : Matches Same record record') :
    Matches Same ⟨record.outcome, events ++ record.events⟩
      ⟨record'.outcome, events ++ record'.events⟩ := by
  cases h with
  | ok hSame rest => exact .ok hSame _
  | error e rest => exact .error e _

protected theorem bind (h : Matches Same record record') {f : α → Recorded Error Event γ}
    {g : β → Recorded Error Event δ} (hNext : ∀ a b, Same a b → Matches Same' (f a) (g b)) :
    Matches Same' (record >>= f) (record' >>= g) := by
  cases h with
  | ok hSame events => exact (hNext _ _ hSame).after
  | error e events => exact .error e events

/-- A first part that both share. -/
theorem bind_same (first : Recorded Error Event γ) {f : γ → Recorded Error Event α}
    {g : γ → Recorded Error Event β} (hNext : ∀ c, Matches Same (f c) (g c)) :
    Matches Same (first >>= f) (first >>= g) := by
  obtain ⟨outcome, events⟩ := first
  cases outcome with
  | ok c => exact (hNext c).after
  | error e => exact .error e events

protected theorem tryCatch (h : Matches Same record record')
    {handler : Error → Recorded Error Event α} {handler' : Error → Recorded Error Event β}
    (hHandler : ∀ e, Matches Same (handler e) (handler' e)) :
    Matches Same (tryCatch record handler) (tryCatch record' handler') := by
  cases h with
  | ok hSame events => exact .ok hSame events
  | error e events => exact (hHandler e).after

protected theorem andFinally (h : Matches Same record record')
    (cleanup : Recorded Error Event Unit) :
    Matches Same (record.andFinally cleanup) (record'.andFinally cleanup) := by
  obtain ⟨outcome, cleanEvents⟩ := cleanup
  cases h with
  | ok hSame events =>
      cases outcome with
      | ok _ => exact .ok hSame _
      | error e => exact .error e _
  | error e events =>
      cases outcome with
      | ok _ => exact .error e _
      | error e' => exact .error e' _

end Matches

end Recorded

namespace Task

variable (log : State → List Event)

/-- The task runs to its end as the record says. -/
def Records (task : Task State Error Query Reply α) (s : State)
    (record : Recorded Error Event α) : Prop :=
  ∃ t, task.advance s = (.finished record.outcome, t) ∧ log t = log s ++ record.events

/-- The task awaits this query, in a state of which `Found` holds, and then runs
to its end as the record says that the reply selects. -/
def Pauses (task : Task State Error Query Reply α) (s : State) (query : Query)
    (Found : State → Prop) (record : Reply query → Recorded Error Event α) : Prop :=
  ∃ next t, task.advance s = (.waiting query next, t) ∧ Found t ∧
    ∀ r u, (next r).Records log u (record r)

section Rules

variable {log} {task : Task State Error Query Reply α} {s t : State} {query : Query}
    {Found : State → Prop} {record : Recorded Error Event α}
    {records : Reply query → Recorded Error Event α}

theorem records_pure (a : α) : (pure a : Task State Error Query Reply α).Records log s (pure a) :=
  ⟨s, rfl, (List.append_nil _).symm⟩

theorem records_throw (e : Error) :
    (throw e : Task State Error Query Reply α).Records log s (throw e) :=
  ⟨s, rfl, (List.append_nil _).symm⟩

/-- The rest of a task, after a first part that has ended in `t` and added
nothing. -/
theorem Records.of_bind {a : α} {f : α → Task State Error Query Reply β}
    {rest : Recorded Error Event β} (hFirst : task.advance s = (.finished (.ok a), t))
    (hLog : log t = log s) (h : (f a).Records log t rest) : (task >>= f).Records log s rest := by
  obtain ⟨u, hAdvance, hRest⟩ := h
  exact ⟨u, (advance_bind_ok hFirst).trans hAdvance, by rw [hRest, hLog]⟩

/-- A rest that may also depend on the state the first part leaves. -/
theorem Records.bind_of (h : task.Records log s record) {f : α → Task State Error Query Reply β}
    {g : α → Recorded Error Event β}
    (hNext : ∀ a t, task.advance s = (.finished (.ok a), t) → (f a).Records log t (g a)) :
    (task >>= f).Records log s (record >>= g) := by
  obtain ⟨outcome, events⟩ := record
  obtain ⟨t, hAdvance, hLog⟩ := h
  cases outcome with
  | error e => exact ⟨t, advance_bind_error hAdvance, hLog⟩
  | ok a =>
      obtain ⟨u, hRest, hLog'⟩ := hNext a t hAdvance
      refine ⟨u, (advance_bind_ok hAdvance).trans hRest, ?_⟩
      rw [hLog', hLog, List.append_assoc]
      rfl

theorem Records.bind (h : task.Records log s record) {f : α → Task State Error Query Reply β}
    {g : α → Recorded Error Event β} (hNext : ∀ a t, (f a).Records log t (g a)) :
    (task >>= f).Records log s (record >>= g) :=
  h.bind_of fun a t _ => hNext a t

theorem Records.error_bind {e : Error} {events : List Event}
    (h : task.Records log s ⟨.error e, events⟩) (f : α → Task State Error Query Reply β) :
    (task >>= f).Records log s ⟨.error e, events⟩ := by
  obtain ⟨t, hAdvance, hLog⟩ := h
  exact ⟨t, advance_bind_error hAdvance, hLog⟩

theorem Records.tryCatch (h : task.Records log s record)
    {handler : Error → Task State Error Query Reply α}
    {handled : Error → Recorded Error Event α}
    (hHandler : ∀ e t, (handler e).Records log t (handled e)) :
    (tryCatch task handler).Records log s (tryCatch record handled) := by
  obtain ⟨outcome, events⟩ := record
  obtain ⟨t, hAdvance, hLog⟩ := h
  unfold Records
  rw [advance_tryCatch, hAdvance]
  cases outcome with
  | ok a => exact ⟨t, rfl, hLog⟩
  | error e =>
      obtain ⟨u, hRest, hLog'⟩ := hHandler e t
      refine ⟨u, hRest, ?_⟩
      rw [hLog', hLog, List.append_assoc]
      rfl

theorem Records.andFinally (h : task.Records log s record)
    {cleanup : Task State Error Query Reply Unit} {cleaned : Recorded Error Event Unit}
    (hCleanup : ∀ t, cleanup.Records log t cleaned) :
    (task.andFinally cleanup).Records log s (record.andFinally cleaned) := by
  obtain ⟨t, hAdvance, hLog⟩ := h
  obtain ⟨cleanOutcome, cleanEvents⟩ := cleaned
  obtain ⟨u, hRest, hLog'⟩ := hCleanup t
  have hLogs : log u = log s ++ (record.events ++ cleanEvents) := by
    rw [hLog', hLog, List.append_assoc]
  unfold Records
  rw [advance_andFinally, hAdvance]
  cases cleanOutcome with
  | ok _ => exact ⟨u, advance_bind_ok hRest, hLogs⟩
  | error e => exact ⟨u, advance_bind_error hRest, hLogs⟩

theorem Pauses.of_bind {a : α} {f : α → Task State Error Query Reply β}
    {rest : Reply query → Recorded Error Event β}
    (hFirst : task.advance s = (.finished (.ok a), t)) (h : (f a).Pauses log t query Found rest) :
    (task >>= f).Pauses log s query Found rest := by
  obtain ⟨next, u, hAdvance, hFound, hRest⟩ := h
  exact ⟨next, u, (advance_bind_ok hFirst).trans hAdvance, hFound, hRest⟩

theorem Pauses.bind (h : task.Pauses log s query Found records)
    {f : α → Task State Error Query Reply β} {g : α → Recorded Error Event β}
    (hNext : ∀ a t, (f a).Records log t (g a)) :
    (task >>= f).Pauses log s query Found fun r => records r >>= g := by
  obtain ⟨next, t, hAdvance, hFound, hRest⟩ := h
  exact ⟨_, t, advance_bind_waiting hAdvance, hFound, fun r u => (hRest r u).bind hNext⟩

theorem Pauses.tryCatch (h : task.Pauses log s query Found records)
    {handler : Error → Task State Error Query Reply α}
    {handled : Error → Recorded Error Event α}
    (hHandler : ∀ e t, (handler e).Records log t (handled e)) :
    (tryCatch task handler).Pauses log s query Found fun r =>
      tryCatch (records r) handled := by
  obtain ⟨next, t, hAdvance, hFound, hRest⟩ := h
  refine ⟨_, t, ?_, hFound, fun r u => (hRest r u).tryCatch hHandler⟩
  rw [advance_tryCatch, hAdvance]

theorem Pauses.andFinally (h : task.Pauses log s query Found records)
    {cleanup : Task State Error Query Reply Unit} {cleaned : Recorded Error Event Unit}
    (hCleanup : ∀ t, cleanup.Records log t cleaned) :
    (task.andFinally cleanup).Pauses log s query Found fun r =>
      (records r).andFinally cleaned := by
  obtain ⟨next, t, hAdvance, hFound, hRest⟩ := h
  refine ⟨_, t, ?_, hFound, fun r u => (hRest r u).andFinally hCleanup⟩
  rw [advance_andFinally, hAdvance]

theorem Pauses.mono (h : task.Pauses log s query Found records) {Found' : State → Prop}
    (hFound : ∀ t, Found t → Found' t) : task.Pauses log s query Found' records := by
  obtain ⟨next, t, hAdvance, hHere, hRest⟩ := h
  exact ⟨next, t, hAdvance, hFound t hHere, hRest⟩

/-- Without its log, a record is an outcome. -/
theorem Records.finishes (h : task.Records log s record) : task.Finishes s record.outcome := by
  obtain ⟨t, hAdvance, _⟩ := h
  exact ⟨t, hAdvance⟩

theorem Pauses.asks (h : task.Pauses log s query Found records)
    {outcome : Reply query → Except Error α} (hOutcome : ∀ r, (records r).outcome = outcome r) :
    task.Asks s query outcome := by
  obtain ⟨next, t, hAdvance, _, hRest⟩ := h
  exact ⟨next, t, hAdvance, fun r u => hOutcome r ▸ (hRest r u).finishes⟩

end Rules

end Task

end EventLoop
