import Krb5TokenService.EventLoop.Task
import Mathlib.Data.List.Perm.Basic

/-! Any number of tasks on one event loop. A schedule chooses at every point
what happens next: a task is started, a waiting one gets its reply, or the
shared state changes from outside. -/
namespace EventLoop

variable (Label State Error Query : Type) (Reply : Query → Type) (Result Outside : Type)

/-- A task between two stretches, under the label it was started with. -/
structure Waiting where
  label : Label
  query : Query
  next : Reply query → Task State Error Query Reply Result

/-- A stretch that has been run: the reply it began with, if it was not its
task's first, the state it found, and the task's outcome, if it was its last. -/
structure Stretch where
  label : Label
  cause : Option ((query : Query) × Reply query)
  found : State
  ended : Option (Except Error Result)

/-- What the loop holds, with the stretches so far, newest first. -/
structure Loop where
  state : State
  waiting : List (Waiting Label State Error Query Reply Result)
  trace : List (Stretch Label State Error Query Reply Result)

inductive Move where
  | start (label : Label)
  | resume (index : Nat) (reply : (query : Query) → Reply query)
  | outside (event : Outside)

variable {Label State Error Query Reply Result Outside}

namespace Loop

def idle (s : State) : Loop Label State Error Query Reply Result := ⟨s, [], []⟩

/-- Take up the end of a stretch. -/
def place (loop : Loop Label State Error Query Reply Result) (label : Label)
    (cause : Option ((query : Query) × Reply query)) :
    Turn State Error Query Reply Result × State → Loop Label State Error Query Reply Result
  | (.finished outcome, s) =>
      ⟨s, loop.waiting, ⟨label, cause, loop.state, some outcome⟩ :: loop.trace⟩
  | (.waiting query next, s) =>
      ⟨s, loop.waiting ++ [⟨label, query, next⟩], ⟨label, cause, loop.state, none⟩ :: loop.trace⟩

section

variable (task : Label → Task State Error Query Reply Result) (happen : Outside → State → State)
    (loop : Loop Label State Error Query Reply Result)

/-- A reply for a task that is not there changes nothing. -/
def move : Move Label Query Reply Outside → Loop Label State Error Query Reply Result
  | .start label => loop.place label none ((task label).advance loop.state)
  | .resume index reply =>
      match loop.waiting[index]? with
      | none => loop
      | some w =>
          Loop.place ⟨loop.state, loop.waiting.eraseIdx index, loop.trace⟩ w.label
            (some ⟨w.query, reply w.query⟩) ((w.next (reply w.query)).advance loop.state)
  | .outside event => ⟨happen event loop.state, loop.waiting, loop.trace⟩

def run (loop : Loop Label State Error Query Reply Result) :
    List (Move Label Query Reply Outside) → Loop Label State Error Query Reply Result
  | [] => loop
  | m :: rest => run (loop.move task happen m) rest

/-- Every move of the schedule meets a condition on the loop it finds. -/
def Meets (guard : Loop Label State Error Query Reply Result →
    Move Label Query Reply Outside → Prop) (loop : Loop Label State Error Query Reply Result) :
    List (Move Label Query Reply Outside) → Prop
  | [] => True
  | m :: rest => guard loop m ∧ Meets guard (loop.move task happen m) rest

instance decidableMeets {guard : Loop Label State Error Query Reply Result →
    Move Label Query Reply Outside → Prop} [∀ loop m, Decidable (guard loop m)]
    (loop : Loop Label State Error Query Reply Result) :
    (moves : List (Move Label Query Reply Outside)) →
      Decidable (loop.Meets task happen guard moves)
  | [] => .isTrue trivial
  | m :: rest =>
      have : Decidable (Meets task happen guard (loop.move task happen m) rest) :=
        decidableMeets (loop.move task happen m) rest
      inferInstanceAs (Decidable (guard loop m ∧ Meets task happen guard _ rest))

end

section Rules

variable {task : Label → Task State Error Query Reply Result} {happen : Outside → State → State}
    {loop : Loop Label State Error Query Reply Result}
    {moves : List (Move Label Query Reply Outside)}
    {guard : Loop Label State Error Query Reply Result → Move Label Query Reply Outside → Prop}

/-- What every guarded move preserves holds after every guarded schedule. -/
theorem run_invariant {P : Loop Label State Error Query Reply Result → Prop}
    (hStep : ∀ loop m, guard loop m → P loop → P (loop.move task happen m))
    (hMeets : loop.Meets task happen guard moves) (hStart : P loop) :
    P (loop.run task happen moves) := by
  induction moves generalizing loop with
  | nil => exact hStart
  | cons m rest ih => exact ih hMeets.2 (hStep loop m hMeets.1 hStart)

theorem run_append (loop : Loop Label State Error Query Reply Result)
    (first second : List (Move Label Query Reply Outside)) :
    loop.run task happen (first ++ second) =
      (loop.run task happen first).run task happen second := by
  induction first generalizing loop with
  | nil => rfl
  | cons m rest ih => exact ih (loop.move task happen m)

theorem meets_append (loop : Loop Label State Error Query Reply Result)
    {first second : List (Move Label Query Reply Outside)}
    (hFirst : loop.Meets task happen guard first)
    (hSecond : (loop.run task happen first).Meets task happen guard second) :
    loop.Meets task happen guard (first ++ second) := by
  induction first generalizing loop with
  | nil => exact hSecond
  | cons m rest ih => exact ⟨hFirst.1, ih (loop.move task happen m) hFirst.2 hSecond⟩

theorem meets_true (loop : Loop Label State Error Query Reply Result)
    (moves : List (Move Label Query Reply Outside)) :
    loop.Meets task happen (fun _ _ => True) moves := by
  induction moves generalizing loop with
  | nil => trivial
  | cons m rest ih => exact ⟨trivial, ih _⟩

theorem Meets.imp {guard' : Loop Label State Error Query Reply Result →
      Move Label Query Reply Outside → Prop}
    (hGuard : ∀ loop m, guard loop m → guard' loop m)
    {loop : Loop Label State Error Query Reply Result}
    {moves : List (Move Label Query Reply Outside)} (h : loop.Meets task happen guard moves) :
    loop.Meets task happen guard' moves := by
  induction moves generalizing loop with
  | nil => trivial
  | cons m rest ih => exact ⟨hGuard loop m h.1, ih h.2⟩

variable (loop) in
/-- The stretch that a turn ends is the newest one. -/
theorem place_trace (label : Label) (cause : Option ((query : Query) × Reply query))
    (turned : Turn State Error Query Reply Result × State) :
    ∃ ended, (loop.place label cause turned).trace =
      ⟨label, cause, loop.state, ended⟩ :: loop.trace := by
  rcases turned with ⟨outcome | ⟨query, next⟩, s⟩
  · exact ⟨some outcome, rfl⟩
  · exact ⟨none, rfl⟩

variable (task happen loop) in
/-- A move runs one stretch, from the state it finds, or none. -/
theorem move_trace (m : Move Label Query Reply Outside) :
    (loop.move task happen m).trace = loop.trace ∨
      ∃ label cause ended,
        (loop.move task happen m).trace = ⟨label, cause, loop.state, ended⟩ :: loop.trace := by
  cases m with
  | outside event => exact .inl rfl
  | start label =>
      obtain ⟨ended, hTrace⟩ := loop.place_trace label none ((task label).advance loop.state)
      exact .inr ⟨label, none, ended, hTrace⟩
  | resume index reply =>
      simp only [move]
      cases loop.waiting[index]? with
      | none => exact .inl rfl
      | some w =>
          obtain ⟨ended, hTrace⟩ := place_trace
            ⟨loop.state, loop.waiting.eraseIdx index, loop.trace⟩ w.label
            (some ⟨w.query, reply w.query⟩) ((w.next (reply w.query)).advance loop.state)
          exact .inr ⟨w.label, _, ended, hTrace⟩

/-- How a turn of a task is related to what may wait afterwards. -/
def TurnsInto (Good : Waiting Label State Error Query Reply Result → Prop) (label : Label) :
    Turn State Error Query Reply Result → Prop
  | .finished _ => True
  | .waiting query next => Good ⟨label, query, next⟩

variable {Good : Waiting Label State Error Query Reply Result → Prop}

theorem place_waiting {label : Label} {cause : Option ((query : Query) × Reply query)}
    {turned : Turn State Error Query Reply Result × State}
    (hTurn : TurnsInto Good label turned.1) (hGood : ∀ w ∈ loop.waiting, Good w) :
    ∀ w ∈ (loop.place label cause turned).waiting, Good w := by
  rcases turned with ⟨outcome | ⟨query, next⟩, s⟩
  · exact hGood
  · intro w hw
    rcases List.mem_append.mp hw with hOld | hNew
    · exact hGood w hOld
    · rw [List.mem_singleton.mp hNew]
      exact hTurn

/-- A description of waiting tasks that every first stretch establishes, and
that every further one keeps up, is true of all tasks that ever wait. -/
theorem move_waiting
    (hStart : ∀ label s, TurnsInto Good label ((task label).advance s).1)
    (hNext : ∀ w reply s, Good w → TurnsInto Good w.label ((w.next reply).advance s).1)
    (m : Move Label Query Reply Outside) (hGood : ∀ w ∈ loop.waiting, Good w) :
    ∀ w ∈ (loop.move task happen m).waiting, Good w := by
  cases m with
  | start label => exact place_waiting (hStart label loop.state) hGood
  | outside event => exact hGood
  | resume index reply =>
      simp only [move]
      cases hIndex : loop.waiting[index]? with
      | none => exact hGood
      | some w =>
          have hHere := hGood w (List.mem_of_getElem? hIndex)
          refine place_waiting (hNext w _ loop.state hHere) fun v hv => ?_
          exact hGood v (List.mem_of_mem_eraseIdx hv)

/-- Taking one task out of the waiting ones. -/
theorem countP_eraseIdx {w : Waiting Label State Error Query Reply Result} {index : Nat}
    (hIndex : loop.waiting[index]? = some w)
    (p : Waiting Label State Error Query Reply Result → Bool) :
    (loop.waiting.eraseIdx index).countP p + (if p w then 1 else 0) = loop.waiting.countP p := by
  obtain ⟨hIn, rfl⟩ := List.getElem?_eq_some_iff.mp hIndex
  rw [← (List.getElem_cons_eraseIdx_perm hIn).countP_eq p, List.countP_cons]

/-- Taking out a task of which nothing is collected. -/
theorem filterMap_eraseIdx {β : Type} {f : Waiting Label State Error Query Reply Result → Option β}
    {waiting : List (Waiting Label State Error Query Reply Result)}
    {w : Waiting Label State Error Query Reply Result} {index : Nat}
    (hIndex : waiting[index]? = some w) (hNone : f w = none) :
    (waiting.eraseIdx index).filterMap f = waiting.filterMap f := by
  induction waiting generalizing index with
  | nil => rfl
  | cons first rest ih =>
      cases index with
      | zero =>
          obtain rfl := Option.some.inj hIndex
          rw [List.eraseIdx_cons_zero, List.filterMap_cons_none hNone]
      | succ index =>
          rw [List.eraseIdx_cons_succ, List.filterMap_cons, List.filterMap_cons, ih hIndex]

end Rules

end Loop

end EventLoop
