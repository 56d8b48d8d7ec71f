import Krb5TokenService.EventLoop.Split
import Mathlib.Algebra.Group.Action.Defs
import Mathlib.Algebra.Order.BigOperators.Group.List
import Mathlib.Algebra.Order.Ring.Nat

/-! Tasks that have less left to do after every await. A loop of such tasks on
which someone can always go on comes to rest, and every task that was started
has ended once. -/
namespace EventLoop.Loop

variable {Label State Error Query Result Outside : Type} {Reply : Query → Type}

section Measures

variable (left : Waiting Label State Error Query Reply Result → Nat)

/-- What all the waiting tasks have left. -/
def work (loop : Loop Label State Error Query Reply Result) : Nat :=
  (loop.waiting.map left).sum

/-- Whatever a waiting task is told, it ends or waits again with less left. -/
structure Descends (w : Waiting Label State Error Query Reply Result) : Prop where
  pos : 0 < left w
  next : ∀ reply s, TurnsInto (fun v => left v < left w) w.label ((w.next reply).advance s).1

/-- The tasks that a schedule starts. -/
def starts : List (Move Label Query Reply Outside) → Nat
  | [] => 0
  | .start _ :: rest => starts rest + 1
  | _ :: rest => starts rest

/-- The tasks that have ended. -/
def ends (loop : Loop Label State Error Query Reply Result) : Nat :=
  loop.trace.countP fun s => s.ended.isSome

end Measures

section Steps

variable {left : Waiting Label State Error Query Reply Result → Nat}
    {task : Label → Task State Error Query Reply Result} {happen : Outside → State → State}
    {loop : Loop Label State Error Query Reply Result}

variable (left) in
theorem work_eraseIdx {w : Waiting Label State Error Query Reply Result} {index : Nat}
    (hIndex : loop.waiting[index]? = some w) :
    ((loop.waiting.eraseIdx index).map left).sum + left w = loop.work left := by
  obtain ⟨hIn, rfl⟩ := List.getElem?_eq_some_iff.mp hIndex
  have hPerm := (List.getElem_cons_eraseIdx_perm hIn).map left
  rw [work, ← hPerm.sum_nat, List.map_cons, List.sum_cons, Nat.add_comm]

variable (left loop) in
theorem work_le {bound : Nat} (h : ∀ w, left w ≤ bound) :
    loop.work left ≤ bound * loop.waiting.length := by
  have hSum := List.sum_le_card_nsmul (loop.waiting.map left) bound fun n hn => by
    obtain ⟨w, -, rfl⟩ := List.mem_map.mp hn
    exact h w
  rw [List.length_map, smul_eq_mul, Nat.mul_comm] at hSum
  exact hSum

variable (loop) in
/-- A stretch after which little is left leaves little more on the loop. -/
theorem place_work {label : Label} (cause : Option ((query : Query) × Reply query))
    {turned : Turn State Error Query Reply Result × State} {bound : Nat}
    (hTurn : TurnsInto (fun w => left w ≤ bound) label turned.1) :
    (loop.place label cause turned).work left ≤ loop.work left + bound := by
  rcases turned with ⟨outcome | ⟨query, next⟩, s⟩
  · exact Nat.le_add_right _ _
  · simp only [work, place, List.map_append, List.sum_append, List.map_cons, List.map_nil,
      List.sum_cons, List.sum_nil]
    exact Nat.add_le_add_left hTurn _

theorem place_ends (label : Label) (cause : Option ((query : Query) × Reply query))
    (turned : Turn State Error Query Reply Result × State) :
    (loop.place label cause turned).ends + (loop.place label cause turned).waiting.length =
      loop.ends + loop.waiting.length + 1 := by
  rcases turned with ⟨outcome | ⟨query, next⟩, s⟩
  · simp [ends, place]
    omega
  · simp [ends, place]
    omega

variable (task happen) in
/-- A task that is told something has less left. -/
theorem Descends.move_work {w : Waiting Label State Error Query Reply Result} {index : Nat}
    (h : Descends left w) (hIndex : loop.waiting[index]? = some w)
    (reply : (query : Query) → Reply query) :
    (loop.move task happen (.resume index reply)).work left < loop.work left := by
  have hRest := work_eraseIdx left hIndex
  have hPos := h.pos
  have hTurn : TurnsInto (fun v => left v ≤ left w - 1) w.label
      ((w.next (reply w.query)).advance loop.state).1 := by
    have hNext := h.next (reply w.query) loop.state
    rcases hAdvance : (w.next (reply w.query)).advance loop.state with ⟨outcome | ⟨query, next⟩, s⟩
    · trivial
    · rw [hAdvance] at hNext
      exact Nat.le_sub_one_of_lt hNext
  have hWork := place_work ⟨loop.state, loop.waiting.eraseIdx index, loop.trace⟩
    (some ⟨w.query, reply w.query⟩) hTurn
  simp only [move, hIndex]
  refine Nat.lt_of_le_of_lt hWork ?_
  simp only [work] at hRest ⊢
  omega

variable (task happen loop) in
/-- Each start is one task more that waits or has ended. -/
theorem move_ends (m : Move Label Query Reply Outside) :
    (loop.move task happen m).ends + (loop.move task happen m).waiting.length =
      loop.ends + loop.waiting.length + starts [m] := by
  cases m with
  | start label => exact place_ends label none _
  | outside event => rfl
  | resume index reply =>
      simp only [move]
      cases hIndex : loop.waiting[index]? with
      | none => rfl
      | some w =>
          obtain ⟨hIn, -⟩ := List.getElem?_eq_some_iff.mp hIndex
          rw [place_ends]
          simp only [ends, starts, List.length_eraseIdx_of_lt hIn]
          omega

end Steps

section Runs

variable {left : Waiting Label State Error Query Reply Result → Nat}
    {task : Label → Task State Error Query Reply Result} {happen : Outside → State → State}
    {P : Loop Label State Error Query Reply Result → Prop}

theorem starts_cons (m : Move Label Query Reply Outside)
    (rest : List (Move Label Query Reply Outside)) :
    starts (m :: rest) = starts [m] + starts rest := by
  cases m with
  | start label => exact Nat.add_comm _ _
  | resume index reply => exact (Nat.zero_add _).symm
  | outside event => exact (Nat.zero_add _).symm

theorem starts_append (first second : List (Move Label Query Reply Outside)) :
    starts (first ++ second) = starts first + starts second := by
  induction first with
  | nil => exact (Nat.zero_add _).symm
  | cons m rest ih =>
      rw [List.cons_append, starts_cons, starts_cons m rest, ih, Nat.add_assoc]

/-- A move that gives some task the reply which is meant for this loop. -/
def Replying (reply : Loop Label State Error Query Reply Result → (query : Query) → Reply query)
    (loop : Loop Label State Error Query Reply Result) (m : Move Label Query Reply Outside) :
    Prop :=
  ∃ index, m = .resume index (reply loop)

theorem starts_replying
    {reply : Loop Label State Error Query Reply Result → (query : Query) → Reply query}
    {loop : Loop Label State Error Query Reply Result}
    {moves : List (Move Label Query Reply Outside)}
    (h : loop.Meets task happen (Replying reply) moves) : starts moves = 0 := by
  induction moves generalizing loop with
  | nil => rfl
  | cons m rest ih =>
      obtain ⟨⟨index, rfl⟩, hRest⟩ := h
      exact ih hRest

variable (task happen) in
/-- No task is lost, and none ends twice. -/
theorem run_ends (loop : Loop Label State Error Query Reply Result)
    (moves : List (Move Label Query Reply Outside)) :
    (loop.run task happen moves).ends + (loop.run task happen moves).waiting.length =
      loop.ends + loop.waiting.length + starts moves := by
  induction moves generalizing loop with
  | nil => rfl
  | cons m rest ih =>
      have hFirst := move_ends task happen loop m
      have hRest := ih (loop.move task happen m)
      rw [starts_cons, run]
      omega

end Runs

section Rest

variable {left : Waiting Label State Error Query Reply Result → Nat}
    {task : Label → Task State Error Query Reply Result} {happen : Outside → State → State}
    {guard : Loop Label State Error Query Reply Result → Move Label Query Reply Outside → Prop}
    {P : Loop Label State Error Query Reply Result → Prop}

/-- Where someone can always go on, everyone comes to an end, whatever the
replies are and however they depend on what has happened. -/
theorem exists_rest (hMove : ∀ loop m, guard loop m → P loop → P (loop.move task happen m))
    (hDescends : ∀ loop, P loop → ∀ w ∈ loop.waiting, Descends left w)
    (reply : Loop Label State Error Query Reply Result → (query : Query) → Reply query)
    (hReady : ∀ loop, P loop → loop.waiting ≠ [] →
      ∃ index w, loop.waiting[index]? = some w ∧ guard loop (.resume index (reply loop)))
    {loop : Loop Label State Error Query Reply Result} (h : P loop) :
    ∃ moves : List (Move Label Query Reply Outside), moves.length ≤ loop.work left ∧
      loop.Meets task happen guard moves ∧ loop.Meets task happen (Replying reply) moves ∧
      (loop.run task happen moves).waiting = [] := by
  induction hWork : loop.work left using Nat.strongRecOn generalizing loop with
  | ind n ih =>
      by_cases hNone : loop.waiting = []
      · exact ⟨[], Nat.zero_le _, trivial, trivial, hNone⟩
      obtain ⟨index, w, hIndex, hGuard⟩ := hReady loop h hNone
      have hHere := hDescends loop h w (List.mem_of_getElem? hIndex)
      have hLess := hHere.move_work task happen hIndex (reply loop)
      rw [hWork] at hLess
      obtain ⟨moves, hLength, hMeets, hReplies, hRest⟩ := ih _ hLess (hMove loop _ hGuard h) rfl
      refine ⟨_ :: moves, ?_, ⟨hGuard, hMeets⟩, ⟨⟨index, rfl⟩, hReplies⟩, hRest⟩
      rw [List.length_cons]
      omega

end Rest

end EventLoop.Loop
