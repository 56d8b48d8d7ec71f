import Krb5TokenService.EventLoop.Descent
import Mathlib.Data.List.Sublists

/-! Tasks told apart. Two tasks may run under one label, so the starts of a
schedule are numbered, and what each of them awaits is read off the loop. -/
namespace EventLoop

variable {Label State Error Query Result Outside : Type} {Reply : Query → Type}

/-- The same schedule, each start under a number of its own. -/
def numbered (count : Nat) : List (Move Label Query Reply Outside) →
    List (Move (Nat × Label) Query Reply Outside)
  | [] => []
  | .start label :: rest => .start (count, label) :: numbered (count + 1) rest
  | .resume index reply :: rest => .resume index reply :: numbered count rest
  | .outside event :: rest => .outside event :: numbered count rest

def Waiting.forget (w : Waiting (Nat × Label) State Error Query Reply Result) :
    Waiting Label State Error Query Reply Result :=
  ⟨w.label.2, w.query, w.next⟩

def Stretch.forget (s : Stretch (Nat × Label) State Error Query Reply Result) :
    Stretch Label State Error Query Reply Result :=
  ⟨s.label.2, s.cause, s.found, s.ended⟩

namespace Loop

section Forgetting

def forget (loop : Loop (Nat × Label) State Error Query Reply Result) :
    Loop Label State Error Query Reply Result :=
  ⟨loop.state, loop.waiting.map Waiting.forget, loop.trace.map Stretch.forget⟩

variable (task : Label → Task State Error Query Reply Result) (happen : Outside → State → State)
    (loop : Loop (Nat × Label) State Error Query Reply Result)

theorem forget_place (call : Nat × Label) (cause : Option ((query : Query) × Reply query))
    (turned : Turn State Error Query Reply Result × State) :
    (loop.place call cause turned).forget = loop.forget.place call.2 cause turned := by
  rcases turned with ⟨outcome | ⟨query, next⟩, s⟩
  · rfl
  · simp [forget, place, Waiting.forget, Stretch.forget]

theorem forget_resume (index : Nat) (reply : (query : Query) → Reply query) :
    (loop.move (fun call => task call.2) happen (.resume index reply)).forget =
      loop.forget.move task happen (.resume index reply) := by
  have hHere : loop.forget.waiting[index]? = loop.waiting[index]?.map Waiting.forget :=
    List.getElem?_map ..
  simp only [move, hHere]
  cases loop.waiting[index]? with
  | none => rfl
  | some w =>
      have hRest : (loop.waiting.eraseIdx index).map Waiting.forget =
          loop.forget.waiting.eraseIdx index := (List.eraseIdx_map ..).symm
      rw [forget_place, Option.map_some]
      simp only [forget, hRest]
      rfl

/-- The numbers change nothing. -/
theorem forget_run (count : Nat) (moves : List (Move Label Query Reply Outside)) :
    (loop.run (fun call => task call.2) happen (numbered count moves)).forget =
      loop.forget.run task happen moves := by
  induction moves generalizing loop count with
  | nil => rfl
  | cons m rest ih =>
      cases m with
      | start label =>
          refine (ih _ (count + 1)).trans ?_
          rw [move, forget_place]
          rfl
      | outside event => exact ih _ count
      | resume index reply =>
          refine (ih _ count).trans ?_
          rw [forget_resume]
          rfl

end Forgetting

section Asked

variable (call : Nat) (loop : Loop (Nat × Label) State Error Query Reply Result)

/-- What a task waits for now. -/
def pending : List Query :=
  loop.waiting.filterMap fun w => if w.label.1 = call then some w.query else none

/-- What it has been told, newest first. -/
def told (trace : List (Stretch (Nat × Label) State Error Query Reply Result)) : List Query :=
  trace.filterMap fun s => if s.label.1 = call then s.cause.map Sigma.fst else none

/-- All that it has ever awaited, newest first. -/
def asked : List Query := loop.pending call ++ told call loop.trace

/-- How often it has run. -/
def stretches (trace : List (Stretch (Nat × Label) State Error Query Reply Result)) : Nat :=
  trace.countP fun s => s.label.1 = call

/-- Every task awaits what ranks lower than all that it has awaited before. -/
structure Ordered (rank : Query → Nat) (count : Nat) : Prop where
  distinct : loop.waiting.Pairwise fun v w => v.label.1 ≠ w.label.1
  waited : ∀ w ∈ loop.waiting, w.label.1 < count
  traced : ∀ s ∈ loop.trace, s.label.1 < count
  ascending : ∀ call, ((told call loop.trace).map rank).Pairwise (· < ·)
  lower : ∀ w ∈ loop.waiting, ∀ query ∈ told w.label.1 loop.trace, rank w.query < rank query
  opened : ∀ call, stretches call loop.trace ≤ (told call loop.trace).length + 1

end Asked

section Steps

variable {rank : Query → Nat} {count call : Nat}
    {task : Label → Task State Error Query Reply Result} {happen : Outside → State → State}
    {loop : Loop (Nat × Label) State Error Query Reply Result}
    {s : Stretch (Nat × Label) State Error Query Reply Result}
    {older : List (Stretch (Nat × Label) State Error Query Reply Result)}

theorem told_cons_self (s : Stretch (Nat × Label) State Error Query Reply Result)
    (older : List (Stretch (Nat × Label) State Error Query Reply Result)) :
    told s.label.1 (s :: older) = (s.cause.map Sigma.fst).toList ++ told s.label.1 older := by
  cases hCause : s.cause <;> simp [told, hCause]

theorem told_cons_of_ne (h : s.label.1 ≠ call) : told call (s :: older) = told call older := by
  simp [told, h]

theorem ascending_cons (h : ∀ call, ((told call older).map rank).Pairwise (· < ·))
    (hCause : ∀ query ∈ s.cause.map Sigma.fst, ∀ earlier ∈ told s.label.1 older,
      rank query < rank earlier) (call : Nat) :
    ((told call (s :: older)).map rank).Pairwise (· < ·) := by
  by_cases hCall : s.label.1 = call
  · subst hCall
    rw [told_cons_self]
    cases hTold : s.cause with
    | none => exact h s.label.1
    | some cause =>
        refine List.pairwise_cons.mpr ⟨fun n hn => ?_, h s.label.1⟩
        obtain ⟨earlier, hEarlier, rfl⟩ := List.mem_map.mp hn
        exact hCause cause.1 (by rw [hTold]; rfl) earlier hEarlier
  · rw [told_cons_of_ne hCall]
    exact h call

theorem opened_cons (h : ∀ call, stretches call older ≤ (told call older).length + 1)
    (hFirst : s.cause = none → stretches s.label.1 older = 0) (call : Nat) :
    stretches call (s :: older) ≤ (told call (s :: older)).length + 1 := by
  have hBefore := h call
  by_cases hCall : s.label.1 = call
  · subst hCall
    rw [told_cons_self, stretches, List.countP_cons_of_pos (by simp), List.length_append]
    cases hTold : s.cause with
    | none =>
        have hNone := hFirst hTold
        simp only [stretches] at hNone ⊢
        omega
    | some cause =>
        simp only [stretches, Option.map_some, Option.toList_some, List.length_singleton]
          at hBefore ⊢
        omega
  · rw [told_cons_of_ne hCall, stretches, List.countP_cons_of_neg (by simpa using hCall)]
    exact hBefore

/-- Nothing is known of a number that has not been given out. -/
theorem Ordered.unknown (h : loop.Ordered rank count) :
    told count loop.trace = [] ∧ stretches count loop.trace = 0 := by
  constructor
  · exact List.filterMap_eq_nil_iff.mpr fun s hs => if_neg (Nat.ne_of_lt (h.traced s hs))
  · apply List.countP_eq_zero.mpr
    intro s hs
    have hLess := h.traced s hs
    simp only [decide_eq_true_eq]
    omega

/-- A stretch keeps the order when its reply ranks lower than all earlier ones,
and what it waits for lower still. -/
theorem Ordered.place (h : loop.Ordered rank count) {count' : Nat} (hCount : count ≤ count')
    {waiting : List (Waiting (Nat × Label) State Error Query Reply Result)}
    (hWaiting : waiting.Sublist loop.waiting) {label : Nat × Label} (hLabel : label.1 < count')
    (hAlone : ∀ w ∈ waiting, w.label.1 ≠ label.1)
    {cause : Option ((query : Query) × Reply query)}
    (hFirst : cause = none → stretches label.1 loop.trace = 0)
    (hCause : ∀ query ∈ cause.map Sigma.fst, ∀ earlier ∈ told label.1 loop.trace,
      rank query < rank earlier)
    {turned : Turn State Error Query Reply Result × State}
    (hTurn : TurnsInto (fun w => ∀ earlier ∈
      (cause.map Sigma.fst).toList ++ told label.1 loop.trace, rank w.query < rank earlier)
      label turned.1) :
    (Loop.place ⟨loop.state, waiting, loop.trace⟩ label cause turned).Ordered rank count' := by
  obtain ⟨ended, hTrace⟩ := place_trace ⟨loop.state, waiting, loop.trace⟩ label cause turned
  have hSelf := told_cons_self ⟨label, cause, loop.state, ended⟩ loop.trace
  refine ⟨?distinct, ?waited, ?traced, ?ascending, ?lower, ?opened⟩
  case distinct =>
    rcases turned with ⟨outcome | ⟨query, next⟩, s⟩
    · exact h.distinct.sublist hWaiting
    · refine List.pairwise_append.mpr ⟨h.distinct.sublist hWaiting, List.pairwise_singleton .., ?_⟩
      intro v hv w hw
      obtain rfl := List.mem_singleton.mp hw
      exact hAlone v hv
  case waited =>
    apply place_waiting
    · rcases turned with ⟨outcome | ⟨query, next⟩, s⟩
      · trivial
      · exact hLabel
    · intro w hw
      exact Nat.lt_of_lt_of_le (h.waited w (hWaiting.subset hw)) hCount
  case traced =>
    rw [hTrace]
    refine List.forall_mem_cons.mpr ⟨hLabel, fun s hs => ?_⟩
    exact Nat.lt_of_lt_of_le (h.traced s hs) hCount
  case ascending =>
    rw [hTrace]
    exact ascending_cons h.ascending hCause
  case lower =>
    rw [hTrace]
    apply place_waiting
    · rcases turned with ⟨outcome | ⟨query, next⟩, s⟩
      · trivial
      · intro earlier hEarlier
        rw [hSelf] at hEarlier
        exact hTurn earlier hEarlier
    · intro w hw
      rw [told_cons_of_ne (hAlone w hw).symm]
      exact h.lower w (hWaiting.subset hw)
  case opened =>
    rw [hTrace]
    exact opened_cons h.opened hFirst

theorem Ordered.start (h : loop.Ordered rank count) (label : Label) :
    (loop.move (fun call => task call.2) happen (.start (count, label))).Ordered rank
      (count + 1) := by
  obtain ⟨hTold, hStretches⟩ := h.unknown
  refine h.place (Nat.le_succ count) (.refl _) (Nat.lt_add_one count)
    (fun w hw => Nat.ne_of_lt (h.waited w hw)) (fun _ => hStretches)
    (fun query hNone => absurd hNone (by simp)) ?_
  rcases (task label).advance loop.state with ⟨outcome | ⟨query, next⟩, s⟩
  · trivial
  · intro earlier hEarlier
    rw [hTold] at hEarlier
    exact absurd hEarlier List.not_mem_nil

/-- A task that has less left awaits what ranks lower. -/
theorem Ordered.resume (h : loop.Ordered rank count)
    (hDescends : ∀ w ∈ loop.waiting, ∀ reply s,
      TurnsInto (fun v => rank v.query < rank w.query) w.label ((w.next reply).advance s).1)
    (index : Nat) (reply : (query : Query) → Reply query) :
    (loop.move (fun call => task call.2) happen (.resume index reply)).Ordered rank count := by
  simp only [move]
  cases hIndex : loop.waiting[index]? with
  | none => exact h
  | some w =>
      have hHere := List.mem_of_getElem? hIndex
      refine h.place (Nat.le_refl count) (List.eraseIdx_sublist ..) (h.waited w hHere) ?_
        (fun hNone => absurd hNone (by simp)) ?_ ?_
      · obtain ⟨hIn, rfl⟩ := List.getElem?_eq_some_iff.mp hIndex
        have hPerm := List.getElem_cons_eraseIdx_perm hIn
        have hDistinct := (hPerm.pairwise_iff fun hNe => hNe.symm).mpr h.distinct
        exact fun v hv => ((List.pairwise_cons.mp hDistinct).1 v hv).symm
      · intro query hQuery earlier hEarlier
        obtain rfl := Option.some.inj hQuery
        exact h.lower w hHere earlier hEarlier
      · have hNext := hDescends w hHere (reply w.query) loop.state
        rcases hAdvance : (w.next (reply w.query)).advance loop.state with
          ⟨outcome | ⟨query, next⟩, s⟩
        · trivial
        · rw [hAdvance] at hNext
          intro earlier hEarlier
          rcases List.mem_append.mp hEarlier with hNow | hBefore
          · obtain rfl := List.mem_singleton.mp hNow
            exact hNext
          · exact Nat.lt_trans hNext (h.lower w hHere earlier hBefore)

end Steps

section Runs

variable {rank : Query → Nat} {count : Nat}
    {task : Label → Task State Error Query Reply Result} {happen : Outside → State → State}
    {P : Loop Label State Error Query Reply Result → Prop}
    {loop : Loop (Nat × Label) State Error Query Reply Result}

theorem Descends.forgotten {w : Waiting (Nat × Label) State Error Query Reply Result}
    (h : Descends (fun v => rank v.query) w.forget) (reply : Reply w.query) (s : State) :
    TurnsInto (fun v => rank v.query < rank w.query) w.label ((w.next reply).advance s).1 := by
  have hNext : TurnsInto (fun v => rank v.query < rank w.query) w.label.2
      ((w.next reply).advance s).1 := h.next reply s
  rcases hAdvance : (w.next reply).advance s with ⟨outcome | ⟨query, next⟩, s'⟩
  · trivial
  · rw [hAdvance] at hNext
    exact hNext

/-- Where every await leaves less to do, the awaits of every task rank lower
and lower, whatever the others do. -/
theorem run_ordered (hMove : ∀ loop m, P loop → P (loop.move task happen m))
    (hDescends : ∀ loop, P loop → ∀ w ∈ loop.waiting, Descends (fun v => rank v.query) w)
    (hOrdered : loop.Ordered rank count) (h : P loop.forget)
    (moves : List (Move Label Query Reply Outside)) :
    ∃ count', (loop.run (fun call => task call.2) happen (numbered count moves)).Ordered rank
      count' := by
  induction moves generalizing loop count with
  | nil => exact ⟨count, hOrdered⟩
  | cons m rest ih =>
      have hMoved := hMove loop.forget m h
      cases m with
      | start label =>
          refine ih (hOrdered.start label) ?_
          rw [move, forget_place]
          exact hMoved
      | outside event =>
          have hSame : (Loop.mk (happen event loop.state) loop.waiting loop.trace).Ordered rank
              count := ⟨hOrdered.distinct, hOrdered.waited, hOrdered.traced, hOrdered.ascending,
            hOrdered.lower, hOrdered.opened⟩
          exact ih hSame hMoved
      | resume index reply =>
          have hAll (w : Waiting (Nat × Label) State Error Query Reply Result)
              (hw : w ∈ loop.waiting) := hDescends _ h w.forget (List.mem_map_of_mem hw)
          refine ih (hOrdered.resume (fun w hw => (hAll w hw).forgotten) index reply) ?_
          rw [forget_resume]
          exact hMoved

end Runs

section Asking

variable {rank : Query → Nat} {count : Nat}
    {loop : Loop (Nat × Label) State Error Query Reply Result}

/-- In the order of its awaits, no two of them of one rank. -/
theorem Ordered.asked_ascending (h : loop.Ordered rank count) (call : Nat) :
    ((loop.asked call).map rank).Pairwise (· < ·) := by
  rw [asked, List.map_append]
  refine List.pairwise_append.mpr ⟨?_, h.ascending call, ?_⟩
  · apply List.pairwise_map.mpr
    apply List.pairwise_filterMap.mpr
    apply h.distinct.imp
    intro v w hNe query hQuery query' hQuery'
    obtain ⟨hCall, -⟩ := Option.ite_none_right_eq_some.mp hQuery
    obtain ⟨hCall', -⟩ := Option.ite_none_right_eq_some.mp hQuery'
    exact absurd (hCall.trans hCall'.symm) hNe
  · intro n hn m hm
    obtain ⟨query, hQuery, rfl⟩ := List.mem_map.mp hn
    obtain ⟨earlier, hEarlier, rfl⟩ := List.mem_map.mp hm
    obtain ⟨w, hw, hHere⟩ := List.mem_filterMap.mp hQuery
    obtain ⟨rfl, hSame⟩ := Option.ite_none_right_eq_some.mp hHere
    obtain rfl := Option.some.inj hSame
    exact h.lower w hw earlier hEarlier

theorem length_le_of_ascending {ranks : List Nat} {low high : Nat}
    (h : ranks.Pairwise (· < ·)) (hRange : ∀ n ∈ ranks, low < n ∧ n ≤ high) :
    ranks.length ≤ high - low := by
  have hNodup : ranks.Nodup := h.imp fun hLess => Nat.ne_of_lt hLess
  have hSubset : ranks ⊆ List.range' (low + 1) (high - low) := by
    intro n hn
    obtain ⟨hLow, hHigh⟩ := hRange n hn
    apply List.mem_range'_1.mpr
    omega
  have hLength := (List.subperm_of_subset hNodup hSubset).length_le
  rwa [List.length_range'] at hLength

section Counted

variable (h : loop.Ordered rank count) {bound : Nat}
    (hRank : ∀ query, 0 < rank query ∧ rank query ≤ bound)
include h hRank

/-- A task awaits at most one thing of each rank. -/
theorem Ordered.asked_length_le (call : Nat) : (loop.asked call).length ≤ bound := by
  have hLength := length_le_of_ascending (h.asked_ascending call) fun n hn => by
    obtain ⟨query, -, rfl⟩ := List.mem_map.mp hn
    exact hRank query
  rwa [List.length_map] at hLength

/-- And runs once more than it has been told something. -/
theorem Ordered.stretches_le (call : Nat) : stretches call loop.trace ≤ bound + 1 := by
  have hAsked := h.asked_length_le hRank call
  have hOpened := h.opened call
  rw [asked, List.length_append] at hAsked
  omega

/-- The lower it stands, the less it still has to run. -/
theorem Ordered.stretches_waiting {w : Waiting (Nat × Label) State Error Query Reply Result}
    (hw : w ∈ loop.waiting) : stretches w.label.1 loop.trace + rank w.query ≤ bound + 1 := by
  have hOpened := h.opened w.label.1
  have hHere := hRank w.query
  have hLength := length_le_of_ascending (h.ascending w.label.1) fun n hn => by
    obtain ⟨query, hQuery, rfl⟩ := List.mem_map.mp hn
    exact ⟨h.lower w hw query hQuery, (hRank query).2⟩
  rw [List.length_map] at hLength
  omega

end Counted

end Asking

end Loop

end EventLoop
