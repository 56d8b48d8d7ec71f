import Krb5TokenService.EventLoop.Loop
import Mathlib.Data.Set.Lattice
import Mathlib.Order.CompletePartialOrder

/-! Tasks that share a store of cells, of which each is owned by at most one of
them. A task changes the cells it owns, and leaves those it gives up clean.
Ownership is a matter of proof: no state records it. -/
namespace EventLoop

/-- What of a state is divided among tasks. -/
structure Cells (State Cell Contents : Type) where
  look : State → Cell → Contents
  Clean : Cell → Contents → Prop

namespace Cells

variable {State Cell Contents : Type} (cells : Cells State Cell Contents)

def Same (these : Set Cell) (s t : State) : Prop := ∀ c ∈ these, cells.look t c = cells.look s c

def Tidy (these : Set Cell) (s : State) : Prop := ∀ c ∈ these, cells.Clean c (cells.look s c)

/-- Between `s` and `t` only cells of `owned` have changed, and only those of
`dirty` need cleaning. -/
structure Confined (owned dirty : Set Cell) (s t : State) : Prop where
  others : cells.Same ownedᶜ s t
  within : dirty ⊆ owned
  tidy : cells.Tidy (owned \ dirty) t

section

variable {cells} {these those owned dirty changed : Set Cell} {s t u : State}

theorem Same.refl (these : Set Cell) (s : State) : cells.Same these s s := fun _ _ => rfl

theorem Same.trans (h : cells.Same these s t) (h' : cells.Same these t u) :
    cells.Same these s u := fun c hc => (h' c hc).trans (h c hc)

theorem Same.mono (h : cells.Same these s t) (hSub : those ⊆ these) : cells.Same those s t :=
  fun c hc => h c (hSub hc)

theorem Tidy.mono (h : cells.Tidy these s) (hSub : those ⊆ these) : cells.Tidy those s :=
  fun c hc => h c (hSub hc)

theorem Tidy.same (h : cells.Tidy these s) (hSame : cells.Same these s t) :
    cells.Tidy these t := by
  intro c hc
  rw [hSame c hc]
  exact h c hc

/-- At the beginning of a stretch nothing has changed. -/
theorem Confined.start (hWithin : dirty ⊆ owned) (hTidy : cells.Tidy (owned \ dirty) s) :
    cells.Confined owned dirty s s := ⟨.refl _ s, hWithin, hTidy⟩

theorem Confined.same (h : cells.Confined owned dirty s t) (hSame : cells.Same Set.univ t u) :
    cells.Confined owned dirty s u where
  others := h.others.trans (hSame.mono (Set.subset_univ _))
  within := h.within
  tidy := h.tidy.same (hSame.mono (Set.subset_univ _))

theorem Confined.mono (h : cells.Confined owned dirty s t) (hDirty : dirty ⊆ these)
    (hWithin : these ⊆ owned) : cells.Confined owned these s t :=
  ⟨h.others, hWithin, h.tidy.mono (Set.sdiff_subset_sdiff_right hDirty)⟩

/-- An update of cells that are dirty already. -/
theorem Confined.update (h : cells.Confined owned dirty s t) (hChanged : changed ⊆ dirty)
    (hSame : cells.Same changedᶜ t u) : cells.Confined owned dirty s u where
  others := h.others.trans (hSame.mono
    (Set.compl_subset_compl.mpr (hChanged.trans h.within)))
  within := h.within
  tidy := h.tidy.same (hSame.mono fun _ hc hIn => hc.2 (hChanged hIn))

/-- An update that cleans what it changes. -/
theorem Confined.clean (h : cells.Confined owned dirty s t) (hChanged : changed ⊆ owned)
    (hSame : cells.Same changedᶜ t u) (hTidy : cells.Tidy changed u) :
    cells.Confined owned (dirty \ changed) s u where
  others := h.others.trans (hSame.mono (Set.compl_subset_compl.mpr hChanged))
  within := Set.sdiff_subset.trans h.within
  tidy := by
    intro c hc
    by_cases hIn : c ∈ changed
    · exact hTidy c hIn
    · rw [hSame c hIn]
      exact h.tidy c ⟨hc.1, fun hDirty => hc.2 ⟨hDirty, hIn⟩⟩

end

end Cells

variable {State Error Query Cell Contents : Type} {Reply : Query → Type} {α β : Type}

namespace Task

section Minding

variable (cells : Cells State Cell Contents) (grants : (query : Query) → State → Set Cell)
    (Holds : (query : Query) → Set Cell → State → Prop)

/-- From `t`, in a stretch that began in `s`, the task changes only cells it
owns. At an await it gives up all but `kept`, of which `Holds` says something;
others leave those as they are, and with the reply it is granted clean cells
that no one else owns. -/
def Minds (post : Except Error α → Set Cell → State → State → Prop) :
    Task State Error Query Reply α → Set Cell → State → State → Prop
  | .done outcome, owned, s, t => post outcome owned s t
  | .act update next, owned, s, t => (next t).Minds post owned s (update t)
  | .await query next, owned, s, t =>
      ∃ kept, cells.Confined owned kept s t ∧ Holds query kept t ∧
        ∀ r u, cells.Same kept t u → cells.Tidy (grants query u \ kept) u →
          (next r).Minds post (kept ∪ grants query u) u u

/-- Nothing that the task owned needs cleaning. -/
def Settled (_ : Except Error α) (owned : Set Cell) (s t : State) : Prop :=
  cells.Confined owned ∅ s t

/-- What is left to show of a sequence once its first part has ended. -/
def andThenMinds (f : α → Task State Error Query Reply β)
    (post : Except Error β → Set Cell → State → State → Prop) :
    Except Error α → Set Cell → State → State → Prop
  | .ok a => (f a).Minds cells grants Holds post
  | .error e => post (.error e)

def orElseMinds (handler : Error → Task State Error Query Reply α)
    (post : Except Error α → Set Cell → State → State → Prop) :
    Except Error α → Set Cell → State → State → Prop
  | .ok a => post (.ok a)
  | .error e => (handler e).Minds cells grants Holds post

variable {cells grants Holds} {task : Task State Error Query Reply α} {owned : Set Cell}
    {s t u : State}

theorem Minds.mono {post post' : Except Error α → Set Cell → State → State → Prop}
    (h : task.Minds cells grants Holds post owned s t)
    (hPost : ∀ outcome owned s t, post outcome owned s t → post' outcome owned s t) :
    task.Minds cells grants Holds post' owned s t := by
  induction task generalizing owned s t with
  | done outcome => exact hPost _ _ _ _ h
  | act update next ih => exact ih t h
  | await query next ih =>
      obtain ⟨kept, hConfined, hHolds, hNext⟩ := h
      exact ⟨kept, hConfined, hHolds, fun r u hSame hTidy => ih r (hNext r u hSame hTidy)⟩

theorem Minds.bind {f : α → Task State Error Query Reply β}
    {post : Except Error β → Set Cell → State → State → Prop}
    (h : task.Minds cells grants Holds (andThenMinds cells grants Holds f post) owned s t) :
    (task >>= f).Minds cells grants Holds post owned s t := by
  change (task.bind f).Minds cells grants Holds post owned s t
  induction task generalizing owned s t with
  | done outcome => cases outcome <;> exact h
  | act update next ih => exact ih t h
  | await query next ih =>
      obtain ⟨kept, hConfined, hHolds, hNext⟩ := h
      exact ⟨kept, hConfined, hHolds, fun r u hSame hTidy => ih r (hNext r u hSame hTidy)⟩

theorem Minds.tryCatch {handler : Error → Task State Error Query Reply α}
    {post : Except Error α → Set Cell → State → State → Prop}
    (h : task.Minds cells grants Holds (orElseMinds cells grants Holds handler post) owned s t) :
    (tryCatch task handler).Minds cells grants Holds post owned s t := by
  change (task.tryCatch handler).Minds cells grants Holds post owned s t
  induction task generalizing owned s t with
  | done outcome => cases outcome <;> exact h
  | act update next ih => exact ih t h
  | await query next ih =>
      obtain ⟨kept, hConfined, hHolds, hNext⟩ := h
      exact ⟨kept, hConfined, hHolds, fun r u hSame hTidy => ih r (hNext r u hSame hTidy)⟩

theorem Minds.andFinally {cleanup : Task State Error Query Reply Unit}
    {post : Except Error α → Set Cell → State → State → Prop}
    (h : task.Minds cells grants Holds
      (fun outcome => (cleanup >>= fun _ => ofExcept outcome).Minds cells grants Holds post)
      owned s t) :
    (task.andFinally cleanup).Minds cells grants Holds post owned s t := by
  induction task generalizing owned s t with
  | done outcome => exact h
  | act update next ih => exact ih t h
  | await query next ih =>
      obtain ⟨kept, hConfined, hHolds, hNext⟩ := h
      exact ⟨kept, hConfined, hHolds, fun r u hSame hTidy => ih r (hNext r u hSame hTidy)⟩

variable {post : Except Error α → Set Cell → State → State → Prop}

/-- A task that runs to its end at once. -/
theorem Minds.of_finished {outcome : Except Error α}
    (hAdvance : task.advance t = (.finished outcome, u)) (hPost : post outcome owned s u) :
    task.Minds cells grants Holds post owned s t := by
  induction task generalizing t with
  | done outcome' =>
      cases hAdvance
      exact hPost
  | act update next ih => exact ih t hAdvance
  | await query next ih => cases hAdvance

/-- The rest of a sequence whose first part runs to its end at once. -/
theorem Minds.step {f : α → Task State Error Query Reply β} {a : α}
    {post : Except Error β → Set Cell → State → State → Prop}
    (hAdvance : task.advance t = (.finished (.ok a), u))
    (h : (f a).Minds cells grants Holds post owned s u) :
    (task >>= f).Minds cells grants Holds post owned s t :=
  .bind (.of_finished hAdvance h)

theorem Minds.finished (h : task.Minds cells grants Holds post owned s t)
    {outcome : Except Error α} (hAdvance : task.advance t = (.finished outcome, u)) :
    post outcome owned s u := by
  induction task generalizing t with
  | done outcome' =>
      cases hAdvance
      exact h
  | act update next ih => exact ih t h hAdvance
  | await query next ih => cases hAdvance

theorem Minds.waiting (h : task.Minds cells grants Holds post owned s t) {query : Query}
    {next : Reply query → Task State Error Query Reply α}
    (hAdvance : task.advance t = (.waiting query next, u)) :
    ∃ kept, cells.Confined owned kept s u ∧ Holds query kept u ∧
      ∀ r v, cells.Same kept u v → cells.Tidy (grants query v \ kept) v →
        (next r).Minds cells grants Holds post (kept ∪ grants query v) v v := by
  induction task generalizing t with
  | done outcome => cases hAdvance
  | act update next ih => exact ih t h hAdvance
  | await query next ih =>
      cases hAdvance
      exact h

end Minding

section Calm

/-- The task awaits nothing, and each of its updates respects a relation. -/
def Calm (R : State → State → Prop) : Task State Error Query Reply α → Prop
  | .done _ => True
  | .act update next => ∀ s, R s (update s) ∧ (next s).Calm R
  | .await .. => False

variable {R : State → State → Prop} {task : Task State Error Query Reply α}

theorem calm_pure (a : α) : (pure a : Task State Error Query Reply α).Calm R := trivial

theorem calm_throw (e : Error) : (throw e : Task State Error Query Reply α).Calm R := trivial

theorem calm_ofExcept (result : Except Error α) :
    (ofExcept result : Task State Error Query Reply α).Calm R := trivial

theorem calm_modify {update : State → State} (h : ∀ s, R s (update s)) :
    (modify update : Task State Error Query Reply Unit).Calm R := fun s => ⟨h s, trivial⟩

theorem calm_get (hRefl : ∀ s, R s s) : (get : Task State Error Query Reply State).Calm R :=
  fun s => ⟨hRefl s, trivial⟩

theorem Calm.bind (h : task.Calm R) {f : α → Task State Error Query Reply β}
    (hNext : ∀ a, (f a).Calm R) : (task >>= f).Calm R := by
  change (task.bind f).Calm R
  induction task with
  | done outcome =>
      cases outcome with
      | ok a => exact hNext a
      | error e => trivial
  | act update next ih => exact fun s => ⟨(h s).1, ih s (h s).2⟩
  | await query next ih => exact h.elim

theorem Calm.tryCatch (h : task.Calm R) {handler : Error → Task State Error Query Reply α}
    (hHandler : ∀ e, (handler e).Calm R) : (tryCatch task handler).Calm R := by
  change (task.tryCatch handler).Calm R
  induction task with
  | done outcome =>
      cases outcome with
      | ok a => trivial
      | error e => exact hHandler e
  | act update next ih => exact fun s => ⟨(h s).1, ih s (h s).2⟩
  | await query next ih => exact h.elim

variable [IsPreorder State R] {cells : Cells State Cell Contents}
    {grants : (query : Query) → State → Set Cell}
    {Holds : (query : Query) → Set Cell → State → Prop} {owned : Set Cell} {s t : State}
    {post : Except Error α → Set Cell → State → State → Prop}

theorem Minds.of_calm (hCalm : task.Calm R) (h : ∀ outcome u, R t u → post outcome owned s u) :
    task.Minds cells grants Holds post owned s t := by
  induction task generalizing t with
  | done outcome => exact h outcome t (refl t)
  | act update next ih =>
      exact ih t (hCalm t).2 fun outcome u hu => h outcome u (IsTrans.trans _ _ _ (hCalm t).1 hu)
  | await query next ih => exact hCalm.elim

end Calm

end Task

namespace Loop

variable {Label Result Outside : Type} (cells : Cells State Cell Contents)
    (grants : Label → (query : Query) → State → Set Cell)
    (Holds : Label → (query : Query) → Set Cell → State → Prop)

/-- A waiting task that owns these cells. -/
structure Owned (w : Waiting Label State Error Query Reply Result) (owned : Set Cell) (s : State) :
    Prop where
  holds : Holds w.label w.query owned s
  next : ∀ r u, cells.Same owned s u → cells.Tidy (grants w.label w.query u \ owned) u →
    (w.next r).Minds cells (grants w.label) (Holds w.label) (Task.Settled cells)
      (owned ∪ grants w.label w.query u) u u

/-- The cells that no one owns. -/
def unowned (holders : List (Waiting Label State Error Query Reply Result × Set Cell)) :
    Set Cell := {c | ∀ h ∈ holders, c ∉ h.2}

/-- The waiting tasks are these, and their cells are divided as it says here. -/
structure Divided (loop : Loop Label State Error Query Reply Result)
    (holders : List (Waiting Label State Error Query Reply Result × Set Cell)) : Prop where
  waiting : loop.waiting = holders.map Prod.fst
  owned : ∀ h ∈ holders, Owned cells grants Holds h.1 h.2 loop.state
  apart : holders.Pairwise fun h h' => Disjoint h.2 h'.2
  tidy : cells.Tidy (unowned holders) loop.state

variable {cells grants Holds} {loop : Loop Label State Error Query Reply Result}
    {holders : List (Waiting Label State Error Query Reply Result × Set Cell)}

theorem idle_divided (s : State) (hTidy : cells.Tidy Set.univ s) :
    (idle s : Loop Label State Error Query Reply Result).Divided cells grants Holds [] :=
  ⟨rfl, fun _ h => absurd h List.not_mem_nil, .nil, hTidy.mono (Set.subset_univ _)⟩

variable (hStable : ∀ label query owned s t, cells.Same owned s t →
  Holds label query owned s → Holds label query owned t)
include hStable

theorem Owned.same {w : Waiting Label State Error Query Reply Result} {owned : Set Cell}
    {s t : State} (h : Owned cells grants Holds w owned s) (hSame : cells.Same owned s t) :
    Owned cells grants Holds w owned t :=
  ⟨hStable _ _ _ _ _ hSame h.holds, fun r u hNext => h.next r u (hSame.trans hNext)⟩

/-- What happens outside concerns no cell. -/
theorem Divided.unchanged (h : loop.Divided cells grants Holds holders) {t : State}
    (hSame : cells.Same Set.univ loop.state t) :
    Divided cells grants Holds ⟨t, loop.waiting, loop.trace⟩ holders where
  waiting := h.waiting
  owned held hHeld := (h.owned held hHeld).same hStable (hSame.mono (Set.subset_univ _))
  apart := h.apart
  tidy := h.tidy.same (hSame.mono (Set.subset_univ _))

/-- One stretch of a task that owns cells no one else does. -/
theorem Divided.place {others : List (Waiting Label State Error Query Reply Result × Set Cell)}
    {label : Label} {cause : Option ((query : Query) × Reply query)} {owned : Set Cell}
    {task : Task State Error Query Reply Result}
    (hWaiting : loop.waiting = others.map Prod.fst)
    (hOwned : ∀ h ∈ others, Owned cells grants Holds h.1 h.2 loop.state)
    (hApart : others.Pairwise fun h h' => Disjoint h.2 h'.2)
    (hOthers : ∀ h ∈ others, Disjoint h.2 owned)
    (hTidy : cells.Tidy (unowned others \ owned) loop.state)
    (hMinds : task.Minds cells (grants label) (Holds label) (Task.Settled cells) owned loop.state
      loop.state) :
    ∃ holders, (loop.place label cause (task.advance loop.state)).Divided cells grants Holds
      holders := by
  have hKept {kept : Set Cell} {t : State} (hConfined : cells.Confined owned kept loop.state t) :
      (∀ h ∈ others, Owned cells grants Holds h.1 h.2 t) ∧
        cells.Tidy (unowned others \ kept) t := by
    constructor
    · intro h hIn
      refine (hOwned h hIn).same hStable (hConfined.others.mono ?_)
      exact (hOthers h hIn).subset_compl_right
    · intro c hc
      by_cases hMine : c ∈ owned
      · exact hConfined.tidy c ⟨hMine, hc.2⟩
      · rw [hConfined.others c hMine]
        exact hTidy c ⟨hc.1, hMine⟩
  rcases hAdvance : task.advance loop.state with ⟨outcome | ⟨query, next⟩, t⟩
  · obtain ⟨hHeld, hClean⟩ := hKept (hMinds.finished hAdvance)
    rw [Set.sdiff_empty] at hClean
    exact ⟨others, hWaiting, hHeld, hApart, hClean⟩
  · obtain ⟨kept, hConfined, hHolds, hNext⟩ := hMinds.waiting hAdvance
    obtain ⟨hHeld, hClean⟩ := hKept hConfined
    refine ⟨others ++ [(⟨label, query, next⟩, kept)], ?_, ?_, ?_, ?_⟩
    · rw [List.map_append, ← hWaiting]
      rfl
    · intro h hIn
      rcases List.mem_append.mp hIn with hOld | hNew
      · exact hHeld h hOld
      · obtain rfl := List.mem_singleton.mp hNew
        exact ⟨hHolds, hNext⟩
    · refine List.pairwise_append.mpr ⟨hApart, List.pairwise_singleton _ _, ?_⟩
      intro h hIn h' hNew
      obtain rfl := List.mem_singleton.mp hNew
      exact (hOthers h hIn).mono_right hConfined.within
    · refine hClean.mono fun c hc => ⟨fun h hIn => hc h (List.mem_append_left _ hIn), ?_⟩
      exact hc (⟨label, query, next⟩, kept) (List.mem_append_right _ (List.mem_singleton_self _))

variable {task : Label → Task State Error Query Reply Result} {happen : Outside → State → State}
    {guard : Loop Label State Error Query Reply Result → Move Label Query Reply Outside → Prop}

/-- In every schedule whose replies grant only cells that no one else owns,
each cell is owned by at most one waiting task, and clean if it is owned by
none. -/
theorem run_divided
    (hTasks : ∀ loop label, guard loop (.start label) →
      (task label).Minds cells (grants label) (Holds label) (Task.Settled cells) ∅ loop.state
        loop.state)
    (hOutside : ∀ event s, cells.Same Set.univ s (happen event s))
    (hGrants : ∀ loop index reply w, guard loop (.resume index reply) →
      loop.waiting[index]? = some w → ∀ v ∈ loop.waiting.eraseIdx index, ∀ owned,
        Holds v.label v.query owned loop.state →
          Disjoint owned (grants w.label w.query loop.state))
    {moves : List (Move Label Query Reply Outside)}
    (hMeets : loop.Meets task happen guard moves)
    (hStart : loop.Divided cells grants Holds holders) :
    ∃ holders, (loop.run task happen moves).Divided cells grants Holds holders := by
  refine run_invariant (P := fun loop => ∃ holders, loop.Divided cells grants Holds holders)
    (fun loop m hGuard hDivided => ?_) hMeets ⟨holders, hStart⟩
  obtain ⟨holders, h⟩ := hDivided
  cases m with
  | outside event => exact ⟨holders, h.unchanged hStable (hOutside event loop.state)⟩
  | start label =>
      refine Divided.place hStable h.waiting h.owned h.apart (fun _ _ => Set.disjoint_empty _)
        ?_ (hTasks loop label hGuard)
      rw [Set.sdiff_empty]
      exact h.tidy
  | resume index reply =>
      simp only [move]
      cases hIndex : loop.waiting[index]? with
      | none => exact ⟨holders, h⟩
      | some w =>
          have hHolder := hIndex
          rw [h.waiting, List.getElem?_map] at hHolder
          obtain ⟨⟨w', owned⟩, hHere, rfl⟩ := Option.map_eq_some_iff.mp hHolder
          obtain ⟨hIn, hEq⟩ := List.getElem?_eq_some_iff.mp hHere
          have hPerm := List.getElem_cons_eraseIdx_perm hIn
          rw [hEq] at hPerm
          obtain ⟨hMine, hRest⟩ := List.pairwise_cons.mp
            ((hPerm.symm.pairwise_iff fun h => Disjoint.symm h).mp h.apart)
          have hLeft : loop.waiting.eraseIdx index = (holders.eraseIdx index).map Prod.fst := by
            rw [h.waiting, List.eraseIdx_map]
          have hGranted : ∀ held ∈ holders.eraseIdx index,
              Disjoint held.2 (grants w'.label w'.query loop.state) := by
            intro held hHeld
            refine hGrants loop index reply w' hGuard hIndex held.1 ?_ held.2
              (h.owned held (List.mem_of_mem_eraseIdx hHeld)).holds
            rw [hLeft]
            exact List.mem_map_of_mem hHeld
          have hUnowned : ∀ c, c ∉ owned → (∀ held ∈ holders.eraseIdx index, c ∉ held.2) →
              cells.Clean c (cells.look loop.state c) := by
            intro c hNotMine hNotTheirs
            refine h.tidy c fun held hHeld => ?_
            rcases List.mem_cons.mp (hPerm.mem_iff.mpr hHeld) with rfl | hOther
            · exact hNotMine
            · exact hNotTheirs held hOther
          refine Divided.place hStable hLeft
            (fun held hHeld => h.owned held (List.mem_of_mem_eraseIdx hHeld)) hRest
            (fun held hHeld =>
              Set.disjoint_union_right.mpr ⟨(hMine held hHeld).symm, hGranted held hHeld⟩) ?_
            ((h.owned (w', owned) (List.mem_of_getElem? hHere)).next (reply w'.query) loop.state
              (.refl _ _) ?_)
          · intro c hc
            exact hUnowned c (fun hMine => hc.2 (.inl hMine)) hc.1
          · intro c hc
            refine hUnowned c hc.2 fun held hHeld hTheirs => ?_
            exact Set.disjoint_left.mp (hGranted held hHeld) hTheirs hc.1

end Loop

end EventLoop
