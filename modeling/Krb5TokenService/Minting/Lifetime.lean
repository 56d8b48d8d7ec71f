import Krb5TokenService.Minting.Classify
import Krb5TokenService.Python.RegexLanguage
import Mathlib.Data.List.TakeWhile
import Mathlib.Data.Nat.Digits.Defs

/-! The durations that `validate_lifetime` accepts: those of the documented
forms, written with any decimal digits of Unicode. -/
namespace Krb5TokenService.Minting

open Python

/-- A duration as it is written, by its runs of digits: plain seconds, `h:m`
or `h:m:s`, or some of `NdNhNmNs` in that order. -/
inductive Duration where
  | plain (count : PyStr)
  | clock (hours minutes : PyStr) (seconds : Option PyStr)
  | units (days hours minutes seconds : Option PyStr)

/-- A non-empty run of digits. -/
def Digits (digit : CodePoint → Bool) (run : PyStr) : Prop :=
  run ≠ [] ∧ ∀ c ∈ run, digit c = true

/-- The run of one unit, with the letter of the unit behind it. -/
def unitText (unit : CodePoint) : Option PyStr → PyStr
  | none => []
  | some run => run ++ [unit]

namespace Duration

def text : Duration → PyStr
  | .plain count => count
  | .clock hours minutes none => hours ++ 0x3A :: minutes
  | .clock hours minutes (some seconds) => hours ++ 0x3A :: (minutes ++ 0x3A :: seconds)
  | .units days hours minutes seconds =>
      unitText 0x64 days ++ unitText 0x68 hours ++ unitText 0x6D minutes ++ unitText 0x73 seconds

/-- The runs are digits, as many as the form allows, and there is one. -/
def WellFormed (digit : CodePoint → Bool) : Duration → Prop
  | .plain count => Digits digit count
  | .clock hours minutes seconds =>
      (Digits digit hours ∧ hours.length ≤ 3) ∧ (Digits digit minutes ∧ minutes.length = 2) ∧
        ∀ run ∈ seconds, Digits digit run ∧ run.length = 2
  | .units days hours minutes seconds =>
      (∃ run, run ∈ days ∨ run ∈ hours ∨ run ∈ minutes ∨ run ∈ seconds) ∧
        ∀ run, run ∈ days ∨ run ∈ hours ∨ run ∈ minutes ∨ run ∈ seconds → Digits digit run

end Duration

/-- A string of one of the documented forms, over a class of digits. -/
def IsDuration (digit : CodePoint → Bool) (value : PyStr) : Prop :=
  ∃ duration : Duration, duration.WellFormed digit ∧ duration.text = value

section Reads

variable {run : PyStr}

theorem digits_reads : digits.Reads run ↔ Digits isDigit run := by
  simp only [digits, Regex.Reads, Digits, Option.mem_def, reduceCtorEq, false_implies,
    implies_true, and_true, Nat.one_le_iff_ne_zero, ne_eq, List.length_eq_zero_iff]
  exact and_comm

theorem literal_reads {c : CodePoint} : (literal c).Reads run ↔ run = [c] := by
  simp [literal, Regex.Reads]

theorem twoDigits_reads : twoDigits.Reads run ↔ Digits isDigit run ∧ run.length = 2 := by
  simp only [twoDigits, Regex.Reads, Digits, Option.mem_def, Option.some.injEq, forall_eq']
  grind

theorem component_reads {unit : CodePoint} :
    (component unit).Reads run ↔
      ∃ part : Option PyStr,
        (∀ digits ∈ part, Digits isDigit digits) ∧ run = unitText unit part := by
  simp only [component, Regex.Reads, digits_reads, literal_reads]
  constructor
  · rintro (⟨digits, _, rfl, hDigits, rfl⟩ | rfl)
    · exact ⟨some digits, by simpa using hDigits, rfl⟩
    · exact ⟨none, by simp, rfl⟩
  · rintro ⟨part, hPart, rfl⟩
    cases part with
    | none => exact .inr rfl
    | some digits => exact .inl ⟨digits, _, rfl, hPart digits rfl, rfl⟩

end Reads

section Alternatives

variable {value : PyStr}

/-- `\d{1,3}:\d{2}(?::\d{2})?$`. -/
def clockRe : Regex CodePoint :=
  .seq (.repeat isDigit 1 (some 3)) (.seq (literal 0x3A) (.seq twoDigits
    (.seq (.optional (.seq (literal 0x3A) twoDigits)) .finish)))

/-- `(?:\d+d)?(?:\d+h)?(?:\d+m)?(?:\d+s)?$`. -/
def unitsRe : Regex CodePoint :=
  .seq (component 0x64) (.seq (component 0x68) (.seq (component 0x6D)
    (.seq (component 0x73) .finish)))

theorem lifetimeRe_alternatives :
    lifetimeRe = .alt (.seq .start (.seq digits .finish))
      (.alt (.seq .start clockRe) (.seq .start unitsRe)) := rfl

theorem plain_reads : (Regex.seq digits .finish).Reads value ↔
    ∃ count, (Duration.plain count).WellFormed isDigit ∧
      (Duration.plain count).text = value := by
  simp only [Regex.Reads, digits_reads, Duration.WellFormed, Duration.text]
  constructor
  · rintro ⟨count, _, rfl, hCount, rfl⟩
    exact ⟨count, hCount, by simp⟩
  · rintro ⟨count, hCount, rfl⟩
    exact ⟨count, [], by simp, hCount, rfl⟩

theorem clockRe_reads : clockRe.Reads value ↔
    ∃ hours minutes seconds, (Duration.clock hours minutes seconds).WellFormed isDigit ∧
      (Duration.clock hours minutes seconds).text = value := by
  have hHours {run : PyStr} : (Regex.repeat isDigit 1 (some 3)).Reads run ↔
      Digits isDigit run ∧ run.length ≤ 3 := by
    simp only [Regex.Reads, Digits, Option.mem_def, Option.some.injEq, forall_eq',
      Nat.one_le_iff_ne_zero, ne_eq, List.length_eq_zero_iff]
    grind
  simp only [clockRe, Regex.Reads] at hHours ⊢
  simp only [hHours, literal_reads, twoDigits_reads, Duration.WellFormed]
  constructor
  · rintro ⟨hours, _, rfl, hHours, _, _, rfl, rfl, minutes, _, rfl, hMinutes, _, _, rfl,
      hSeconds, rfl⟩
    rcases hSeconds with ⟨_, seconds, rfl, rfl, hSeconds⟩ | rfl
    · exact ⟨hours, minutes, some seconds, ⟨hHours, hMinutes, by simpa using hSeconds⟩,
        by simp [Duration.text]⟩
    · exact ⟨hours, minutes, none, ⟨hHours, hMinutes, by simp⟩, by simp [Duration.text]⟩
  · rintro ⟨hours, minutes, seconds, ⟨hHours, hMinutes, hSeconds⟩, rfl⟩
    cases seconds with
    | none =>
        exact ⟨hours, _, rfl, hHours, [0x3A], minutes, rfl, rfl, minutes, [], by simp, hMinutes,
          [], [], rfl, .inr rfl, rfl⟩
    | some seconds =>
        exact ⟨hours, _, rfl, hHours, [0x3A], minutes ++ 0x3A :: seconds, rfl, rfl, minutes,
          0x3A :: seconds, rfl, hMinutes, 0x3A :: seconds, [], by simp,
          .inl ⟨[0x3A], seconds, rfl, rfl, hSeconds seconds rfl⟩, rfl⟩

theorem unitText_eq_nil {unit : CodePoint} {part : Option PyStr} :
    unitText unit part = [] ↔ part = none := by
  cases part <;> simp [unitText]

theorem unitsRe_reads (hNonempty : value ≠ []) : unitsRe.Reads value ↔
    ∃ days hours minutes seconds,
      (Duration.units days hours minutes seconds).WellFormed isDigit ∧
        (Duration.units days hours minutes seconds).text = value := by
  simp only [unitsRe, Regex.Reads, component_reads, Duration.WellFormed]
  constructor
  · rintro ⟨_, _, rfl, ⟨days, hDays, rfl⟩, _, _, rfl, ⟨hours, hHours, rfl⟩, _, _, rfl,
      ⟨minutes, hMinutes, rfl⟩, _, _, rfl, ⟨seconds, hSeconds, rfl⟩, rfl⟩
    refine ⟨days, hours, minutes, seconds, ⟨?_, ?_⟩, by simp [Duration.text]⟩
    · by_contra hNone
      simp only [not_exists, not_or, Option.mem_def, ← Option.eq_none_iff_forall_ne_some,
        forall_and] at hNone
      exact hNonempty (by simp [hNone, unitText])
    · rintro run (hRun | hRun | hRun | hRun)
      · exact hDays run hRun
      · exact hHours run hRun
      · exact hMinutes run hRun
      · exact hSeconds run hRun
  · rintro ⟨days, hours, minutes, seconds, ⟨-, hDigits⟩, rfl⟩
    exact ⟨_, _, by rw [Duration.text, List.append_assoc, List.append_assoc],
      ⟨days, fun run h => hDigits run (.inl h), rfl⟩, _, _, rfl,
      ⟨hours, fun run h => hDigits run (.inr (.inl h)), rfl⟩, _, _, rfl,
      ⟨minutes, fun run h => hDigits run (.inr (.inr (.inl h))), rfl⟩, _, [], by simp,
      ⟨seconds, fun run h => hDigits run (.inr (.inr (.inr h))), rfl⟩, rfl⟩

end Alternatives

section Accepted

variable {value : PyStr}

theorem isDuration_iff {digit : CodePoint → Bool} :
    IsDuration digit value ↔
      (∃ count, (Duration.plain count).WellFormed digit ∧ (Duration.plain count).text = value) ∨
      (∃ hours minutes seconds, (Duration.clock hours minutes seconds).WellFormed digit ∧
        (Duration.clock hours minutes seconds).text = value) ∨
      ∃ days hours minutes seconds,
        (Duration.units days hours minutes seconds).WellFormed digit ∧
          (Duration.units days hours minutes seconds).text = value := by
  constructor
  · rintro ⟨duration, h⟩
    cases duration with
    | plain count => exact .inl ⟨count, h⟩
    | clock hours minutes seconds => exact .inr (.inl ⟨hours, minutes, seconds, h⟩)
    | units days hours minutes seconds => exact .inr (.inr ⟨days, hours, minutes, seconds, h⟩)
  · rintro (⟨count, h⟩ | ⟨hours, minutes, seconds, h⟩ | ⟨days, hours, minutes, seconds, h⟩)
    · exact ⟨_, h⟩
    · exact ⟨_, h⟩
    · exact ⟨_, h⟩

theorem isDuration_nonempty {digit : CodePoint → Bool} (h : IsDuration digit value) :
    value ≠ [] := by
  obtain ⟨duration, hForm, rfl⟩ := h
  cases duration with
  | plain count => exact hForm.1
  | clock hours minutes seconds => cases seconds <;> simp [Duration.text]
  | units days hours minutes seconds =>
      obtain ⟨⟨run, hSome⟩, -⟩ := hForm
      intro hEmpty
      simp only [Duration.text, List.append_eq_nil_iff, unitText_eq_nil] at hEmpty
      simp [hEmpty] at hSome

/-- The validator accepts a string exactly when it has one of the documented
forms, over the digits of Unicode. -/
theorem validateLifetime_ok_iff : validateLifetime value = .ok () ↔ IsDuration isDigit value := by
  have hShape : validateLifetime value = .ok () ↔
      value ≠ [] ∧ lifetimeRe.fullmatch isNewline value = true := by
    unfold validateLifetime
    split
    · next h => simp [h]
    · next h => simp [h]
  rw [hShape, lifetimeRe_alternatives, Regex.fullmatch_alt_iff, Regex.fullmatch_alt_iff,
    Regex.fullmatch_start_iff rfl, Regex.fullmatch_start_iff rfl, Regex.fullmatch_start_iff rfl]
  constructor
  · rintro ⟨hNonempty, hPlain | hClock | hUnits⟩
    · exact isDuration_iff.mpr (.inl (plain_reads.mp hPlain))
    · exact isDuration_iff.mpr (.inr (.inl (clockRe_reads.mp hClock)))
    · exact isDuration_iff.mpr (.inr (.inr ((unitsRe_reads hNonempty).mp hUnits)))
  · intro h
    refine ⟨isDuration_nonempty h, ?_⟩
    rcases isDuration_iff.mp h with hPlain | hClock | hUnits
    · exact .inl (plain_reads.mpr hPlain)
    · exact .inr (.inl (clockRe_reads.mpr hClock))
    · exact .inr (.inr ((unitsRe_reads (isDuration_nonempty h)).mpr hUnits))

end Accepted

section Reading

/-- A run of digits with this unit at the start of a text, and what follows. -/
def readUnit (unit : CodePoint) (text : PyStr) : Option PyStr × PyStr :=
  match text.dropWhile isDigit with
  | [] => (none, text)
  | c :: rest => if c = unit then (some (text.takeWhile isDigit), rest) else (none, text)

/-- The duration that a string writes. -/
def Duration.read (text : PyStr) : Duration :=
  match text.dropWhile isDigit with
  | [] => .plain text
  | c :: rest =>
      if c = 0x3A then
        match rest.dropWhile isDigit with
        | [] => .clock (text.takeWhile isDigit) rest none
        | _ :: seconds => .clock (text.takeWhile isDigit) (rest.takeWhile isDigit) (some seconds)
      else
        let days := readUnit 0x64 text
        let hours := readUnit 0x68 days.2
        let minutes := readUnit 0x6D hours.2
        let seconds := readUnit 0x73 minutes.2
        .units days.1 hours.1 minutes.1 seconds.1

variable {run : PyStr} {c : CodePoint} (rest : PyStr)

theorem takeWhile_digits (hRun : Digits isDigit run) (hStop : isDigit c = false) :
    (run ++ c :: rest).takeWhile isDigit = run := by
  rw [List.takeWhile_append_of_pos hRun.2]
  simp [hStop]

theorem dropWhile_digits (hRun : Digits isDigit run) (hStop : isDigit c = false) :
    (run ++ c :: rest).dropWhile isDigit = c :: rest := by
  rw [List.dropWhile_append_of_pos hRun.2]
  simp [hStop]

theorem dropWhile_allDigits (hRun : Digits isDigit run) : run.dropWhile isDigit = [] :=
  List.dropWhile_eq_nil_iff.mpr hRun.2

/-- The first character of a text that is no digit. -/
def stop (text : PyStr) : Option CodePoint := (text.dropWhile isDigit).head?

theorem stop_unitText {unit : CodePoint} {part : Option PyStr}
    (hPart : ∀ run ∈ part, Digits isDigit run) (hUnit : isDigit unit = false) :
    stop (unitText unit part ++ rest) = if part.isSome then some unit else stop rest := by
  cases part with
  | none => rfl
  | some run => simp [unitText, stop, dropWhile_digits rest (hPart run rfl) hUnit]

theorem readUnit_unitText {unit : CodePoint} {part : Option PyStr}
    (hPart : ∀ run ∈ part, Digits isDigit run) (hUnit : isDigit unit = false)
    (hRest : stop rest ≠ some unit) :
    readUnit unit (unitText unit part ++ rest) = (part, rest) := by
  cases part with
  | none =>
      unfold stop at hRest
      unfold readUnit
      rw [show unitText unit none ++ rest = rest from rfl]
      split
      · rfl
      · next c tail hDrop =>
          rw [hDrop] at hRest
          rw [if_neg (fun hSame => hRest (by rw [hSame]; rfl))]
  | some run =>
      have hText : unitText unit (some run) ++ rest = run ++ unit :: rest := by simp [unitText]
      rw [hText, readUnit, dropWhile_digits rest (hPart run rfl) hUnit]
      simp [takeWhile_digits rest (hPart run rfl) hUnit]

/-- Some units with their runs of digits, one after the other. -/
def unitsText : List (CodePoint × Option PyStr) → PyStr
  | [] => []
  | part :: parts => unitText part.1 part.2 ++ unitsText parts

def UnitParts (parts : List (CodePoint × Option PyStr)) : Prop :=
  ∀ part ∈ parts, isDigit part.1 = false ∧ ∀ run ∈ part.2, Digits isDigit run

variable {part : CodePoint × Option PyStr} {parts : List (CodePoint × Option PyStr)}

theorem UnitParts.tail (h : UnitParts (part :: parts)) : UnitParts parts :=
  fun other hMem => h other (List.mem_cons_of_mem part hMem)

/-- What stops the first run is the first unit with one. -/
theorem stop_unitsText (h : UnitParts parts) :
    stop (unitsText parts) = (parts.find? (·.2.isSome)).map Prod.fst := by
  induction parts with
  | nil => rfl
  | cons part parts ih =>
      obtain ⟨hUnit, hRun⟩ := h part List.mem_cons_self
      rw [unitsText, stop_unitText _ hRun hUnit, ih h.tail]
      cases hPart : part.2 with
      | none => simp [hPart]
      | some run => simp [hPart]

theorem mem_of_stop (h : UnitParts parts) (hStop : stop (unitsText parts) = some c) :
    c ∈ parts.map Prod.fst := by
  rw [stop_unitsText h, Option.map_eq_some_iff] at hStop
  obtain ⟨part, hFind, rfl⟩ := hStop
  exact List.mem_map_of_mem (List.mem_of_find?_eq_some hFind)

theorem readUnit_unitsText (h : UnitParts (part :: parts)) (hNew : part.1 ∉ parts.map Prod.fst) :
    readUnit part.1 (unitsText (part :: parts)) = (part.2, unitsText parts) := by
  obtain ⟨hUnit, hRun⟩ := h part List.mem_cons_self
  exact readUnit_unitText _ hRun hUnit fun hStop => hNew (mem_of_stop h.tail hStop)

/-- Every well-formed duration is read back from its text, so no string writes
two of them. -/
theorem Duration.read_text {duration : Duration} (h : duration.WellFormed isDigit) :
    Duration.read duration.text = duration := by
  have hColon : isDigit 0x3A = false := by decide
  cases duration with
  | plain count => rw [text, read, dropWhile_allDigits h]
  | clock hours minutes seconds =>
      obtain ⟨⟨hHours, -⟩, ⟨hMinutes, -⟩, hSeconds⟩ := h
      cases seconds with
      | none =>
          simp [text, read, dropWhile_digits _ hHours hColon, takeWhile_digits _ hHours hColon,
            dropWhile_allDigits hMinutes]
      | some seconds =>
          simp [text, read, dropWhile_digits _ hHours hColon, takeWhile_digits _ hHours hColon,
            dropWhile_digits _ hMinutes hColon, takeWhile_digits _ hMinutes hColon]
  | units days hours minutes seconds =>
      obtain ⟨hSome, hDigits⟩ := h
      have hText : text (.units days hours minutes seconds) =
          unitsText [(0x64, days), (0x68, hours), (0x6D, minutes), (0x73, seconds)] := by
        simp [text, unitsText]
      have hParts : UnitParts
          [(0x64, days), (0x68, hours), (0x6D, minutes), (0x73, seconds)] := by
        simp only [UnitParts, List.forall_mem_cons, List.not_mem_nil, false_implies,
          implies_true, and_true]
        exact ⟨⟨by decide, fun run h => hDigits run (.inl h)⟩,
          ⟨by decide, fun run h => hDigits run (.inr (.inl h))⟩,
          ⟨by decide, fun run h => hDigits run (.inr (.inr (.inl h)))⟩,
          by decide, fun run h => hDigits run (.inr (.inr (.inr h)))⟩
      -- no clock: the first run is stopped by a unit
      obtain ⟨c, tail, hDrop, hUnit⟩ : ∃ c tail, (unitsText
          [(0x64, days), (0x68, hours), (0x6D, minutes), (0x73, seconds)]).dropWhile isDigit =
            c :: tail ∧ c ≠ 0x3A := by
        cases hStop : stop (unitsText
            [(0x64, days), (0x68, hours), (0x6D, minutes), (0x73, seconds)]) with
        | none =>
            rw [stop_unitsText hParts, Option.map_eq_none_iff] at hStop
            obtain ⟨run, hRun⟩ := hSome
            simp only [List.find?_eq_none, List.forall_mem_cons, Option.not_isSome_iff_eq_none]
              at hStop
            obtain ⟨rfl, rfl, rfl, rfl, -⟩ := hStop
            simp at hRun
        | some c =>
            obtain ⟨tail, hDrop⟩ := List.head?_eq_some_iff.mp hStop
            refine ⟨c, tail, hDrop, ?_⟩
            rintro rfl
            exact absurd (mem_of_stop hParts hStop) (by simp)
      rw [hText, read, hDrop]
      simp only [hUnit, if_false, readUnit_unitsText hParts (by simp),
        readUnit_unitsText hParts.tail (by simp), readUnit_unitsText hParts.tail.tail (by simp),
        readUnit_unitsText hParts.tail.tail.tail (by simp)]

end Reading

section Characters

/-- The runs of digits of a duration. -/
def Duration.runs : Duration → List PyStr
  | .plain count => [count]
  | .clock hours minutes seconds => hours :: minutes :: seconds.toList
  | .units days hours minutes seconds =>
      days.toList ++ hours.toList ++ minutes.toList ++ seconds.toList

/-- What stands between and behind the runs. -/
def separators : List CodePoint := [0x3A, 0x64, 0x68, 0x6D, 0x73]

variable {duration : Duration} {digit digit' : CodePoint → Bool} {c : CodePoint}

theorem Duration.WellFormed.runs (h : duration.WellFormed digit) :
    ∀ run ∈ duration.runs, Digits digit run := by
  cases duration with
  | plain count =>
      intro run hRun
      obtain rfl := List.mem_singleton.mp hRun
      exact h
  | clock hours minutes seconds =>
      obtain ⟨⟨hHours, -⟩, ⟨hMinutes, -⟩, hSeconds⟩ := h
      intro run hRun
      simp only [Duration.runs, List.mem_cons, Option.mem_toList] at hRun
      rcases hRun with rfl | rfl | hRun
      · exact hHours
      · exact hMinutes
      · exact (hSeconds run hRun).1
  | units days hours minutes seconds =>
      intro run hRun
      simp only [Duration.runs, List.mem_append, Option.mem_toList, or_assoc] at hRun
      exact h.2 run hRun

theorem mem_unitText {unit : CodePoint} {part : Option PyStr} :
    c ∈ unitText unit part ↔ (∃ run ∈ part, c ∈ run) ∨ (part.isSome ∧ c = unit) := by
  cases part <;> simp [unitText]

/-- A character other than the separators is in a run. -/
theorem Duration.mem_text (hOther : c ∉ separators) :
    c ∈ duration.text ↔ ∃ run ∈ duration.runs, c ∈ run := by
  simp only [separators, List.mem_cons, List.not_mem_nil, or_false, not_or] at hOther
  cases duration with
  | plain count => simp [text, Duration.runs]
  | clock hours minutes seconds =>
      cases seconds with
      | none => simp [text, Duration.runs, hOther]
      | some seconds => simp [text, Duration.runs, hOther]
  | units days hours minutes seconds =>
      simp [text, Duration.runs, mem_unitText, hOther]
      grind

theorem Duration.mem_text_of_run {run : PyStr} (hRun : run ∈ duration.runs) (hMem : c ∈ run) :
    c ∈ duration.text := by
  cases duration with
  | plain count =>
      obtain rfl := List.mem_singleton.mp hRun
      exact hMem
  | clock hours minutes seconds =>
      cases seconds with
      | none =>
          simp only [Duration.runs, Option.toList_none, List.mem_cons, List.not_mem_nil,
            or_false] at hRun
          rcases hRun with rfl | rfl <;> simp [text, hMem]
      | some seconds =>
          simp only [Duration.runs, Option.toList_some, List.mem_cons, List.not_mem_nil,
            or_false] at hRun
          rcases hRun with rfl | rfl | rfl <;> simp [text, hMem]
  | units days hours minutes seconds =>
      simp only [Duration.runs, List.mem_append, Option.mem_toList] at hRun
      simp only [text, List.mem_append, mem_unitText]
      grind

theorem Duration.WellFormed.weaken (h : duration.WellFormed digit)
    (hDigits : ∀ c ∈ duration.text, digit c = true → digit' c = true) :
    duration.WellFormed digit' := by
  have hRuns : ∀ run ∈ duration.runs, Digits digit' run := fun run hRun =>
    ⟨(h.runs run hRun).1, fun c hMem =>
      hDigits c (Duration.mem_text_of_run hRun hMem) ((h.runs run hRun).2 c hMem)⟩
  cases duration with
  | plain count => exact hRuns count List.mem_cons_self
  | clock hours minutes seconds =>
      obtain ⟨⟨-, hHours⟩, ⟨-, hMinutes⟩, hSeconds⟩ := h
      refine ⟨⟨hRuns hours (by simp [Duration.runs]), hHours⟩,
        ⟨hRuns minutes (by simp [Duration.runs]), hMinutes⟩, fun run hRun => ?_⟩
      exact ⟨hRuns run (by simp_all [Duration.runs]), (hSeconds run hRun).2⟩
  | units days hours minutes seconds =>
      refine ⟨h.1, fun run hRun => hRuns run ?_⟩
      simp only [Duration.runs, List.mem_append, Option.mem_toList, or_assoc]
      exact hRun

/-- The digits of a duration may be taken of any class that has them. -/
theorem IsDuration.weaken {value : PyStr} (h : IsDuration digit value)
    (hDigits : ∀ c ∈ value, digit c = true → digit' c = true) : IsDuration digit' value := by
  obtain ⟨duration, hForm, rfl⟩ := h
  exact ⟨duration, hForm.weaken hDigits, rfl⟩

theorem IsDuration.mem {value : PyStr} (h : IsDuration digit value) (hMem : c ∈ value) :
    digit c = true ∨ c ∈ separators := by
  obtain ⟨duration, hForm, rfl⟩ := h
  by_cases hOther : c ∈ separators
  · exact .inr hOther
  · obtain ⟨run, hRun, hChar⟩ := (Duration.mem_text hOther).mp hMem
    exact .inl ((hForm.runs run hRun).2 c hChar)

theorem isDigit_of_ascii (h : isAsciiDigit c = true) : isDigit c = true :=
  List.any_eq_true.mpr ⟨0x30, by simp [digitZeros], h⟩

theorem separators_no_digit (h : c ∈ separators) : isDigit c = false := by
  simp only [separators, List.mem_cons, List.not_mem_nil, or_false] at h
  rcases h with rfl | rfl | rfl | rfl | rfl <;> decide

/-- The validator accepts exactly the documented durations over the ASCII
digits, but for the strings of their forms that are written with another digit
of Unicode: these it accepts too. -/
theorem accepts_documented_iff (value : PyStr) :
    (validateLifetime value = .ok () ↔ IsDuration isAsciiDigit value) ↔
      ¬ (IsDuration isDigit value ∧ ∃ c ∈ value, isDigit c = true ∧ isAsciiDigit c = false) := by
  rw [validateLifetime_ok_iff]
  constructor
  · rintro hSame ⟨hWide, c, hMem, hDigit, hNotAscii⟩
    rcases (hSame.mp hWide).mem hMem with hAscii | hSeparator
    · rw [hAscii] at hNotAscii
      cases hNotAscii
    · rw [separators_no_digit hSeparator] at hDigit
      cases hDigit
  · intro hPlain
    constructor
    · intro hWide
      refine hWide.weaken fun c hMem hDigit => ?_
      by_contra hNotAscii
      exact hPlain ⟨hWide, c, hMem, hDigit, eq_false_of_ne_true hNotAscii⟩
    · intro hNarrow
      exact hNarrow.weaken fun c _ => isDigit_of_ascii

/-- The Arabic-Indic digits of 3600 are accepted, and are no digits of the
documented format. -/
theorem accepts_arabic_digits :
    validateLifetime [0x663, 0x666, 0x660, 0x660] = .ok () ∧
      ¬ IsDuration isAsciiDigit [0x663, 0x666, 0x660, 0x660] := by
  refine ⟨by rfl, fun h => ?_⟩
  rcases h.mem (c := 0x663) (by decide) with hAscii | hSeparator
  · exact absurd hAscii (by decide)
  · exact absurd hSeparator (by decide)

end Characters

end Krb5TokenService.Minting
