import Krb5TokenService.Minting.Lifetime

/-! How many seconds an accepted lifetime denotes. The validator looks at the
shape of the string, which bounds the number in one form only. -/
namespace Krb5TokenService.Minting

open Python

/-- The number that a run of ASCII digits denotes. -/
def number (run : PyStr) : Nat := Nat.ofDigits 10 (run.reverse.map fun c => c.val - 0x30)

/-- The number of a run that may be missing. -/
def numberOf (part : Option PyStr) : Nat := (part.map number).getD 0

namespace Duration

/-- Days, hours, minutes and seconds, in seconds. -/
def value : Duration → Nat
  | .plain count => number count
  | .clock hours minutes seconds => number hours * 3600 + number minutes * 60 + numberOf seconds
  | .units days hours minutes seconds =>
      numberOf days * 86400 + numberOf hours * 3600 + numberOf minutes * 60 + numberOf seconds

end Duration

/-- The seconds that a string of one of the documented forms denotes. -/
def durationSeconds (text : PyStr) : Nat := (Duration.read text).value

section Number

variable {run : PyStr} {c : CodePoint}

theorem isAsciiDigit_iff : isAsciiDigit c = true ↔ 0x30 ≤ c.val ∧ c.val ≤ 0x39 := by
  simp [isAsciiDigit, inRange]

/-- A run denotes zero exactly when it is made of zeros. -/
theorem number_pos_iff (hRun : Digits isAsciiDigit run) :
    0 < number run ↔ ∃ c ∈ run, c ≠ 0x30 := by
  constructor
  · intro hPos
    by_contra hZeros
    have hAll : ∀ d ∈ run.reverse.map (fun c => c.val - 0x30), d = 0 := by
      intro d hMem
      obtain ⟨c, hChar, rfl⟩ := List.mem_map.mp hMem
      by_contra hDigit
      exact hZeros ⟨c, List.mem_reverse.mp hChar, fun hZero => hDigit (by rw [hZero]; rfl)⟩
    rw [number, List.eq_replicate_of_mem hAll, Nat.ofDigits_replicate_zero] at hPos
    exact absurd hPos (Nat.lt_irrefl 0)
  · rintro ⟨c, hMem, hNonzero⟩
    by_contra hZero
    have hDigit : c.val - 0x30 = 0 :=
      Nat.digits_zero_of_eq_zero (by decide) (Nat.eq_zero_of_not_pos hZero) _
        (List.mem_map.mpr ⟨c, List.mem_reverse.mpr hMem, rfl⟩)
    have hRange := isAsciiDigit_iff.mp (hRun.2 c hMem)
    exact hNonzero (Fin.ext (show c.val = 0x30 by omega))

theorem number_lt (hRun : Digits isAsciiDigit run) : number run < 10 ^ run.length := by
  have hDigits : ∀ d ∈ run.reverse.map (fun c => c.val - 0x30), d < 10 := by
    intro d hMem
    obtain ⟨c, hChar, rfl⟩ := List.mem_map.mp hMem
    have hRange := isAsciiDigit_iff.mp (hRun.2 c (List.mem_reverse.mp hChar))
    omega
  simpa [number] using Nat.ofDigits_lt_base_pow_length (by decide) hDigits

/-- The character of a decimal digit. -/
def digitChar (d : Nat) : CodePoint := CodePoint.ofNat (0x30 + d)

theorem digitChar_val {d : Nat} (h : d < 10) : (digitChar d).val = 0x30 + d := by
  have hBound : 0x30 + d < 0x110000 := by omega
  rw [digitChar, CodePoint.ofNat, dif_pos hBound]

/-- Every number is denoted by a run. -/
theorem exists_number (n : Nat) : ∃ run, Digits isAsciiDigit run ∧ number run = n := by
  by_cases hZero : n = 0
  · refine ⟨[0x30], ⟨by simp, fun c hMem => ?_⟩, hZero.symm⟩
    rw [List.mem_singleton.mp hMem]
    rfl
  · have hBound : ∀ d ∈ Nat.digits 10 n, d < 10 := fun d hMem =>
      Nat.digits_lt_base (by decide) hMem
    refine ⟨((Nat.digits 10 n).map digitChar).reverse, ⟨?_, ?_⟩, ?_⟩
    · simp [Nat.digits_eq_nil_iff_eq_zero, hZero]
    · intro c hMem
      obtain ⟨d, hDigit, rfl⟩ := List.mem_map.mp (List.mem_reverse.mp hMem)
      have hValue := digitChar_val (hBound d hDigit)
      have hLess := hBound d hDigit
      rw [isAsciiDigit_iff]
      omega
    · have hBack : ((Nat.digits 10 n).map digitChar).map (fun c => c.val - 0x30) =
          Nat.digits 10 n := by
        rw [List.map_map]
        refine (List.map_congr_left fun d hDigit => ?_).trans (List.map_id _)
        have hValue := digitChar_val (hBound d hDigit)
        simp only [Function.comp_apply, id_eq]
        omega
      rw [number, List.reverse_reverse, hBack, Nat.ofDigits_digits]

end Number

section Value

variable {duration : Duration}

theorem numberOf_pos_iff {part : Option PyStr} :
    0 < numberOf part ↔ ∃ run, part = some run ∧ 0 < number run := by
  cases part <;> simp [numberOf]

/-- A duration is at least a second exactly when one of its runs is not made
of zeros. -/
theorem Duration.value_pos_iff (h : duration.WellFormed isAsciiDigit) :
    0 < duration.value ↔ ∃ c ∈ duration.text, isAsciiDigit c = true ∧ c ≠ 0x30 := by
  have hRuns : 0 < duration.value ↔ ∃ run ∈ duration.runs, 0 < number run := by
    cases duration with
    | plain count => simp [value, runs]
    | clock hours minutes seconds =>
        simp only [value, runs, List.mem_cons, Option.mem_toList, exists_eq_or_imp,
          ← numberOf_pos_iff]
        omega
    | units days hours minutes seconds =>
        simp only [value, runs, List.mem_append, Option.mem_toList, or_and_right, exists_or,
          ← numberOf_pos_iff]
        omega
  rw [hRuns]
  constructor
  · rintro ⟨run, hRun, hPos⟩
    obtain ⟨c, hMem, hNonzero⟩ := (number_pos_iff (h.runs run hRun)).mp hPos
    exact ⟨c, mem_text_of_run hRun hMem, (h.runs run hRun).2 c hMem, hNonzero⟩
  · rintro ⟨c, hMem, hDigit, hNonzero⟩
    have hOther : c ∉ separators := fun hSeparator => by
      have hNoDigit := separators_no_digit hSeparator
      rw [isDigit_of_ascii hDigit] at hNoDigit
      cases hNoDigit
    obtain ⟨run, hRun, hChar⟩ := (mem_text hOther).mp hMem
    exact ⟨run, hRun, (number_pos_iff (h.runs run hRun)).mpr ⟨c, hChar, hNonzero⟩⟩

/-- The clock form holds at most 999 hours, 99 minutes and 99 seconds. -/
theorem Duration.value_clock_le {hours minutes : PyStr} {seconds : Option PyStr}
    (h : (Duration.clock hours minutes seconds).WellFormed isAsciiDigit) :
    (Duration.clock hours minutes seconds).value ≤ 3602439 := by
  obtain ⟨⟨hHours, hHoursLength⟩, ⟨hMinutes, hMinutesLength⟩, hSeconds⟩ := h
  have hHoursValue : number hours < 1000 :=
    (number_lt hHours).trans_le (Nat.pow_le_pow_right (by decide) hHoursLength)
  have hMinutesValue : number minutes < 100 := by
    simpa [hMinutesLength] using number_lt hMinutes
  have hSecondsValue : numberOf seconds < 100 := by
    cases seconds with
    | none => decide
    | some run =>
        obtain ⟨hRun, hLength⟩ := hSeconds run rfl
        simpa [numberOf, hLength] using number_lt hRun
  rw [value]
  omega

/-- Only the clock form has a colon. -/
theorem Duration.clock_of_colon (h : duration.WellFormed isAsciiDigit)
    (hColon : 0x3A ∈ duration.text) :
    ∃ hours minutes seconds, duration = .clock hours minutes seconds := by
  have hRuns : ∀ run ∈ duration.runs, 0x3A ∉ run := fun run hRun hMem =>
    absurd ((h.runs run hRun).2 _ hMem) (by decide)
  cases duration with
  | plain count => exact absurd hColon (hRuns count List.mem_cons_self)
  | clock hours minutes seconds => exact ⟨hours, minutes, seconds, rfl⟩
  | units days hours minutes seconds =>
      have hPart : ∀ unit part, (0x3A : CodePoint) ≠ unit →
          (∀ run ∈ part, run ∈ (Duration.units days hours minutes seconds).runs) →
          0x3A ∉ unitText unit part := by
        intro unit part hUnit hIn hMem
        rcases mem_unitText.mp hMem with ⟨run, hRun, hChar⟩ | ⟨-, hSame⟩
        · exact hRuns run (hIn run hRun) hChar
        · exact hUnit hSame
      simp only [text, List.mem_append] at hColon
      rcases hColon with ((hMem | hMem) | hMem) | hMem
      · exact absurd hMem (hPart _ _ (by decide) (by simp +contextual [runs]))
      · exact absurd hMem (hPart _ _ (by decide) (by simp +contextual [runs]))
      · exact absurd hMem (hPart _ _ (by decide) (by simp +contextual [runs]))
      · exact absurd hMem (hPart _ _ (by decide) (by simp +contextual [runs]))

end Value

section Denoted

variable {value : PyStr}

/-- An accepted string with ASCII digits writes the duration that is read. -/
theorem accepted_writes (hAccepted : validateLifetime value = .ok ())
    (hAscii : ∀ c ∈ value, isDigit c = true → isAsciiDigit c = true) :
    ∃ duration : Duration, duration.WellFormed isAsciiDigit ∧ duration.text = value ∧
      durationSeconds value = duration.value := by
  obtain ⟨duration, hForm, rfl⟩ := validateLifetime_ok_iff.mp hAccepted
  refine ⟨duration, hForm.weaken hAscii, rfl, ?_⟩
  rw [durationSeconds, Duration.read_text hForm]

theorem accepted_pos_iff (hAccepted : validateLifetime value = .ok ())
    (hAscii : ∀ c ∈ value, isDigit c = true → isAsciiDigit c = true) :
    0 < durationSeconds value ↔ ∃ c ∈ value, isAsciiDigit c = true ∧ c ≠ 0x30 := by
  obtain ⟨duration, hForm, rfl, hValue⟩ := accepted_writes hAccepted hAscii
  rw [hValue]
  exact duration.value_pos_iff hForm

theorem accepted_clock_le (hAccepted : validateLifetime value = .ok ())
    (hAscii : ∀ c ∈ value, isDigit c = true → isAsciiDigit c = true) (hColon : 0x3A ∈ value) :
    durationSeconds value ≤ 3602439 := by
  obtain ⟨duration, hForm, rfl, hValue⟩ := accepted_writes hAccepted hAscii
  obtain ⟨hours, minutes, seconds, rfl⟩ := Duration.clock_of_colon hForm hColon
  rw [hValue]
  exact Duration.value_clock_le hForm

/-- Every number of seconds is denoted by an accepted string of ASCII digits. -/
theorem exists_accepted (n : Nat) :
    ∃ value, validateLifetime value = .ok () ∧ (∀ c ∈ value, isAsciiDigit c = true) ∧
      durationSeconds value = n := by
  obtain ⟨run, hRun, rfl⟩ := exists_number n
  have hForm : (Duration.plain run).WellFormed isDigit :=
    ⟨hRun.1, fun c hMem => isDigit_of_ascii (hRun.2 c hMem)⟩
  refine ⟨run, validateLifetime_ok_iff.mpr ⟨.plain run, hForm, rfl⟩, hRun.2, ?_⟩
  exact congrArg Duration.value (Duration.read_text hForm)

end Denoted

end Krb5TokenService.Minting
