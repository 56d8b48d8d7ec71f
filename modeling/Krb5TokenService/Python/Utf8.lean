import Krb5TokenService.Python.Text

/-! What the UTF-8 codec undoes. A decoder that has read any bytes starts
afresh at an ASCII byte, and it reads back every string that can be encoded. -/
namespace Python

/-- The byte that carries the six bits of `k`. -/
def continuation (k : Nat) : UInt8 := UInt8.ofNat (0x80 + k % 64)

@[simp]
theorem toNat_continuation (k : Nat) : (continuation k).toNat = 0x80 + k % 64 := by
  simp only [continuation, UInt8.toNat_ofNat']
  omega

theorem toNat_byte {n : Nat} (h : n < 256) : (UInt8.ofNat n).toNat = n := by
  rw [UInt8.toNat_ofNat']
  omega

section Ascii

/-- A sequence expects no ASCII byte, and no value below 128 comes of it. -/
structure Pending.Continues (pending : Pending) : Prop where
  low : 0x80 ≤ pending.low.toNat
  high : pending.high.toNat ≤ 0xBF
  wide : if pending.missing = 1 then 2 ≤ pending.bits
    else 0x82 ≤ pending.bits * 64 + pending.low.toNat

theorem leadByte_continues {b : UInt8} {pending : Pending}
    (h : leadByte b = .sequence pending) : pending.Continues := by
  unfold leadByte at h
  simp only [UInt8.lt_iff_toNat_lt, ← UInt8.toNat_inj, UInt8.reduceToNat] at h
  repeat' split at h
  all_goals cases h
  all_goals refine ⟨by simp, by simp, ?_⟩
  all_goals simp only [UInt8.reduceToNat, if_true]
  all_goals grind

/-- A continuation byte that is not the last one keeps a sequence going. -/
theorem Pending.Continues.next {pending : Pending} (h : pending.Continues) {b : UInt8}
    (hRange : pending.low ≤ b ∧ b ≤ pending.high) (hMore : ¬ pending.missing = 1) :
    Pending.Continues ⟨pending.missing - 1, pending.bits * 64 + b.toNat % 64, 0x80, 0xBF⟩ := by
  have hLow := UInt8.le_iff_toNat_le.mp hRange.1
  have hHigh := UInt8.le_iff_toNat_le.mp hRange.2
  have hFirst := h.low
  have hLast := h.high
  have hWide := h.wide
  rw [if_neg hMore] at hWide
  refine ⟨by simp, by simp, ?_⟩
  simp only [UInt8.reduceToNat]
  split <;> omega

theorem leadByte_ascii {a : UInt8} (h : a < 0x80) :
    leadByte a = .complete (CodePoint.ofNat a.toNat) := by
  rw [leadByte, if_pos h]

/-- A byte that breaks a sequence is read again. -/
theorem decodeParts_broken {pending : Pending} {b : UInt8}
    (h : ¬ (pending.low ≤ b ∧ b ≤ pending.high)) (bytes : Bytes) :
    decodeParts (some pending) (b :: bytes) = none :: decodeParts none (b :: bytes) := by
  rw [decodeParts, decodeParts, if_neg h]

/-- Whatever a sequence still expects, an ASCII byte breaks it and is read as
itself, so what follows is decoded as on its own. -/
theorem decodeParts_append_ascii {a : UInt8} (hAscii : a < 0x80) (rest : Bytes)
    (pending : Option Pending) (bytes : Bytes)
    (hContinues : ∀ expected ∈ pending, Pending.Continues expected) :
    decodeParts pending (bytes ++ a :: rest) =
      decodeParts pending bytes ++ some (CodePoint.ofNat a.toNat) :: decodeParts none rest := by
  induction bytes generalizing pending with
  | nil =>
      cases pending with
      | none => simp [decodeParts, leadByte_ascii hAscii]
      | some pending =>
          have hLow := (hContinues pending rfl).low
          have hOut : ¬ (pending.low ≤ a ∧ a ≤ pending.high) := by
            simp only [UInt8.lt_iff_toNat_lt, UInt8.le_iff_toNat_le, UInt8.reduceToNat] at hAscii ⊢
            omega
          simp [decodeParts, leadByte_ascii hAscii, hOut]
  | cons b bytes ih =>
      have hNone := ih none (by simp)
      have hFresh : decodeParts none (b :: bytes ++ a :: rest) =
          decodeParts none (b :: bytes) ++
            some (CodePoint.ofNat a.toNat) :: decodeParts none rest := by
        cases hLead : leadByte b with
        | complete c => simp [decodeParts, hLead, hNone]
        | sequence next =>
            have hNext := ih (some next) (by simpa using leadByte_continues hLead)
            simp [decodeParts, hLead, hNext]
        | invalid => simp [decodeParts, hLead, hNone]
      cases pending with
      | none => exact hFresh
      | some pending =>
          by_cases hRange : pending.low ≤ b ∧ b ≤ pending.high
          · by_cases hLast : pending.missing = 1
            · simp [decodeParts, hRange, hLast, hNone]
            · have hNext := ih (some _) (by simpa using (hContinues pending rfl).next hRange hLast)
              simpa [decodeParts, hRange, hLast] using hNext
          · rw [List.cons_append, decodeParts_broken hRange, decodeParts_broken hRange,
              ← List.cons_append, hFresh, List.cons_append]

theorem decodeReplace_append_ascii {a : UInt8} (hAscii : a < 0x80) (bytes rest : Bytes) :
    Bytes.decodeReplace (bytes ++ a :: rest) =
      bytes.decodeReplace ++ CodePoint.ofNat a.toNat :: rest.decodeReplace := by
  unfold Bytes.decodeReplace
  rw [decodeParts_append_ascii hAscii rest none bytes (by simp)]
  simp

/-- Literal segments with one quoted body between any two are decoded segment
by segment, whatever a segment or the body leaves unfinished. -/
theorem decodeReplace_intercalate {a : UInt8} (hAscii : a < 0x80) (body : Bytes)
    (segments : List Bytes) :
    Bytes.decodeReplace ((a :: body ++ [a]).intercalate segments) =
      (CodePoint.ofNat a.toNat :: body.decodeReplace ++ [CodePoint.ofNat a.toNat]).intercalate
        (segments.map Bytes.decodeReplace) := by
  induction segments with
  | nil => rfl
  | cons segment segments ih =>
      cases segments with
      | nil => simp
      | cons next segments =>
          have hText : segment ++ (a :: body ++ [a]) ++
              (a :: body ++ [a]).intercalate (next :: segments) =
                segment ++ a ::
                  (body ++ a :: (a :: body ++ [a]).intercalate (next :: segments)) := by
            simp
          rw [List.intercalate_cons_cons, hText, decodeReplace_append_ascii hAscii,
            decodeReplace_append_ascii hAscii, ih]
          simp [List.intercalate_cons_cons]

theorem leadByte_complete {b : UInt8} {c : CodePoint} (h : leadByte b = .complete c) :
    UInt8.ofNat c.val = b := by
  have hByte := b.toNat_lt
  unfold leadByte at h
  split at h
  · cases h
    simp [CodePoint.ofNat, show b.toNat < 0x110000 by omega]
  · repeat' split at h
    all_goals cases h

theorem CodePoint.ofNat_wide {n : Nat} (h : 0x80 ≤ n) : 0x80 ≤ (CodePoint.ofNat n).val := by
  unfold CodePoint.ofNat
  split
  · exact h
  · decide

/-- An ASCII character is read only off its own byte: overlong forms are
ill-formed. -/
theorem mem_of_mem_decodeParts {c : CodePoint} (hAscii : c.val < 0x80)
    (pending : Option Pending) (bytes : Bytes)
    (hContinues : ∀ expected ∈ pending, Pending.Continues expected)
    (hMem : some c ∈ decodeParts pending bytes) : UInt8.ofNat c.val ∈ bytes := by
  induction bytes generalizing pending with
  | nil => cases pending <;> simp [decodeParts] at hMem
  | cons b bytes ih =>
      have hFresh (hMem : some c ∈ decodeParts none (b :: bytes)) :
          UInt8.ofNat c.val ∈ b :: bytes := by
        rw [decodeParts] at hMem
        cases hLead : leadByte b with
        | complete d =>
            rw [hLead] at hMem
            rcases List.mem_cons.mp hMem with hHead | hLater
            · cases hHead
              exact List.mem_cons.mpr (.inl (leadByte_complete hLead))
            · exact List.mem_cons_of_mem _ (ih none (by simp) hLater)
        | sequence next =>
            rw [hLead] at hMem
            exact List.mem_cons_of_mem _
              (ih (some next) (by simpa using leadByte_continues hLead) hMem)
        | invalid =>
            rw [hLead] at hMem
            exact List.mem_cons_of_mem _ (ih none (by simp) (by simpa using hMem))
      cases pending with
      | none => exact hFresh hMem
      | some pending =>
          by_cases hRange : pending.low ≤ b ∧ b ≤ pending.high
          · have hContinues := hContinues pending rfl
            rw [decodeParts, if_pos hRange] at hMem
            by_cases hLast : pending.missing = 1
            · simp only [hLast, if_true] at hMem
              rcases List.mem_cons.mp hMem with hHead | hLater
              · have hWide := hContinues.wide
                rw [if_pos hLast] at hWide
                have hValue := CodePoint.ofNat_wide
                  (show 0x80 ≤ pending.bits * 64 + b.toNat % 64 by omega)
                cases hHead
                omega
              · exact List.mem_cons_of_mem _ (ih none (by simp) hLater)
            · simp only [hLast, if_false] at hMem
              exact List.mem_cons_of_mem _
                (ih (some _) (by simpa using hContinues.next hRange hLast) hMem)
          · rw [decodeParts_broken hRange] at hMem
            exact hFresh (by simpa using hMem)

theorem mem_of_mem_decodeReplace {c : CodePoint} (hAscii : c.val < 0x80) {bytes : Bytes}
    (hMem : c ∈ bytes.decodeReplace) : UInt8.ofNat c.val ∈ bytes := by
  obtain ⟨part, hPart, hValue⟩ := List.mem_map.mp hMem
  cases part with
  | none =>
      subst hValue
      exact absurd hAscii (by decide)
  | some d =>
      cases hValue
      exact mem_of_mem_decodeParts hAscii none bytes (by simp) hPart

end Ascii

section RoundTrip

section Continue

variable {k bits : Nat} {low high : UInt8}

theorem decodeParts_last (hRange : low ≤ continuation k ∧ continuation k ≤ high) (rest : Bytes) :
    decodeParts (some ⟨1, bits, low, high⟩) (continuation k :: rest) =
      some (CodePoint.ofNat (bits * 64 + k % 64)) :: decodeParts none rest := by
  have hBits : (0x80 + k % 64) % 64 = k % 64 := by omega
  rw [decodeParts, if_pos hRange]
  simp only [toNat_continuation, hBits, if_true]

theorem decodeParts_more {missing : Nat}
    (hRange : low ≤ continuation k ∧ continuation k ≤ high) (rest : Bytes) :
    decodeParts (some ⟨missing + 2, bits, low, high⟩) (continuation k :: rest) =
      decodeParts (some ⟨missing + 1, bits * 64 + k % 64, 0x80, 0xBF⟩) rest := by
  have hBits : (0x80 + k % 64) % 64 = k % 64 := by omega
  rw [decodeParts, if_pos hRange]
  simp [hBits]

end Continue

theorem continuation_range (k : Nat) : 0x80 ≤ continuation k ∧ continuation k ≤ 0xBF := by
  simp only [UInt8.le_iff_toNat_le, toNat_continuation, UInt8.reduceToNat]
  omega

theorem CodePoint.ofNat_val (c : CodePoint) : CodePoint.ofNat c.val = c := by
  simp [CodePoint.ofNat, c.isLt]

/-- The lead byte of a two-byte form. -/
theorem leadByte_two {n : Nat} (hLow : 0x80 ≤ n) (hHigh : n < 0x800) :
    leadByte (UInt8.ofNat (0xC0 + n / 64)) = .sequence ⟨1, n / 64, 0x80, 0xBF⟩ := by
  have hByte := toNat_byte (show 0xC0 + n / 64 < 256 by omega)
  unfold leadByte
  simp only [UInt8.lt_iff_toNat_lt, hByte, UInt8.reduceToNat]
  rw [if_neg (by omega), if_neg (by omega), if_pos (by omega)]
  simp

/-- The lead byte of a three-byte form, and that its second byte is in the
range the lead byte allows. -/
theorem leadByte_three {n : Nat} (hLow : 0x800 ≤ n) (hHigh : n < 0x10000)
    (hNotSurrogate : ¬ (0xD800 ≤ n ∧ n ≤ 0xDFFF)) :
    ∃ low high, leadByte (UInt8.ofNat (0xE0 + n / 4096)) = .sequence ⟨2, n / 4096, low, high⟩ ∧
      low ≤ continuation (n / 64) ∧ continuation (n / 64) ≤ high := by
  have hByte := toNat_byte (show 0xE0 + n / 4096 < 256 by omega)
  unfold leadByte
  simp only [UInt8.lt_iff_toNat_lt, UInt8.le_iff_toNat_le, ← UInt8.toNat_inj, hByte,
    toNat_continuation, UInt8.reduceToNat]
  rw [if_neg (by omega), if_neg (by omega), if_neg (by omega)]
  by_cases hFirst : n / 4096 = 0
  · rw [if_pos (by omega), hFirst]
    refine ⟨0xA0, 0xBF, rfl, ?_⟩
    simp only [UInt8.reduceToNat]
    omega
  · rw [if_neg (by omega)]
    by_cases hLast : n / 4096 = 0xD
    · rw [if_pos (by omega), hLast]
      refine ⟨0x80, 0x9F, rfl, ?_⟩
      simp only [UInt8.reduceToNat]
      omega
    · rw [if_neg (by omega), if_pos (by omega)]
      refine ⟨0x80, 0xBF, by simp, ?_⟩
      simp only [UInt8.reduceToNat]
      omega

/-- The lead byte of a four-byte form, and that its second byte is in the
range the lead byte allows. -/
theorem leadByte_four {n : Nat} (hLow : 0x10000 ≤ n) (hHigh : n < 0x110000) :
    ∃ low high,
      leadByte (UInt8.ofNat (0xF0 + n / 262144)) = .sequence ⟨3, n / 262144, low, high⟩ ∧
        low ≤ continuation (n / 4096) ∧ continuation (n / 4096) ≤ high := by
  have hByte := toNat_byte (show 0xF0 + n / 262144 < 256 by omega)
  unfold leadByte
  simp only [UInt8.lt_iff_toNat_lt, UInt8.le_iff_toNat_le, ← UInt8.toNat_inj, hByte,
    toNat_continuation, UInt8.reduceToNat]
  rw [if_neg (by omega), if_neg (by omega), if_neg (by omega), if_neg (by omega),
    if_neg (by omega), if_neg (by omega)]
  by_cases hFirst : n / 262144 = 0
  · rw [if_pos (by omega), hFirst]
    refine ⟨0x90, 0xBF, rfl, ?_⟩
    simp only [UInt8.reduceToNat]
    omega
  · rw [if_neg (by omega)]
    by_cases hLast : n / 262144 = 4
    · rw [if_neg (by omega), if_pos (by omega), hLast]
      refine ⟨0x80, 0x8F, rfl, ?_⟩
      simp only [UInt8.reduceToNat]
      omega
    · rw [if_pos (by omega)]
      refine ⟨0x80, 0xBF, by simp, ?_⟩
      simp only [UInt8.reduceToNat]
      omega

theorem decodeParts_lead {b : UInt8} {pending : Pending} (h : leadByte b = .sequence pending)
    (rest : Bytes) : decodeParts none (b :: rest) = decodeParts (some pending) rest := by
  rw [decodeParts, h]

theorem utf8_one {c : CodePoint} (h : c.val < 0x80) : utf8 c = [UInt8.ofNat c.val] := by
  rw [utf8, if_pos h]

theorem utf8_two {c : CodePoint} (hLow : 0x80 ≤ c.val) (hHigh : c.val < 0x800) :
    utf8 c = [UInt8.ofNat (0xC0 + c.val / 64), continuation c.val] := by
  rw [utf8, if_neg (by omega), if_pos hHigh]
  rfl

theorem utf8_three {c : CodePoint} (hLow : 0x800 ≤ c.val) (hHigh : c.val < 0x10000) :
    utf8 c = [UInt8.ofNat (0xE0 + c.val / 4096), continuation (c.val / 64),
      continuation c.val] := by
  rw [utf8, if_neg (by omega), if_neg (by omega), if_pos hHigh]
  rfl

theorem utf8_four {c : CodePoint} (hLow : 0x10000 ≤ c.val) :
    utf8 c = [UInt8.ofNat (0xF0 + c.val / 262144), continuation (c.val / 4096),
      continuation (c.val / 64), continuation c.val] := by
  rw [utf8, if_neg (by omega), if_neg (by omega), if_neg (by omega)]
  rfl

/-- An ASCII byte is the form of its own character, and part of no other. -/
theorem val_of_mem_utf8 {c : CodePoint} {a : UInt8} (hAscii : a < 0x80) (hMem : a ∈ utf8 c) :
    c.val = a.toNat := by
  have hBound := c.isLt
  have hSmall : a.toNat < 0x80 := by
    simpa only [UInt8.lt_iff_toNat_lt, UInt8.reduceToNat] using hAscii
  have hContinuation : ∀ k, a ≠ continuation k := by
    rintro k rfl
    rw [toNat_continuation] at hSmall
    omega
  have hLead : ∀ n, 0x80 ≤ n → n < 256 → a ≠ UInt8.ofNat n := by
    rintro n hLow hHigh rfl
    rw [toNat_byte hHigh] at hSmall
    omega
  rcases Nat.lt_or_ge c.val 0x80 with hOne | hOne
  · rw [utf8_one hOne, List.mem_singleton] at hMem
    rw [hMem, toNat_byte (by omega)]
  rcases Nat.lt_or_ge c.val 0x800 with hTwo | hTwo
  · have hFirst := hLead (0xC0 + c.val / 64) (by omega) (by omega)
    simp only [utf8_two hOne hTwo, List.mem_cons, hFirst, hContinuation, List.not_mem_nil,
      or_false] at hMem
  rcases Nat.lt_or_ge c.val 0x10000 with hThree | hThree
  · have hFirst := hLead (0xE0 + c.val / 4096) (by omega) (by omega)
    simp only [utf8_three hTwo hThree, List.mem_cons, hFirst, hContinuation, List.not_mem_nil,
      or_false] at hMem
  · have hFirst := hLead (0xF0 + c.val / 262144) (by omega) (by omega)
    simp only [utf8_four hThree, List.mem_cons, hFirst, hContinuation, List.not_mem_nil,
      or_false] at hMem

/-- The form of one code point is read as that code point. -/
theorem decodeParts_utf8 {c : CodePoint} (h : isSurrogate c = false) (rest : Bytes) :
    decodeParts none (utf8 c ++ rest) = some c :: decodeParts none rest := by
  have hBound := c.isLt
  have hRange := continuation_range
  simp only [isSurrogate, Bool.and_eq_false_iff, decide_eq_false_iff_not] at h
  rcases Nat.lt_or_ge c.val 0x80 with hOne | hOne
  · have hByte := toNat_byte (show c.val < 256 by omega)
    have hAscii : UInt8.ofNat c.val < 0x80 := by
      simpa only [UInt8.lt_iff_toNat_lt, hByte, UInt8.reduceToNat] using hOne
    rw [utf8_one hOne, List.singleton_append, decodeParts, leadByte_ascii hAscii, hByte]
    simp only [CodePoint.ofNat_val]
  rcases Nat.lt_or_ge c.val 0x800 with hTwo | hTwo
  · have hValue : c.val / 64 * 64 + c.val % 64 = c.val := by omega
    rw [utf8_two hOne hTwo, List.cons_append, List.singleton_append,
      decodeParts_lead (leadByte_two hOne hTwo), decodeParts_last (hRange c.val), hValue,
      CodePoint.ofNat_val]
  rcases Nat.lt_or_ge c.val 0x10000 with hThree | hThree
  · obtain ⟨low, high, hLead, hSecond⟩ := leadByte_three hTwo hThree (by omega)
    have hValue : (c.val / 4096 * 64 + c.val / 64 % 64) * 64 + c.val % 64 = c.val := by omega
    rw [utf8_three hTwo hThree, List.cons_append, List.cons_append, List.singleton_append,
      decodeParts_lead hLead, decodeParts_more hSecond, decodeParts_last (hRange c.val), hValue,
      CodePoint.ofNat_val]
  · obtain ⟨low, high, hLead, hSecond⟩ := leadByte_four hThree hBound
    have hValue : ((c.val / 262144 * 64 + c.val / 4096 % 64) * 64 + c.val / 64 % 64) * 64 +
        c.val % 64 = c.val := by
      omega
    rw [utf8_four hThree, List.cons_append, List.cons_append, List.cons_append,
      List.singleton_append, decodeParts_lead hLead, decodeParts_more hSecond,
      decodeParts_more (hRange (c.val / 64)), decodeParts_last (hRange c.val), hValue,
      CodePoint.ofNat_val]

theorem decodeParts_flatMap_utf8 {s : PyStr} (h : s.any isSurrogate = false) (rest : Bytes) :
    decodeParts none (s.flatMap utf8 ++ rest) = s.map some ++ decodeParts none rest := by
  induction s with
  | nil => rfl
  | cons c s ih =>
      simp only [List.any_cons, Bool.or_eq_false_iff] at h
      rw [List.flatMap_cons, List.append_assoc, decodeParts_utf8 h.1, ih h.2]
      rfl

/-- `s.encode().decode() == s`. -/
theorem decode_encode {s : PyStr} {bytes : Bytes} (h : s.encode = some bytes) :
    bytes.decode = some s := by
  unfold PyStr.encode at h
  split at h
  · cases h
  · next hPlain =>
      cases h
      have hParts := decodeParts_flatMap_utf8 (eq_false_of_ne_true hPlain) []
      rw [List.append_nil] at hParts
      have hAll : s.mapM some = some s := by
        simpa using List.mapM_pure (m := Option) (l := s) (f := id)
      rw [Bytes.decode, hParts]
      simpa [decodeParts] using hAll

end RoundTrip

end Python
