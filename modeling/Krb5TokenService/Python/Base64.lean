import Krb5TokenService.Python.Text

/-! `base64.b64encode` and `base64.b64decode(validate=True)`. The decoder is
the loop of CPython's `binascii.a2b_base64` in strict mode: one character at
a time, with the position in the quad and the bits not written yet. -/
namespace Python.Base64

def alphabet : PyStr :=
  py "ABCDEFGHIJKLMNOPQRSTUVWXYZabcdefghijklmnopqrstuvwxyz0123456789+/"

def pad : CodePoint := 0x3D

/-- The character for six bits. -/
def digit (n : Nat) : CodePoint := alphabet.getD n pad

/-- The six bits of a character of the alphabet. -/
def digitValue (c : CodePoint) : Option Nat :=
  let n := c.val
  if 0x41 ≤ n ∧ n ≤ 0x5A then some (n - 0x41)
  else if 0x61 ≤ n ∧ n ≤ 0x7A then some (n - 0x61 + 26)
  else if 0x30 ≤ n ∧ n ≤ 0x39 then some (n - 0x30 + 52)
  else if n = 0x2B then some 62
  else if n = 0x2F then some 63
  else none

def b64encode : Bytes → PyStr
  | [] => []
  | [a] => [digit (a.toNat / 4), digit (a.toNat % 4 * 16), pad, pad]
  | [a, b] =>
      [digit (a.toNat / 4), digit (a.toNat % 4 * 16 + b.toNat / 16),
        digit (b.toNat % 16 * 4), pad]
  | a :: b :: c :: rest =>
      digit (a.toNat / 4) :: digit (a.toNat % 4 * 16 + b.toNat / 16) ::
        digit (b.toNat % 16 * 4 + c.toNat / 64) :: digit (c.toNat % 64) :: b64encode rest

/-- Where the decoder is: the position in the quad, the bits left over from
the last character, the pad characters seen in a row and whether any was. -/
structure Decoder where
  quadPos : Nat
  leftover : Nat
  pads : Nat
  paddingStarted : Bool

/-- `none` is `binascii.Error`: a stray or misplaced pad, a character outside
the alphabet, or an incomplete last quad. -/
def decodeFrom (d : Decoder) : PyStr → Option Bytes
  | [] => if d.quadPos = 0 then some [] else none
  | c :: rest =>
      if c = pad then
        if 2 ≤ d.quadPos ∧ 4 ≤ d.quadPos + (d.pads + 1) then
          if rest = [] then some [] else none
        else
          -- before the third character of a quad the pad is not counted
          let pads := if 2 ≤ d.quadPos then d.pads + 1 else d.pads
          decodeFrom { d with pads := pads, paddingStarted := true } rest
      else
        match digitValue c with
        | none => none
        | some value =>
            if d.paddingStarted then none
            else if d.quadPos = 0 then decodeFrom ⟨1, value, 0, false⟩ rest
            else if d.quadPos = 1 then
              (decodeFrom ⟨2, value % 16, 0, false⟩ rest).map
                (UInt8.ofNat (d.leftover * 4 + value / 16) :: ·)
            else if d.quadPos = 2 then
              (decodeFrom ⟨3, value % 4, 0, false⟩ rest).map
                (UInt8.ofNat (d.leftover * 16 + value / 4) :: ·)
            else
              (decodeFrom ⟨0, 0, 0, false⟩ rest).map
                (UInt8.ofNat (d.leftover * 64 + value) :: ·)

/-- A text that is not ASCII raises `ValueError`, of which `binascii.Error`
is a subclass: both are `none`. -/
def b64decode (text : PyStr) : Option Bytes :=
  if text.head? = some pad then none
  else if text.any fun c => 0x80 ≤ c.val then none
  else decodeFrom ⟨0, 0, 0, false⟩ text

section RoundTrip

theorem digit_facts {n : Nat} (h : n < 64) :
    digitValue (digit n) = some n ∧ digit n ≠ pad ∧ (digit n).val < 0x80 := by
  have hAll : ∀ k : Fin 64, digitValue (digit k) = some k.val ∧ digit k ≠ pad ∧
      (digit k).val < 0x80 := by decide +kernel
  exact hAll ⟨n, h⟩

variable {v leftover : Nat} {rest : PyStr}

theorem decodeFrom_first (h : v < 64) :
    decodeFrom ⟨0, leftover, 0, false⟩ (digit v :: rest) = decodeFrom ⟨1, v, 0, false⟩ rest := by
  obtain ⟨hValue, hPad, -⟩ := digit_facts h
  simp [decodeFrom, hValue, hPad]

theorem decodeFrom_second (h : v < 64) :
    decodeFrom ⟨1, leftover, 0, false⟩ (digit v :: rest) =
      (decodeFrom ⟨2, v % 16, 0, false⟩ rest).map (UInt8.ofNat (leftover * 4 + v / 16) :: ·) := by
  obtain ⟨hValue, hPad, -⟩ := digit_facts h
  simp [decodeFrom, hValue, hPad]

theorem decodeFrom_third (h : v < 64) :
    decodeFrom ⟨2, leftover, 0, false⟩ (digit v :: rest) =
      (decodeFrom ⟨3, v % 4, 0, false⟩ rest).map (UInt8.ofNat (leftover * 16 + v / 4) :: ·) := by
  obtain ⟨hValue, hPad, -⟩ := digit_facts h
  simp [decodeFrom, hValue, hPad]

theorem decodeFrom_fourth (h : v < 64) :
    decodeFrom ⟨3, leftover, 0, false⟩ (digit v :: rest) =
      (decodeFrom ⟨0, 0, 0, false⟩ rest).map (UInt8.ofNat (leftover * 64 + v) :: ·) := by
  obtain ⟨hValue, hPad, -⟩ := digit_facts h
  simp [decodeFrom, hValue, hPad]

/-- Eight bits, split and joined. -/
theorem ofNat_of_parts {b : UInt8} {n : Nat} (h : n = b.toNat) : UInt8.ofNat n = b := by
  rw [h, UInt8.ofNat_toNat]

theorem decodeFrom_b64encode (bytes : Bytes) :
    decodeFrom ⟨0, 0, 0, false⟩ (b64encode bytes) = some bytes := by
  induction bytes using b64encode.induct with
  | case1 => rfl
  | case2 a =>
      have ha := a.toNat_lt
      rw [b64encode, decodeFrom_first (by omega), decodeFrom_second (by omega),
        ofNat_of_parts (b := a) (by omega)]
      rfl
  | case3 a b =>
      have ha := a.toNat_lt
      have hb := b.toNat_lt
      rw [b64encode, decodeFrom_first (by omega), decodeFrom_second (by omega),
        decodeFrom_third (by omega), ofNat_of_parts (b := a) (by omega),
        ofNat_of_parts (b := b) (by omega)]
      rfl
  | case4 a b c rest ih =>
      have ha := a.toNat_lt
      have hb := b.toNat_lt
      have hc := c.toNat_lt
      rw [b64encode, decodeFrom_first (by omega), decodeFrom_second (by omega),
        decodeFrom_third (by omega), decodeFrom_fourth (by omega), ih,
        ofNat_of_parts (b := a) (by omega), ofNat_of_parts (b := b) (by omega),
        ofNat_of_parts (b := c) (by omega)]
      rfl

/-- Every character of an encoded text is a digit of the alphabet or a pad. -/
theorem mem_b64encode {bytes : Bytes} {ch : CodePoint} (h : ch ∈ b64encode bytes) :
    ch = pad ∨ ∃ n < 64, ch = digit n := by
  induction bytes using b64encode.induct with
  | case1 => simp [b64encode] at h
  | case2 a =>
      have ha := a.toNat_lt
      simp only [b64encode, List.mem_cons, List.not_mem_nil, or_false] at h
      rcases h with rfl | rfl | rfl | rfl
      · exact .inr ⟨_, by omega, rfl⟩
      · exact .inr ⟨_, by omega, rfl⟩
      · exact .inl rfl
      · exact .inl rfl
  | case3 a b =>
      have ha := a.toNat_lt
      have hb := b.toNat_lt
      simp only [b64encode, List.mem_cons, List.not_mem_nil, or_false] at h
      rcases h with rfl | rfl | rfl | rfl
      · exact .inr ⟨_, by omega, rfl⟩
      · exact .inr ⟨_, by omega, rfl⟩
      · exact .inr ⟨_, by omega, rfl⟩
      · exact .inl rfl
  | case4 a b c rest ih =>
      have ha := a.toNat_lt
      have hb := b.toNat_lt
      have hc := c.toNat_lt
      simp only [b64encode, List.mem_cons] at h
      rcases h with rfl | rfl | rfl | rfl | hRest
      · exact .inr ⟨_, by omega, rfl⟩
      · exact .inr ⟨_, by omega, rfl⟩
      · exact .inr ⟨_, by omega, rfl⟩
      · exact .inr ⟨_, by omega, rfl⟩
      · exact ih hRest

theorem head_b64encode (bytes : Bytes) : (b64encode bytes).head? ≠ some pad := by
  have hFirst (a : UInt8) : digit (a.toNat / 4) ≠ pad :=
    (digit_facts (by have := a.toNat_lt; omega)).2.1
  cases bytes using b64encode.fun_cases with
  | case1 => simp [b64encode]
  | case2 a => simpa [b64encode] using hFirst a
  | case3 a b => simpa [b64encode] using hFirst a
  | case4 a b c rest => simpa [b64encode] using hFirst a

/-- Strict decoding undoes encoding, for every length. -/
theorem b64decode_b64encode (bytes : Bytes) : b64decode (b64encode bytes) = some bytes := by
  have hAscii : ((b64encode bytes).any fun c => 0x80 ≤ c.val) = false := by
    rw [List.any_eq_false]
    intro ch hMem
    rcases mem_b64encode hMem with rfl | ⟨n, hn, rfl⟩
    · decide
    · simpa using (digit_facts hn).2.2
  rw [b64decode, if_neg (head_b64encode bytes), hAscii]
  exact decodeFrom_b64encode bytes

end RoundTrip

example : b64decode (b64encode [0, 255, 16, 131, 7]) = some [0, 255, 16, 131, 7] := by
  decide +kernel

example : b64decode (py "YWI==") = none := by decide +kernel

end Python.Base64
