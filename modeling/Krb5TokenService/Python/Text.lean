import Mathlib.Data.List.Infix
import Mathlib.Data.UInt

/-! Python strings and bytes. A `str` is a sequence of code points and may
hold lone surrogates, which a Lean `String` cannot; a `bytes` is a list of
octets. The UTF-8 codecs follow CPython's strict encoder and its decoder with
`errors="replace"`. -/
namespace Python

abbrev CodePoint := Fin 0x110000

instance CodePoint.neZero : NeZero 0x110000 := ⟨by decide⟩

instance CodePoint.lawfulBEq : LawfulBEq CodePoint := inferInstance

abbrev PyStr := List CodePoint

instance PyStr.lawfulBEq : LawfulBEq PyStr := inferInstance

abbrev Bytes := List UInt8

def CodePoint.ofChar (c : Char) : CodePoint :=
  ⟨c.toNat, by
    have hValid := c.valid
    simp only [UInt32.isValidChar, Nat.isValidChar] at hValid
    simp only [Char.toNat]
    omega⟩

/-- A literal of the source as a Python string. -/
def py (s : String) : PyStr := s.toList.map CodePoint.ofChar

/-- `marker in text`. -/
def PyStr.contains (text marker : PyStr) : Bool := decide (marker <:+: text)

def replacementCharacter : CodePoint := 0xFFFD

def CodePoint.ofNat (n : Nat) : CodePoint :=
  if h : n < 0x110000 then ⟨n, h⟩ else replacementCharacter

def isSurrogate (c : CodePoint) : Bool := 0xD800 ≤ c.val && c.val ≤ 0xDFFF

/-- The UTF-8 form of one code point that is not a surrogate. -/
def utf8 (c : CodePoint) : Bytes :=
  let n := c.val
  let continuation (k : Nat) : UInt8 := UInt8.ofNat (0x80 + k % 64)
  if n < 0x80 then [UInt8.ofNat n]
  else if n < 0x800 then [UInt8.ofNat (0xC0 + n / 64), continuation n]
  else if n < 0x10000 then
    [UInt8.ofNat (0xE0 + n / 4096), continuation (n / 64), continuation n]
  else
    [UInt8.ofNat (0xF0 + n / 262144), continuation (n / 4096), continuation (n / 64),
      continuation n]

/-- `str.encode()`; `none` is the `UnicodeEncodeError` of a lone surrogate. -/
def PyStr.encode (s : PyStr) : Option Bytes :=
  if s.any isSurrogate then none else some (s.flatMap utf8)

/-- What a UTF-8 decoder still expects inside a multi-byte sequence: the
number of continuation bytes, the bits so far and the range of the next byte. -/
structure Pending where
  missing : Nat
  bits : Nat
  low : UInt8
  high : UInt8

inductive Lead where
  | complete (c : CodePoint)
  | sequence (pending : Pending)
  | invalid

/-- The well-formed first bytes. Second bytes are restricted after E0, ED, F0
and F4, which excludes overlong forms, surrogates and values past 10FFFF. -/
def leadByte (b : UInt8) : Lead :=
  if b < 0x80 then .complete (CodePoint.ofNat b.toNat)
  else if b < 0xC2 then .invalid
  else if b < 0xE0 then .sequence ⟨1, b.toNat - 0xC0, 0x80, 0xBF⟩
  else if b = 0xE0 then .sequence ⟨2, 0, 0xA0, 0xBF⟩
  else if b = 0xED then .sequence ⟨2, 0xD, 0x80, 0x9F⟩
  else if b < 0xF0 then .sequence ⟨2, b.toNat - 0xE0, 0x80, 0xBF⟩
  else if b = 0xF0 then .sequence ⟨3, 0, 0x90, 0xBF⟩
  else if b < 0xF4 then .sequence ⟨3, b.toNat - 0xF0, 0x80, 0xBF⟩
  else if b = 0xF4 then .sequence ⟨3, 4, 0x80, 0x8F⟩
  else .invalid

/-- The decoder: a code point for every well-formed sequence and `none` for
every maximal ill-formed part, after which the byte that broke it is read again. -/
def decodeParts : Option Pending → Bytes → List (Option CodePoint)
  | none, [] => []
  | some _, [] => [none]
  | none, b :: rest =>
      match leadByte b with
      | .complete c => some c :: decodeParts none rest
      | .sequence pending => decodeParts (some pending) rest
      | .invalid => none :: decodeParts none rest
  | some pending, b :: rest =>
      if pending.low ≤ b ∧ b ≤ pending.high then
        let bits := pending.bits * 64 + b.toNat % 64
        if pending.missing = 1 then some (CodePoint.ofNat bits) :: decodeParts none rest
        else decodeParts (some ⟨pending.missing - 1, bits, 0x80, 0xBF⟩) rest
      else
        none ::
          match leadByte b with
          | .complete c => some c :: decodeParts none rest
          | .sequence next => decodeParts (some next) rest
          | .invalid => none :: decodeParts none rest

/-- `bytes.decode(errors="replace")`. -/
def Bytes.decodeReplace (bytes : Bytes) : PyStr :=
  (decodeParts none bytes).map fun part => part.getD replacementCharacter

/-- `bytes.decode()`; `none` is a `UnicodeDecodeError`. -/
def Bytes.decode (bytes : Bytes) : Option PyStr :=
  (decodeParts none bytes).mapM id

/-- The code points `str.strip()` removes. -/
def isSpace (c : CodePoint) : Bool :=
  let n := c.val
  (9 ≤ n && n ≤ 13) || (28 ≤ n && n ≤ 32) || n = 0x85 || n = 0xA0 || n = 0x1680 ||
    (0x2000 ≤ n && n ≤ 0x200A) || n = 0x2028 || n = 0x2029 || n = 0x202F ||
    n = 0x205F || n = 0x3000

def PyStr.strip (s : PyStr) : PyStr :=
  ((s.dropWhile isSpace).reverse.dropWhile isSpace).reverse

example : Bytes.decodeReplace [0x6B, 0xE2, 0x82, 0xAC, 0xE0, 0x80, 0xF0, 0x9F] =
    [0x6B, 0x20AC, 0xFFFD, 0xFFFD, 0xFFFD] := by decide

example : PyStr.strip (py " kinit: no \n") = py "kinit: no" := by decide

end Python
