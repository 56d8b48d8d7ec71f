import Krb5TokenService.Python.Utf8

/-! Lines of a pipe: of its bytes, and of a text stream over it, with newlines
left as they are or with universal newlines, which turn every `\r\n` and every
`\r` into `\n`. -/
namespace Python

def lineFeed : CodePoint := 0x0A

def carriageReturn : CodePoint := 0x0D

/-- The translation of newlines on input. -/
def universalNewlines : PyStr → PyStr
  | [] => []
  | [c] => [if c = carriageReturn then lineFeed else c]
  | c :: d :: rest =>
      if c = carriageReturn then
        if d = lineFeed then lineFeed :: universalNewlines rest
        else lineFeed :: universalNewlines (d :: rest)
      else c :: universalNewlines (d :: rest)

/-- The `newline` of a text stream. CPython opens `sys.stdin` with `"\n"` on
POSIX, where a line ends at `\n` only and nothing is translated; `None` is
universal newlines. -/
inductive NewlineMode where
  | lineFeedOnly
  | universal

namespace NewlineMode

def translate : NewlineMode → PyStr → PyStr
  | .lineFeedOnly => id
  | .universal => universalNewlines

/-- The characters that end a line. -/
def lineEnds : NewlineMode → List CodePoint
  | .lineFeedOnly => [lineFeed]
  | .universal => [lineFeed, carriageReturn]

end NewlineMode

/-- `readline()`: the first line, with its newline. -/
def readline : PyStr → PyStr
  | [] => []
  | c :: rest => if c = lineFeed then [c] else c :: readline rest

/-- `rstrip("\n")`. -/
def rstripNewline : PyStr → PyStr
  | [] => []
  | c :: rest => if rstripNewline rest = [] ∧ c = lineFeed then [] else c :: rstripNewline rest

/-- `sys.stdin.readline().rstrip("\n")`, where stdin is UTF-8. -/
def stdinLine (mode : NewlineMode) (bytes : Bytes) : Option PyStr :=
  bytes.decode.map fun text => rstripNewline (readline (mode.translate text))

/-- The bytes up to the first newline. -/
def Bytes.firstLine (bytes : Bytes) : Bytes := bytes.takeWhile (· ≠ 0x0A)

section Lines

theorem rstripNewline_cons {c : CodePoint} (h : c ≠ lineFeed) (text : PyStr) :
    rstripNewline (c :: text) = c :: rstripNewline text := by
  simp [rstripNewline, h]

theorem readline_cons {c : CodePoint} (h : c ≠ lineFeed) (text : PyStr) :
    readline (c :: text) = c :: readline text := by
  simp [readline, h]

theorem rstripNewline_readline_plain (text : PyStr) :
    rstripNewline (readline text) = text.takeWhile (· ≠ lineFeed) := by
  induction text with
  | nil => rfl
  | cons c rest ih =>
      by_cases hFeed : c = lineFeed
      · simp [hFeed, readline, rstripNewline]
      · rw [readline_cons hFeed, rstripNewline_cons hFeed, ih]
        simp [hFeed]

/-- With universal newlines a line ends at whichever of the two comes first. -/
theorem rstripNewline_readline_universal (text : PyStr) :
    rstripNewline (readline (universalNewlines text)) =
      text.takeWhile fun c => c ≠ lineFeed ∧ c ≠ carriageReturn := by
  induction text using universalNewlines.induct with
  | case1 => rfl
  | case2 c =>
      by_cases hReturn : c = carriageReturn
      · simp [universalNewlines, hReturn, readline, rstripNewline]
      · by_cases hFeed : c = lineFeed
        · simp [universalNewlines, hFeed, readline, rstripNewline]
        · simp [universalNewlines, hReturn, hFeed, readline, rstripNewline]
  | case3 rest ih => simp [universalNewlines, readline, rstripNewline]
  | case4 d rest hFeed ih => simp [universalNewlines, hFeed, readline, rstripNewline]
  | case5 c d rest hReturn ih =>
      rw [universalNewlines, if_neg hReturn]
      by_cases hFeed : c = lineFeed
      · simp [hFeed, readline, rstripNewline]
      · rw [readline_cons hFeed, rstripNewline_cons hFeed, ih]
        simp [hFeed, hReturn]

theorem rstripNewline_readline (mode : NewlineMode) (text : PyStr) :
    rstripNewline (readline (mode.translate text)) =
      text.takeWhile fun c => c ∉ mode.lineEnds := by
  cases mode with
  | lineFeedOnly =>
      simpa [NewlineMode.translate, NewlineMode.lineEnds] using rstripNewline_readline_plain text
  | universal =>
      simpa [NewlineMode.translate, NewlineMode.lineEnds] using
        rstripNewline_readline_universal text

theorem takeWhile_concat {keep : CodePoint → Bool} {c : CodePoint} (h : keep c = false)
    (text : PyStr) : (text ++ [c]).takeWhile keep = text.takeWhile keep := by
  induction text with
  | nil => simp [h]
  | cons d text ih => simp [List.takeWhile_cons, ih]

/-- The bytes up to the first newline encode the characters up to it. -/
theorem firstLine_flatMap_utf8 (text : PyStr) (rest : Bytes) :
    Bytes.firstLine (text.flatMap utf8 ++ 0x0A :: rest) =
      (text.takeWhile (· ≠ lineFeed)).flatMap utf8 := by
  unfold Bytes.firstLine
  induction text with
  | nil => simp
  | cons c text ih =>
      by_cases hFeed : c = lineFeed
      · subst hFeed
        rfl
      · have hBytes : ∀ b ∈ utf8 c, decide (b ≠ 0x0A) = true := by
          intro b hMem
          by_contra hNewline
          obtain rfl : b = 0x0A := by simpa using hNewline
          exact hFeed (Fin.ext (val_of_mem_utf8 (by decide) hMem))
        rw [List.flatMap_cons, List.append_assoc, List.takeWhile_append_of_pos hBytes, ih]
        simp [hFeed]

end Lines

end Python
