import Krb5TokenService.Minting.Frame

/-! The secrets that `mint_ticket` and `mint_keytab` take over: what is left
of them in memory when a call ends, whichever of its steps fails. -/
namespace Krb5TokenService.Minting

open Python EventLoop EventLoop.Task Krb5TokenService.Action

/-- The zeros that a buffer of these contents becomes. -/
def zeros (contents : Bytes) : Bytes := List.replicate contents.length 0

theorem zeros_congr {contents contents' : Bytes} (h : contents'.length = contents.length) :
    zeros contents' = zeros contents := by
  rw [zeros, zeros, h]

section Buffers

/-- These buffers stay where they are, at the length they have; the others may
come to anything. -/
def BuffersStay (own : List Ref) (w w' : World) : Prop :=
  ∀ buf ∈ own, ∀ contents : Bytes, w.heap[buf]? = some contents →
    ∃ contents' : Bytes, w'.heap[buf]? = some contents' ∧ contents'.length = contents.length

instance (own : List Ref) : IsPreorder World (BuffersStay own) where
  refl _ _ _ contents hContents := ⟨contents, hContents, rfl⟩
  trans _ _ _ h h' buf hOwn contents hContents := by
    obtain ⟨contents₁, hContents₁, hLength₁⟩ := h buf hOwn contents hContents
    obtain ⟨contents₂, hContents₂, hLength₂⟩ := h' buf hOwn contents₁ hContents₁
    exact ⟨contents₂, hContents₂, hLength₂.trans hLength₁⟩

theorem MintFrame.buffersStay {w w' : World} (h : MintFrame w w') (own : List Ref) :
    BuffersStay own w w' := by
  intro buf _ contents hContents
  obtain ⟨hIn, rfl⟩ := List.getElem?_eq_some_iff.mp hContents
  obtain ⟨hIn', hLength⟩ := h.buffers buf hIn
  refine ⟨w'.heap[buf], List.getElem?_eq_getElem hIn', ?_⟩
  simpa [List.getD, hIn, hIn'] using hLength

end Buffers

section Zeroing

/-- What `zeroFrom` writes, as a function of the contents. -/
def zeroRange : Nat → Nat → Bytes → Bytes
  | _, 0, bytes => bytes
  | i, count + 1, bytes => zeroRange (i + 1) count (bytes.set i 0)

theorem getElem?_zeroRange (i count : Nat) (bytes : Bytes) (j : Nat) :
    (zeroRange i count bytes)[j]? =
      if i ≤ j ∧ j < i + count then bytes[j]?.map fun _ => 0 else bytes[j]? := by
  induction count generalizing i bytes with
  | zero =>
      rw [zeroRange, if_neg (by omega)]
  | succ count ih =>
      rw [zeroRange, ih, List.getElem?_set']
      by_cases hHere : i = j
      · subst hHere
        rw [if_neg (by omega), if_pos rfl, if_pos (by omega)]
        cases bytes[i]? <;> rfl
      · rw [if_neg hHere]
        by_cases hIn : i + 1 ≤ j ∧ j < i + 1 + count
        · rw [if_pos hIn, if_pos (by omega)]
        · rw [if_neg hIn, if_neg (by omega)]

theorem zeroRange_all (bytes : Bytes) : zeroRange 0 bytes.length bytes = zeros bytes := by
  apply List.ext_getElem?
  intro j
  rw [getElem?_zeroRange, zeros, List.getElem?_replicate]
  by_cases hIn : j < bytes.length
  · simp [hIn]
  · simp [hIn]

/-- The world with one buffer overwritten by zeros. -/
def zeroed (w : World) (buf : Ref) : World :=
  { w with heap := w.heap.set buf (zeros (w.heap.getD buf [])) }

theorem set_getD_self (heap : List Bytes) (buf : Ref) : heap.set buf (heap.getD buf []) = heap := by
  by_cases hIn : buf < heap.length
  · simp [List.getD, hIn]
  · exact List.set_eq_of_length_le (Nat.le_of_not_lt hIn)

theorem advance_zeroFrom (buf : Ref) (i count : Nat) (w : World) :
    (zeroFrom buf i count).advance w =
      (.finished (.ok ()),
        { w with heap := w.heap.set buf (zeroRange i count (w.heap.getD buf [])) }) := by
  induction count generalizing i w with
  | zero =>
      rw [zeroRange, set_getD_self]
      rfl
  | succ count ih =>
      have hStep : (updateBytearray buf fun bytes => bytes.set i 0).advance w =
          (.finished (.ok ()),
            { w with heap := w.heap.set buf ((w.heap.getD buf []).set i 0) }) := rfl
      rw [zeroFrom, advance_bind_ok hStep, ih]
      by_cases hIn : buf < w.heap.length
      · simp [zeroRange, List.getD, hIn]
      · simp [List.set_eq_of_length_le (Nat.le_of_not_lt hIn)]

theorem advance_zeroBytearray (buf : Ref) (w : World) :
    (zeroBytearray buf).advance w = (.finished (.ok ()), zeroed w buf) := by
  have hRead : (readBytearray buf).advance w = (.finished (.ok (w.heap.getD buf [])), w) := rfl
  rw [zeroBytearray, advance_bind_ok hRead, advance_zeroFrom, zeroRange_all]
  rfl

theorem advance_zeroIfGiven_some (buf : Ref) (w : World) :
    (zeroIfGiven (some buf)).advance w = (.finished (.ok ()), zeroed w buf) :=
  advance_zeroBytearray buf w

theorem zeroed_self {w : World} {buf : Ref} {contents : Bytes}
    (h : w.heap[buf]? = some contents) : (zeroed w buf).heap[buf]? = some (zeros contents) := by
  obtain ⟨hIn, rfl⟩ := List.getElem?_eq_some_iff.mp h
  simp [zeroed, List.getD, hIn]

/-- What is zero stays zero when another buffer, or the same, is zeroed. -/
theorem zeroed_zeros {w : World} {buf : Ref} {contents : Bytes} (other : Ref)
    (h : w.heap[buf]? = some (zeros contents)) :
    (zeroed w other).heap[buf]? = some (zeros contents) := by
  by_cases hSame : buf = other
  · subst hSame
    rw [zeroed_self h]
    simp [zeros]
  · simp [zeroed, List.getElem?_set_ne (Ne.symm hSame), h]

end Zeroing

/-- A call that takes a secret over: `mint_ticket` with a password or with a
keytab, or `mint_keytab` with a password. -/
inductive SecretCall where
  | kinitPassword (username lifetime renewableLifetime : PyStr)
  | kinitKeytab (username lifetime renewableLifetime : PyStr)
  | cernGetKeytab (username : PyStr)

/-- The secret goes to the child's stdin, by way of a second buffer. -/
def SecretCall.FeedsStdin : SecretCall → Prop
  | .kinitPassword .. | .cernGetKeytab _ => True
  | .kinitKeytab .. => False

section Calls

variable (settings : Settings) (krb5 : Krb5) (env : Env)
    (answer : (query : Query) → World → Reply query × World)

/-- The state once the call has returned or raised. -/
def SecretCall.after (buf : Ref) (w : World) : SecretCall → World
  | .kinitPassword username lifetime renewableLifetime =>
      ((mintTicket settings krb5 env username (some buf) lifetime renewableLifetime none).run
        answer w).2
  | .kinitKeytab username lifetime renewableLifetime =>
      ((mintTicket settings krb5 env username none lifetime renewableLifetime (some buf)).run
        answer w).2
  | .cernGetKeytab username => ((mintKeytab settings env username buf).run answer w).2

/-- Only zeros are left of the secret and, if it was built, of the buffer with
the child's stdin, which is the first one the call allocates. -/
structure SecretsZeroed (call : SecretCall) (buf : Ref) (contents : Bytes) (w w' : World) :
    Prop where
  secret : w'.heap[buf]? = some (zeros contents)
  stdin : call.FeedsStdin → ∀ payload, w'.heap[w.heap.length]? = some payload →
    payload = zeros (contents ++ [0x0A])

variable {settings krb5 env answer} {α β : Type} {w : World} {buf payload : Ref}
    {contents stdin : Bytes}

theorem run_andFinally_of_advance {body : Action α} {cleanup : Action Unit}
    {update : World → World}
    (hCleanup : ∀ w', cleanup.advance w' = (.finished (.ok ()), update w')) :
    ((body.andFinally cleanup).run answer w).2 = update (body.run answer w).2 := by
  rw [run_andFinally]
  have hEnd := advance_bind_ok (f := fun _ => Task.ofExcept (body.run answer w).1)
    (hCleanup (body.run answer w).2)
  rw [run_of_finished answer hEnd]

theorem run_map_state (task : Action α) (f : α → β) :
    ((do let value ← task; pure (f value) : Action β).run answer w).2 = (task.run answer w).2 := by
  rw [run_bind]
  rcases task.run answer w with ⟨_ | value, w'⟩ <;> rfl

section Cleanup

variable {own : List Ref} (hOwn : ∀ query v, BuffersStay own v (answer query v).2)

include hOwn

theorem body_buffersStay {body : Action α} (hBody : body.Keeps MintFrame) :
    BuffersStay own w (body.run answer w).2 :=
  (hBody.mono fun _ _ h => h.buffersStay own).run hOwn w

/-- A `finally` that zeroes one buffer. -/
theorem finally_zeroes {body : Action α} (hBody : body.Keeps MintFrame) (cleanup : Action Unit)
    (hCleanup : ∀ w', cleanup.advance w' = (.finished (.ok ()), zeroed w' buf))
    (hBuf : buf ∈ own) (hSecret : w.heap[buf]? = some contents) :
    ((body.andFinally cleanup).run answer w).2.heap[buf]? = some (zeros contents) := by
  obtain ⟨left, hLeft, hLength⟩ := body_buffersStay hOwn hBody buf hBuf contents hSecret
  rw [run_andFinally_of_advance hCleanup, zeroed_self hLeft, zeros_congr hLength]

/-- A `finally` that zeroes two. -/
theorem finally_zeroes_both {body : Action α} (hBody : body.Keeps MintFrame)
    (cleanup : Action Unit)
    (hCleanup : ∀ w', cleanup.advance w' = (.finished (.ok ()), zeroed (zeroed w' payload) buf))
    (hBuf : buf ∈ own) (hPayload : payload ∈ own) (hNe : buf ≠ payload)
    (hSecret : w.heap[buf]? = some contents) (hStdin : w.heap[payload]? = some stdin) :
    ((body.andFinally cleanup).run answer w).2.heap[buf]? = some (zeros contents) ∧
      ((body.andFinally cleanup).run answer w).2.heap[payload]? = some (zeros stdin) := by
  have hStay := body_buffersStay (w := w) hOwn hBody
  obtain ⟨left, hLeft, hLength⟩ := hStay buf hBuf contents hSecret
  obtain ⟨left', hLeft', hLength'⟩ := hStay payload hPayload stdin hStdin
  rw [run_andFinally_of_advance hCleanup]
  constructor
  · have hKept : (zeroed (body.run answer w).2 payload).heap[buf]? = some left := by
      simp [zeroed, List.getElem?_set_ne (Ne.symm hNe), hLeft]
    rw [zeroed_self hKept, zeros_congr hLength]
  · rw [← zeros_congr hLength']
    exact zeroed_zeros buf (zeroed_self hLeft')

end Cleanup

/-- Nothing has happened to a buffer when the call's first step fails. -/
theorem after_unprepared {message : PyStr} (hRoot : env.mkdirRoot = some message)
    (call : SecretCall) : call.after settings krb5 env answer buf w = w := by
  have hMkdir : (fileSystemStep env.mkdirRoot).advance w =
      (.finished (.error (.osError message)), w) := by rw [hRoot]; rfl
  cases call with
  | kinitPassword username lifetime renewableLifetime =>
      exact congrArg Prod.snd (run_bind_error answer hMkdir)
  | kinitKeytab username lifetime renewableLifetime =>
      exact congrArg Prod.snd (run_bind_error answer hMkdir)
  | cernGetKeytab username => exact congrArg Prod.snd (run_bind_error answer hMkdir)

/-- What happens during the await does not move or resize the call's own two
buffers: the caller's, and the one for stdin, which is the first that the call
allocates. -/
def KeepsOwn (answer : (query : Query) → World → Reply query × World) (buf : Ref) (w : World) :
    Prop :=
  ∀ query v, BuffersStay [buf, w.heap.length] v (answer query v).2

variable (hOwn : KeepsOwn answer buf w)

include hOwn

/-- Past the first step every path leads through the `finally`. -/
theorem after_prepared (hRoot : env.mkdirRoot = none) (call : SecretCall)
    (hSecret : w.heap[buf]? = some contents) :
    SecretsZeroed call buf contents w (call.after settings krb5 env answer buf w) := by
  have hMkdir : (fileSystemStep env.mkdirRoot).advance w = (.finished (.ok ()), w) := by
    rw [hRoot]
    rfl
  obtain ⟨hIn, hHeap⟩ := List.getElem?_eq_some_iff.mp hSecret
  have hRead : w.heap.getD buf [] = contents := by simp [List.getD, hSecret]
  -- the state once the stdin buffer is built
  let built : World := { w with heap := w.heap ++ [contents ++ [0x0A]] }
  have hBuild : (newStdinPayload buf).advance w =
      (.finished (.ok w.heap.length), built) := by
    simp only [built, ← hRead]
    rfl
  have hKept : built.heap[buf]? = some contents := by
    simp [built, List.getElem?_append_left hIn, hSecret]
  have hStdin : built.heap[w.heap.length]? = some (contents ++ [0x0A]) := by simp [built]
  have hNe : buf ≠ w.heap.length := Nat.ne_of_lt hIn
  cases call with
  | kinitPassword username lifetime renewableLifetime =>
      have hPayload : (stdinPayloadFor (some buf)).advance w =
          (.finished (.ok (some w.heap.length)), built) := by
        rw [stdinPayloadFor, map_eq_bind, advance_bind_ok hBuild]
        rfl
      have hBoth := finally_zeroes_both (w := built) hOwn
        (mintFrame_harmless.keeps_withTemporaryDirectory env fun tmpdir =>
          mintFrame_harmless.keeps_kinitInDirectory settings krb5 env username
            (some w.heap.length) lifetime renewableLifetime none tmpdir)
        (do
          zeroIfGiven (some w.heap.length)
          zeroIfGiven (some buf)
          zeroIfGiven none)
        (fun w' => by
          rw [advance_bind_ok (advance_zeroIfGiven_some _ w'),
            advance_bind_ok (advance_zeroIfGiven_some _ _)]
          rfl)
        (by simp) (by simp) hNe hKept hStdin
      have hAfter : SecretCall.after settings krb5 env answer buf w
          (.kinitPassword username lifetime renewableLifetime) = _ :=
        congrArg Prod.snd ((run_bind_ok answer hMkdir).trans (run_bind_ok answer hPayload))
      rw [hAfter, run_map_state]
      refine ⟨hBoth.1, fun _ payload hPayload => ?_⟩
      exact Option.some.inj (hPayload.symm.trans hBoth.2)
  | kinitKeytab username lifetime renewableLifetime =>
      have hSame : (stdinPayloadFor none).advance w = (.finished (.ok none), w) := rfl
      have hOne := finally_zeroes (w := w) hOwn
        (mintFrame_harmless.keeps_withTemporaryDirectory env fun tmpdir =>
          mintFrame_harmless.keeps_kinitInDirectory settings krb5 env username none lifetime
            renewableLifetime (some buf) tmpdir)
        (do
          zeroIfGiven none
          zeroIfGiven none
          zeroIfGiven (some buf))
        (fun w' => advance_zeroIfGiven_some buf w') (by simp) hSecret
      have hAfter : SecretCall.after settings krb5 env answer buf w
          (.kinitKeytab username lifetime renewableLifetime) = _ :=
        congrArg Prod.snd ((run_bind_ok answer hMkdir).trans (run_bind_ok answer hSame))
      rw [hAfter, run_map_state]
      exact ⟨hOne, fun hFeeds => hFeeds.elim⟩
  | cernGetKeytab username =>
      have hBoth := finally_zeroes_both (w := built) hOwn
        (mintFrame_harmless.keeps_withTemporaryDirectory env fun tmpdir =>
          mintFrame_harmless.keeps_keytabInDirectory settings env username w.heap.length tmpdir)
        (do
          zeroBytearray w.heap.length
          zeroBytearray buf)
        (fun w' => by
          rw [advance_bind_ok (advance_zeroBytearray _ w'), advance_zeroBytearray])
        (by simp) (by simp) hNe hKept hStdin
      have hAfter : SecretCall.after settings krb5 env answer buf w (.cernGetKeytab username) = _ :=
        congrArg Prod.snd ((run_bind_ok answer hMkdir).trans (run_bind_ok answer hBuild))
      rw [hAfter]
      refine ⟨hBoth.1, fun _ payload hPayload => ?_⟩
      exact Option.some.inj (hPayload.symm.trans hBoth.2)

/-- When the call returns or raises, its secrets hold only zeros exactly if
its first step succeeded, or there was nothing to zero, whatever others do to
their own buffers while it waits. -/
theorem secrets_zeroed_iff (call : SecretCall) (hSecret : w.heap[buf]? = some contents) :
    SecretsZeroed call buf contents w (call.after settings krb5 env answer buf w) ↔
      env.mkdirRoot = none ∨ ∀ byte ∈ contents, byte = 0 := by
  cases hRoot : env.mkdirRoot with
  | none => exact iff_of_true (after_prepared hOwn hRoot call hSecret) (.inl rfl)
  | some message =>
      rw [after_unprepared hRoot call]
      constructor
      · rintro ⟨hZeros, _⟩
        have hSame : contents = zeros contents := Option.some.inj (hSecret.symm.trans hZeros)
        refine .inr fun byte hByte => ?_
        rw [hSame] at hByte
        exact List.eq_of_mem_replicate hByte
      · rintro (hNone | hZero)
        · cases hNone
        · have hSame : contents = zeros contents :=
            List.eq_replicate_iff.mpr ⟨rfl, hZero⟩
          refine ⟨hSecret.trans (congrArg some hSame), fun _ payload hPayload => ?_⟩
          simp at hPayload

end Calls

section Cases

/-- An operating system for one call, up to the creation of the directory all
private ones go into. -/
def systemWithRoot (mkdirRoot : Option PyStr) : Env where
  executable := py "/usr/bin/python3"
  uuid := py "request-1"
  tmpdir := py "/tmp/krb5cc/tmp1"
  mkdirRoot := mkdirRoot
  mkdtemp := none
  writeInput := none
  chmodInput := none
  readBack := none
  rmtree := none
  krb5Input := none
  krb5Output := none

/-- The child is cancelled; in the meantime another request zeroes a buffer of
its own and takes a new one. -/
def cancelledChild : (query : Query) → World → Reply query × World
  | .jwks, w => (.cancelled, w)
  | .child _, w => (.cancelled, { w with heap := w.heap.set 1 [0] ++ [[0x78]] })

/-- The password `pw` in a buffer, and the secret of another request. -/
def passwordWorld : World := ⟨fun _ => none, 0, [], [[0x70, 0x77], [0x79]], fun _ => none⟩

theorem cancelledChild_keepsOwn : KeepsOwn cancelledChild 0 passwordWorld := by
  intro query v buf hBuf contents hContents
  refine ⟨contents, ?_, rfl⟩
  cases query with
  | jwks => exact hContents
  | child spec =>
      obtain ⟨hIn, -⟩ := List.getElem?_eq_some_iff.mp hContents
      have hOther : 1 ≠ buf := by
        rintro rfl
        simp [passwordWorld] at hBuf
      simp only [cancelledChild]
      rw [List.getElem?_append_left (by simpa using hIn), List.getElem?_set_ne hOther, hContents]

theorem cancelled_call_zeroed :
    SecretsZeroed (.cernGetKeytab (py "gstark")) 0 [0x70, 0x77] passwordWorld
      ((SecretCall.cernGetKeytab (py "gstark")).after {} ⟨fun _ => .error []⟩
        (systemWithRoot none) cancelledChild 0 passwordWorld) :=
  (secrets_zeroed_iff cancelledChild_keepsOwn _ rfl).mpr (.inl rfl)

/-- The directory that all private ones go into cannot be made: the password
stays in memory. -/
theorem unmade_root_not_zeroed :
    ¬ SecretsZeroed (.kinitPassword (py "gstark") (py "24h") (py "7d")) 0 [0x70, 0x77]
      passwordWorld
      ((SecretCall.kinitPassword (py "gstark") (py "24h") (py "7d")).after {} ⟨fun _ => .error []⟩
        (systemWithRoot (some (py "Read-only file system"))) cancelledChild 0 passwordWorld) := by
  rintro ⟨hZeros, _⟩
  have hKept : ((SecretCall.kinitPassword (py "gstark") (py "24h") (py "7d")).after {}
      ⟨fun _ => .error []⟩ (systemWithRoot (some (py "Read-only file system"))) cancelledChild 0
      passwordWorld).heap[0]? = some [0x70, 0x77] := by decide
  exact absurd (hKept.symm.trans hZeros) (by decide)

end Cases

end Krb5TokenService.Minting
