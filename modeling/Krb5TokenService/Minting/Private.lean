import Krb5TokenService.EventLoop.Owned
import Krb5TokenService.Minting.Zeroed

/-! What the minting operations do to memory and files, while other requests do
the same: the buffers and the directory of a request are its own. -/
namespace Krb5TokenService.Minting

open Python EventLoop EventLoop.Task Krb5TokenService.Action

/-- A bytearray on the heap, or a file. -/
inductive Cell where
  | buffer (ref : Ref)
  | file (path : PyStr)

/-- A buffer is clean once it holds only zeros, a path once there is no file. -/
def privateCells : Cells World Cell (Option Bytes) where
  look
    | w, .buffer ref => w.heap[ref]?
    | w, .file path => w.files path
  Clean
    | .buffer _, contents => ∀ bytes ∈ contents, ∀ byte ∈ bytes, byte = 0
    | .file _, contents => contents = none

/-- The paths below a directory. -/
def below (directory : PyStr) : Set Cell :=
  {c | ∃ path, c = .file path ∧ (directory ++ py "/") <+: path}

/-- The buffers that are yet to be allocated. -/
def freshBuffers (w : World) : Set Cell := {c | ∃ ref, c = .buffer ref ∧ w.heap.length ≤ ref}

/-- The heap and the files are as they were. -/
structure Undisturbed (w w' : World) : Prop where
  heap : w'.heap = w.heap
  files : w'.files = w.files

instance : IsPreorder World Undisturbed where
  refl _ := ⟨rfl, rfl⟩
  trans _ _ _ h h' := ⟨h'.heap.trans h.heap, h'.files.trans h.files⟩

section Updates

variable {w w' : World} {owned dirty : Set Cell}

theorem Undisturbed.same (h : Undisturbed w w') (these : Set Cell) :
    privateCells.Same these w w' := by
  intro c _
  cases c with
  | buffer ref => exact congrArg (·[ref]?) h.heap
  | file path => exact congrFun h.files path

theorem same_alloc (w : World) (contents : Bytes) :
    privateCells.Same {Cell.buffer w.heap.length}ᶜ w
      { w with heap := w.heap ++ [contents] } := by
  intro c hc
  cases c with
  | file path => rfl
  | buffer ref =>
      have hNe : ref ≠ w.heap.length := fun hEq => hc (by rw [hEq]; rfl)
      show (w.heap ++ [contents])[ref]? = w.heap[ref]?
      rcases Nat.lt_or_gt_of_ne hNe with hLt | hGt
      · exact List.getElem?_append_left hLt
      · rw [List.getElem?_eq_none (by simp; omega), List.getElem?_eq_none (by omega)]

theorem same_store (w : World) (path : PyStr) (contents : Option Bytes) :
    privateCells.Same {Cell.file path}ᶜ w (w.store path contents) := by
  intro c hc
  cases c with
  | buffer ref => rfl
  | file other =>
      have hNe : other ≠ path := fun hEq => hc (by rw [hEq]; rfl)
      exact Function.update_of_ne hNe _ _

theorem same_zeroed (w : World) (buf : Ref) :
    privateCells.Same {Cell.buffer buf}ᶜ w (zeroed w buf) := by
  intro c hc
  cases c with
  | file path => rfl
  | buffer ref =>
      have hNe : buf ≠ ref := fun hEq => hc (by rw [hEq]; rfl)
      exact List.getElem?_set_ne hNe

theorem tidy_zeroed (w : World) (buf : Ref) :
    privateCells.Tidy {Cell.buffer buf} (zeroed w buf) := by
  rintro _ rfl bytes hBytes byte hByte
  have hHeap : (zeroed w buf).heap[buf]? = some bytes := hBytes
  cases hContents : w.heap[buf]? with
  | none =>
      have hOut := List.getElem?_eq_none_iff.mp hContents
      rw [zeroed, List.getElem?_eq_none (by simpa using hOut)] at hHeap
      cases hHeap
  | some contents =>
      rw [zeroed_self hContents] at hHeap
      obtain rfl := Option.some.inj hHeap
      exact List.eq_of_mem_replicate hByte

/-- The state once a private directory is removed. -/
def withoutDirectory (w : World) (directory : PyStr) : World :=
  { w with files := fun path => if (directory ++ py "/") <+: path then none else w.files path }

theorem same_withoutDirectory (w : World) (directory : PyStr) :
    privateCells.Same (below directory)ᶜ w (withoutDirectory w directory) := by
  intro c hc
  cases c with
  | buffer ref => rfl
  | file path => exact if_neg fun hBelow => hc ⟨path, rfl, hBelow⟩

theorem tidy_withoutDirectory (w : World) (directory : PyStr) :
    privateCells.Tidy (below directory) (withoutDirectory w directory) := by
  rintro _ ⟨path, rfl, hBelow⟩
  exact if_pos hBelow

end Updates

section Leaves

variable {α : Type} (env : Env)

theorem calm_log (level : LogLevel) (event : String) (fields : List (String × LogValue)) :
    (log level event fields).Calm Undisturbed := calm_modify fun _ => ⟨rfl, rfl⟩

theorem calm_fileSystemStep (failure : Option PyStr) :
    (fileSystemStep failure).Calm Undisturbed := by
  cases failure with
  | none => exact calm_pure ()
  | some message => exact calm_throw _

theorem calm_world : world.Calm Undisturbed := calm_get fun _ => ⟨rfl, rfl⟩

theorem calm_readBytes (path : PyStr) : (readBytes env path).Calm Undisturbed := by
  refine (calm_fileSystemStep env.readBack).bind fun _ => calm_world.bind fun w => ?_
  cases w.files path with
  | none => exact calm_throw _
  | some contents => exact calm_pure contents

theorem calm_readOutput (path username : PyStr) (missing empty : String)
    (noFile emptyFile : PyStr) :
    (readOutput env path username missing empty noFile emptyFile).Calm Undisturbed := by
  refine ((calm_readBytes env path).tryCatch fun exc => ?_).bind fun contents => ?_
  · cases exc with
    | osError message => exact (calm_log _ _ _).bind fun _ => calm_throw _
    | _ => exact calm_throw _
  · by_cases hEmpty : contents = []
    · simp only [hEmpty, if_true]
      exact (calm_log _ _ _).bind fun _ => calm_throw _
    · simp only [hEmpty, if_false]
      exact calm_pure contents

theorem calm_readCcacheFile (krb5 : Krb5) (failure : Option PyStr) (path : PyStr) :
    (readCcacheFile krb5 failure path).Calm Undisturbed :=
  calm_world.bind fun w => calm_ofExcept (readCcache krb5 failure (w.files path))

theorem calm_raiseFailure (event : String) (username stderr : PyStr) (returncode : ℤ)
    (classified : Option PyExc) (expected : PyExc → Bool) (unclassified : PyStr) :
    (raiseFailure event username stderr returncode classified expected unclassified :
      Action α).Calm Undisturbed := by
  cases classified with
  | none => exact (calm_log _ _ _).bind fun _ => calm_throw _
  | some exc =>
      cases hExpected : expected exc with
      | false =>
          simp only [raiseFailure, hExpected]
          exact (calm_log _ _ _).bind fun _ => calm_throw _
      | true =>
          simp only [raiseFailure, hExpected]
          exact (calm_pure ()).bind fun _ => calm_throw _

theorem calm_afterKinit (krb5 : Krb5) (username : PyStr) (keytabMode : Bool) (tmpdir : PyStr)
    (result : CompletedProcess) :
    (afterKinit krb5 env username keytabMode tmpdir result).Calm Undisturbed := by
  unfold afterKinit
  split
  · exact calm_raiseFailure ..
  · exact (calm_readOutput ..).bind fun _ =>
      (calm_readCcacheFile krb5 _ _).bind fun _ => calm_pure _

theorem calm_afterRenew (krb5 : Krb5) (tmpdir : PyStr) (result : CompletedProcess) :
    (afterRenew krb5 env tmpdir result).Calm Undisturbed := by
  unfold afterRenew
  split
  · cases hClass : classifyRenewStderr (stderrText result.stderr) with
    | some exc => simpa only [hClass] using calm_throw exc
    | none =>
        simp only [hClass]
        exact (calm_log _ _ _).bind fun _ => calm_throw _
  · refine (calm_readBytes ..).bind fun renewed => ?_
    by_cases hEmpty : renewed = []
    · simp only [hEmpty, if_true]
      exact (calm_log _ _ _).bind fun _ => calm_throw _
    · simp only [hEmpty, if_false]
      exact (calm_readCcacheFile krb5 _ _).bind fun _ => calm_pure _

theorem calm_afterKeytab (username tmpdir : PyStr) (result : CompletedProcess) :
    (afterKeytab env username tmpdir result).Calm Undisturbed := by
  unfold afterKeytab
  split
  · exact calm_raiseFailure ..
  · exact calm_readOutput ..

end Leaves

/-- One buffer for each of these secrets. -/
def Buffers (secrets : List Bytes) (refs : Set Ref) (w : World) : Prop :=
  ∃ order : List Ref, order.Nodup ∧ (∀ ref, ref ∈ refs ↔ ref ∈ order) ∧
    order.map (fun ref => w.heap[ref]?) = secrets.map some

/-- What a request holds while its child runs: a buffer for each of its
secrets, and below its private directory the child's input file, if there is
one, and no other. -/
structure Holding (directory : PyStr) (secrets : List Bytes) (input : Option (PyStr × Bytes))
    (owned : Set Cell) (w : World) : Prop where
  paths : ∀ path, .file path ∈ owned → (directory ++ py "/") <+: path
  buffers : Buffers secrets {ref | .buffer ref ∈ owned} w
  files : ∀ path contents,
    .file path ∈ owned ∧ w.files path = some contents ↔ input = some (path, contents)

section Held

variable {directory : PyStr} {owned : Set Cell} {w w' : World}

/-- It concerns no one else's cells. -/
theorem Holding.same {secrets : List Bytes} {input : Option (PyStr × Bytes)}
    (h : Holding directory secrets input owned w) (hSame : privateCells.Same owned w w') :
    Holding directory secrets input owned w' where
  paths := h.paths
  buffers := by
    obtain ⟨order, hNodup, hOrder, hContents⟩ := h.buffers
    refine ⟨order, hNodup, hOrder, ?_⟩
    rw [← hContents]
    exact List.map_congr_left fun ref hRef => hSame _ ((hOrder ref).mpr hRef)
  files path contents := by
    rw [← h.files path contents]
    refine and_congr_right fun hPath => ?_
    have hFile : w'.files path = w.files path := hSame _ hPath
    rw [hFile]

theorem buffer_notMem_below (ref : Ref) : .buffer ref ∉ below directory := by
  rintro ⟨path, hPath, -⟩
  cases hPath

/-- A password, and what the child reads on its stdin. -/
theorem holding_of_stdin {buf payload : Ref} {password : Bytes}
    (hSecret : w.heap[buf]? = some password)
    (hStdin : w.heap[payload]? = some (password ++ [0x0A]))
    (hTidy : privateCells.Tidy (below directory) w) :
    Holding directory [password, password ++ [0x0A]] none
      ({.buffer payload, .buffer buf} ∪ below directory) w where
  paths path hPath := by
    rcases hPath with (hBuffer | hBuffer) | ⟨path', hEq, hBelow⟩
    · cases hBuffer
    · cases hBuffer
    · cases hEq
      exact hBelow
  buffers := by
    have hNe : buf ≠ payload := by
      rintro rfl
      have hEq := congrArg List.length (Option.some.inj (hSecret.symm.trans hStdin))
      simp at hEq
    refine ⟨[buf, payload], by simpa using hNe, fun ref => ?_, by simp [hSecret, hStdin]⟩
    constructor
    · rintro ((hBuffer | hBuffer) | hFile)
      · cases hBuffer
        simp
      · cases hBuffer
        simp
      · exact absurd hFile (buffer_notMem_below ref)
    · intro hRef
      rcases List.mem_cons.mp hRef with rfl | hRef
      · exact .inl (.inr rfl)
      · obtain rfl := List.mem_singleton.mp hRef
        exact .inl (.inl rfl)
  files path contents := by
    constructor
    · rintro ⟨(hBuffer | hBuffer) | hBelow, hFile⟩
      · cases hBuffer
      · cases hBuffer
      · have hNone : w.files path = none := hTidy _ hBelow
        rw [hNone] at hFile
        cases hFile
    · intro hInput
      cases hInput

/-- A file that the child reads. -/
theorem holding_of_file {secrets : List Bytes} {refs : Set Ref} {path : PyStr} {input : Bytes}
    (hBuffers : Buffers secrets refs w)
    (hPath : .file path ∈ below directory) (hFile : w.files path = some input)
    (hTidy : privateCells.Tidy (below directory \ {.file path}) w) :
    Holding directory secrets (some (path, input)) (Cell.buffer '' refs ∪ below directory) w where
  paths other hOther := by
    rcases hOther with ⟨ref, -, hBuffer⟩ | ⟨path', hEq, hBelow⟩
    · cases hBuffer
    · cases hEq
      exact hBelow
  buffers := by
    obtain ⟨order, hNodup, hOrder, hContents⟩ := hBuffers
    refine ⟨order, hNodup, fun ref => Iff.trans ⟨?_, ?_⟩ (hOrder ref), hContents⟩
    · rintro (⟨ref', hIn, hEq⟩ | hBelow)
      · cases hEq
        exact hIn
      · exact absurd hBelow (buffer_notMem_below ref)
    · exact fun hIn => .inl ⟨ref, hIn, rfl⟩
  files other contents := by
    constructor
    · rintro ⟨⟨ref, -, hBuffer⟩ | hBelow, hContents⟩
      · cases hBuffer
      · by_cases hHere : other = path
        · subst hHere
          rw [hFile] at hContents
          cases hContents
          rfl
        · have hNone : w.files other = none :=
            hTidy _ ⟨hBelow, fun hEq => hHere (Cell.file.inj hEq)⟩
          rw [hNone] at hContents
          cases hContents
    · intro hInput
      cases hInput
      exact ⟨.inr hPath, hFile⟩

end Held

section Operations

variable {α : Type} {grants : (query : Query) → World → Set Cell}
    {Holds : (query : Query) → Set Cell → World → Prop} {owned dirty : Set Cell} {w w' : World}
    {post : Except PyExc α → Set Cell → World → World → Prop} {env : Env}

theorem confined_undisturbed {w'' : World} (h : privateCells.Confined owned dirty w w')
    (hSame : Undisturbed w' w'') : privateCells.Confined owned dirty w w'' :=
  h.same (hSame.same _)

theorem confined_zeroed {buf : Ref} (h : privateCells.Confined owned dirty w w')
    (hOwned : .buffer buf ∈ owned) :
    privateCells.Confined owned (dirty \ {.buffer buf}) w (zeroed w' buf) :=
  h.clean (Set.singleton_subset_iff.mpr hOwned) (same_zeroed w' buf) (tidy_zeroed w' buf)

/-- A part that leaves memory and files alone. -/
theorem minds_of_calm {task : Action α} (hCalm : task.Calm Undisturbed)
    (hConfined : privateCells.Confined owned dirty w w')
    (hPost : ∀ outcome t, privateCells.Confined owned dirty w t → post outcome owned w t) :
    task.Minds privateCells grants Holds post owned w w' :=
  .of_calm hCalm fun outcome _ hSame => hPost outcome _ (confined_undisturbed hConfined hSame)

theorem advance_readBytearray {buf : Ref} {contents : Bytes}
    (h : w.heap[buf]? = some contents) :
    (readBytearray buf).advance w = (.finished (.ok contents), w) := by
  have hContents : w.heap.getD buf [] = contents := by simp [List.getD, h]
  rw [← hContents]
  rfl

theorem fileSystemStep_minds {failure : Option PyStr}
    {post : Except PyExc Unit → Set Cell → World → World → Prop}
    (hFailed : ∀ message, post (.error (.osError message)) owned w w')
    (hDone : post (.ok ()) owned w w') :
    (fileSystemStep failure).Minds privateCells grants Holds post owned w w' := by
  cases failure with
  | some message => exact hFailed message
  | none => exact hDone

variable (hGrants : ∀ spec w, grants (.child spec) w = ∅)

section

include hGrants

/-- A child, and what follows it: only its output is written. -/
theorem runSubprocess_minds {spec : ChildSpec} {after : CompletedProcess → Action α}
    (hConfined : privateCells.Confined owned dirty w w') (hOutput : .file spec.output ∈ dirty)
    (hAfter : ∀ result, (after result).Calm Undisturbed) (hHolds : Holds (.child spec) dirty w')
    (hPost : ∀ outcome t u, privateCells.Confined dirty dirty t u → post outcome dirty t u) :
    (runSubprocess spec >>= after).Minds privateCells grants Holds post owned w w' := by
  refine ⟨dirty, hConfined, hHolds, fun reply t hSame hTidy => ?_⟩
  rw [hGrants, Set.union_empty]
  have hHere : privateCells.Confined dirty dirty t t :=
    .start Set.Subset.rfl (by rw [Set.sdiff_self]; exact fun _ hc => hc.elim)
  change ((completed spec reply) >>= after).Minds privateCells grants Holds post dirty t t
  cases reply with
  | spawnFailed error =>
      exact minds_of_calm (((calm_log _ _ _).bind fun _ => calm_throw _).bind hAfter) hHere
        fun outcome u => hPost outcome t u
  | timedOut =>
      exact minds_of_calm (((calm_log _ _ _).bind fun _ => calm_throw _).bind hAfter) hHere
        fun outcome u => hPost outcome t u
  | cancelled => exact hPost _ _ _ hHere
  | exited returncode stdout stderr output =>
      have hStored : (completed spec (.exited returncode stdout stderr output)).advance t =
          (.finished (.ok ⟨returncode, stdout, stderr⟩), t.store spec.output output) := rfl
      refine Minds.step hStored (minds_of_calm (hAfter _) ?_ fun outcome u => hPost outcome t u)
      exact hHere.update (Set.singleton_subset_iff.mpr hOutput) (same_store t _ output)

end

/-- A private directory: whatever is left below it when its body ends goes
with it. -/
theorem withTemporaryDirectory_minds {body : PyStr → Action α} (hRemove : env.rmtree = none)
    (hConfined : privateCells.Confined owned dirty w w')
    (hBody : (body env.tmpdir).Minds privateCells grants Holds
      (fun _ owned => privateCells.Confined owned (dirty ∪ below env.tmpdir)) owned w w')
    (hPost : ∀ outcome owned t u, privateCells.Confined owned dirty t u → post outcome owned t u) :
    (withTemporaryDirectory env body).Minds privateCells grants Holds post owned w w' := by
  unfold withTemporaryDirectory
  cases env.mkdtemp with
  | some message => exact hPost _ _ _ _ hConfined
  | none =>
      refine Minds.step rfl (.andFinally (hBody.mono fun outcome owned t u h => ?_))
      have hRemoved : (removeDirectory env env.tmpdir).advance u =
          (.finished (.ok ()), withoutDirectory u env.tmpdir) := by
        rw [removeDirectory, hRemove]
        rfl
      refine Minds.step hRemoved (.of_finished rfl (hPost outcome owned t _ ?_))
      have hClean := h.clean (Set.subset_union_right.trans h.within)
        (same_withoutDirectory u env.tmpdir) (tidy_withoutDirectory u env.tmpdir)
      refine hClean.mono ?_ (Set.subset_union_left.trans h.within)
      rw [Set.union_sdiff_right]
      exact Set.sdiff_subset

theorem mem_below (directory name : PyStr) :
    .file (directory ++ (py "/" ++ name)) ∈ below directory := by
  refine ⟨_, rfl, ?_⟩
  rw [← List.append_assoc]
  exact List.prefix_append _ _

theorem mem_below_ccache (directory : PyStr) :
    .file (directory ++ py "/ccache") ∈ below directory := mem_below directory (py "ccache")

theorem mem_below_keytab (directory : PyStr) :
    .file (directory ++ py "/keytab") ∈ below directory := mem_below directory (py "keytab")

/-- What is owned and not dirty is clean, and a directory has no dirty buffers. -/
theorem tidy_below {refs : Set Ref}
    (h : privateCells.Confined owned (Cell.buffer '' refs) w w')
    (hZone : below env.tmpdir ⊆ owned) : privateCells.Tidy (below env.tmpdir) w' := by
  refine h.tidy.mono fun c hc => ⟨hZone hc, ?_⟩
  rintro ⟨ref, -, rfl⟩
  exact buffer_notMem_below ref hc

theorem tidy_store {directory path : PyStr} {contents : Option Bytes}
    (h : privateCells.Tidy (below directory) w) :
    privateCells.Tidy (below directory \ {.file path}) (w.store path contents) :=
  (h.mono Set.sdiff_subset).same ((same_store w path contents).mono fun _ hc => hc.2)

theorem dirtied {refs : Set Ref} (h : privateCells.Confined owned (Cell.buffer '' refs) w w')
    (hZone : below env.tmpdir ⊆ owned) :
    privateCells.Confined owned (Cell.buffer '' refs ∪ below env.tmpdir) w w' :=
  h.mono Set.subset_union_left (Set.union_subset h.within hZone)

/-- One more buffer with a secret. -/
theorem confined_alloc {refs : Set Ref} (h : privateCells.Confined owned (Cell.buffer '' refs) w w')
    (hNew : .buffer w'.heap.length ∈ owned) (contents : Bytes) :
    privateCells.Confined owned (Cell.buffer '' insert w'.heap.length refs) w
      { w' with heap := w'.heap ++ [contents] } := by
  have hIn : .buffer w'.heap.length ∈ Cell.buffer '' insert w'.heap.length refs :=
    ⟨_, .inl rfl, rfl⟩
  refine (h.mono (Set.image_mono (Set.subset_insert _ _)) ?_).update
    (Set.singleton_subset_iff.mpr hIn) (same_alloc w' contents)
  rintro _ ⟨ref, rfl | hRef, rfl⟩
  · exact hNew
  · exact h.within ⟨ref, hRef, rfl⟩

/-- Once the dirty buffers are zeroed, everything is clean. -/
theorem confined_zeroed_one {buf : Ref}
    (h : privateCells.Confined owned (Cell.buffer '' {buf}) w w') :
    privateCells.Confined owned ∅ w (zeroed w' buf) := by
  have hZeroed := confined_zeroed h (h.within ⟨buf, rfl, rfl⟩)
  rwa [Set.image_singleton, Set.sdiff_self] at hZeroed

theorem confined_zeroed_both {buf payload : Ref}
    (h : privateCells.Confined owned (Cell.buffer '' {payload, buf}) w w') :
    privateCells.Confined owned ∅ w (zeroed (zeroed w' payload) buf) := by
  have hOne := confined_zeroed h (h.within ⟨payload, .inl rfl, rfl⟩)
  have hBoth := confined_zeroed hOne (h.within ⟨buf, .inr rfl, rfl⟩)
  refine hBoth.mono ?_ (Set.empty_subset owned)
  rintro _ ⟨⟨⟨ref, rfl | rfl, rfl⟩, hNotPayload⟩, hNotBuf⟩
  · exact (hNotPayload rfl).elim
  · exact (hNotBuf rfl).elim

variable (settings : Settings) (krb5 : Krb5) {username lifetime renewableLifetime : PyStr}
    {buf payload : Ref} {secret : Bytes}

include hGrants

/-- `kinit` with a password on its stdin. -/
theorem kinitInDirectory_minds_password
    (hConfined : privateCells.Confined owned (Cell.buffer '' {payload, buf}) w w')
    (hZone : below env.tmpdir ⊆ owned) (hSecret : w'.heap[buf]? = some secret)
    (hStdin : w'.heap[payload]? = some (secret ++ [0x0A]))
    (hHolds : ∀ kept t, Holding env.tmpdir [secret, secret ++ [0x0A]] none kept t →
      Holds (.child (kinitSpec settings username lifetime renewableLifetime false
        (some (secret ++ [0x0A])) env.tmpdir)) kept t) :
    (kinitInDirectory settings krb5 env username (some payload) lifetime renewableLifetime none
        env.tmpdir).Minds privateCells grants Holds
      (fun _ owned => privateCells.Confined owned (Cell.buffer '' {payload, buf} ∪
        below env.tmpdir)) owned w w' := by
  have hRead : (stdinBytes (some payload)).advance w' =
      (.finished (.ok (some (secret ++ [0x0A]))), w') := by
    rw [stdinBytes, map_eq_bind, advance_bind_ok (advance_readBytearray hStdin)]
    rfl
  refine Minds.step (u := w') rfl (Minds.step hRead ?_)
  refine runSubprocess_minds hGrants (dirtied hConfined hZone)
    (.inr (mem_below_ccache env.tmpdir)) (fun result => calm_afterKinit env krb5 ..)
    (hHolds _ _ ?_) fun _ _ _ h => h
  rw [Set.image_pair]
  exact holding_of_stdin hSecret hStdin (tidy_below hConfined hZone)

/-- `kinit -k` with a keytab in its directory. -/
theorem kinitInDirectory_minds_keytab
    (hConfined : privateCells.Confined owned (Cell.buffer '' {buf}) w w')
    (hZone : below env.tmpdir ⊆ owned) (hSecret : w'.heap[buf]? = some secret)
    (hHolds : ∀ kept t,
      Holding env.tmpdir [secret] (some (env.tmpdir ++ py "/keytab", secret)) kept t →
      Holds (.child (kinitSpec settings username lifetime renewableLifetime true none env.tmpdir))
        kept t) :
    (kinitInDirectory settings krb5 env username none lifetime renewableLifetime (some buf)
        env.tmpdir).Minds privateCells grants Holds
      (fun _ owned => privateCells.Confined owned (Cell.buffer '' {buf} ∪ below env.tmpdir))
      owned w w' := by
  have hDirty := dirtied hConfined hZone
  have hWritten : privateCells.Confined owned (Cell.buffer '' {buf} ∪ below env.tmpdir) w
      (w'.store (env.tmpdir ++ py "/keytab") (some secret)) :=
    hDirty.update (Set.singleton_subset_iff.mpr (.inr (mem_below_keytab env.tmpdir)))
      (same_store w' _ _)
  refine .bind (Minds.step (advance_readBytearray hSecret) (.bind (.bind ?_)))
  refine fileSystemStep_minds (fun _ => hDirty) (.of_finished rfl ?_)
  refine fileSystemStep_minds (fun _ => hWritten) (Minds.step rfl ?_)
  refine runSubprocess_minds hGrants hWritten (.inr (mem_below_ccache env.tmpdir))
    (fun result => calm_afterKinit env krb5 ..) (hHolds _ _ ?_) fun _ _ _ h => h
  have hBuffers : Buffers [secret] {buf} (w'.store (env.tmpdir ++ py "/keytab") (some secret)) :=
    ⟨[buf], List.nodup_singleton buf, by simp, congrArg (fun contents => [contents]) hSecret⟩
  exact holding_of_file hBuffers (mem_below_keytab env.tmpdir) (w'.files_store_self ..)
    (tidy_store (tidy_below hConfined hZone))

/-- `mint_ticket` with a password. -/
theorem mintTicket_minds_password (hRoot : env.mkdirRoot = none) (hRemove : env.rmtree = none)
    (hConfined : privateCells.Confined owned (Cell.buffer '' {buf}) w w')
    (hFresh : freshBuffers w' ⊆ owned) (hZone : below env.tmpdir ⊆ owned)
    (hSecret : w'.heap[buf]? = some secret)
    (hHolds : ∀ kept t, Holding env.tmpdir [secret, secret ++ [0x0A]] none kept t →
      Holds (.child (kinitSpec settings username lifetime renewableLifetime false
        (some (secret ++ [0x0A])) env.tmpdir)) kept t) :
    (mintTicket settings krb5 env username (some buf) lifetime renewableLifetime none).Minds
      privateCells grants Holds (Settled privateCells) owned w w' := by
  have hBuild : (stdinPayloadFor (some buf)).advance w' =
      (.finished (.ok (some w'.heap.length)),
        { w' with heap := w'.heap ++ [secret ++ [0x0A]] }) := by
    have hRead : w'.heap.getD buf [] = secret := by simp [List.getD, hSecret]
    rw [← hRead]
    rfl
  have hBuilt := confined_alloc hConfined (hFresh ⟨_, rfl, le_rfl⟩) (secret ++ [0x0A])
  rw [mintTicket, if_neg (by simp)]
  refine Minds.step (u := w') (by rw [hRoot]; rfl) (Minds.step hBuild (.bind (.andFinally ?_)))
  refine withTemporaryDirectory_minds hRemove hBuilt
    (kinitInDirectory_minds_password hGrants settings krb5 hBuilt hZone ?_ ?_ hHolds)
    fun outcome owned t u h => ?_
  · exact (List.getElem?_append_left (List.getElem?_eq_some_iff.mp hSecret).1).trans hSecret
  · simp
  · have hZeroed : (do
        zeroIfGiven (some w'.heap.length)
        zeroIfGiven (some buf)
        zeroIfGiven none : Action Unit).advance u =
          (.finished (.ok ()), zeroed (zeroed u w'.heap.length) buf) := by
      rw [advance_bind_ok (advance_zeroIfGiven_some _ u),
        advance_bind_ok (advance_zeroIfGiven_some _ _)]
      rfl
    refine Minds.step hZeroed (.of_finished rfl ?_)
    cases outcome <;> exact confined_zeroed_both h

/-- `mint_ticket` with a keytab. -/
theorem mintTicket_minds_keytab (hRoot : env.mkdirRoot = none) (hRemove : env.rmtree = none)
    (hConfined : privateCells.Confined owned (Cell.buffer '' {buf}) w w')
    (hZone : below env.tmpdir ⊆ owned) (hSecret : w'.heap[buf]? = some secret)
    (hHolds : ∀ kept t,
      Holding env.tmpdir [secret] (some (env.tmpdir ++ py "/keytab", secret)) kept t →
      Holds (.child (kinitSpec settings username lifetime renewableLifetime true none env.tmpdir))
        kept t) :
    (mintTicket settings krb5 env username none lifetime renewableLifetime (some buf)).Minds
      privateCells grants Holds (Settled privateCells) owned w w' := by
  rw [mintTicket, if_neg (by simp)]
  refine Minds.step (u := w') (by rw [hRoot]; rfl)
    (Minds.step (u := w') rfl (.bind (.andFinally ?_)))
  refine withTemporaryDirectory_minds hRemove hConfined
    (kinitInDirectory_minds_keytab hGrants settings krb5 hConfined hZone hSecret hHolds)
    fun outcome owned t u h => ?_
  have hZeroed : (do
      zeroIfGiven none
      zeroIfGiven none
      zeroIfGiven (some buf) : Action Unit).advance u = (.finished (.ok ()), zeroed u buf) :=
    advance_zeroIfGiven_some buf u
  refine Minds.step hZeroed (.of_finished rfl ?_)
  cases outcome <;> exact confined_zeroed_one h

/-- `renew_ticket`. It has no secret in a buffer. -/
theorem renewTicket_minds {ccache : Bytes} (hRoot : env.mkdirRoot = none)
    (hRemove : env.rmtree = none) (hConfined : privateCells.Confined owned ∅ w w')
    (hZone : below env.tmpdir ⊆ owned)
    (hHolds : ∀ kept t,
      Holding env.tmpdir [] (some (env.tmpdir ++ py "/ccache", ccache)) kept t →
      Holds (.child (renewSpec settings env.tmpdir)) kept t) :
    (renewTicket settings krb5 env ccache).Minds privateCells grants Holds
      (Settled privateCells) owned w w' := by
  have hNone : privateCells.Confined owned (Cell.buffer '' ∅) w w' := by
    rwa [Set.image_empty]
  have hDirty := dirtied hNone hZone
  have hZoned : {Cell.file (env.tmpdir ++ py "/ccache")} ⊆
      Cell.buffer '' ∅ ∪ below env.tmpdir :=
    Set.singleton_subset_iff.mpr (.inr (mem_below_ccache env.tmpdir))
  have hWritten := hDirty.update hZoned
    (same_store w' (env.tmpdir ++ py "/ccache") (some ccache))
  refine Minds.step (u := w') (by rw [hRoot]; rfl) (.bind ?_)
  refine withTemporaryDirectory_minds hRemove hNone ?_ fun outcome owned t u h => ?_
  · refine .bind (.bind (fileSystemStep_minds (fun _ => hDirty) (.of_finished rfl ?_)))
    refine .bind (fileSystemStep_minds (fun _ => hWritten) (.bind (.of_finished rfl ?_)))
    cases readCcache krb5 env.krb5Input
        ((w'.store (env.tmpdir ++ py "/ccache") (some ccache)).files
          (env.tmpdir ++ py "/ccache")) with
    | error exc => exact hWritten
    | ok info =>
        refine runSubprocess_minds hGrants hWritten (.inr (mem_below_ccache env.tmpdir))
          (fun result => calm_afterRenew env krb5 ..) (hHolds _ _ ?_) fun _ _ _ h => h
        exact holding_of_file ⟨[], .nil, by simp, rfl⟩ (mem_below_ccache env.tmpdir)
          (w'.files_store_self ..) (tidy_store (tidy_below hNone hZone))
  · rw [Set.image_empty] at h
    cases outcome <;> exact h

/-- `mint_keytab`. -/
theorem mintKeytab_minds (hRoot : env.mkdirRoot = none) (hRemove : env.rmtree = none)
    (hConfined : privateCells.Confined owned (Cell.buffer '' {buf}) w w')
    (hFresh : freshBuffers w' ⊆ owned) (hZone : below env.tmpdir ⊆ owned)
    (hSecret : w'.heap[buf]? = some secret)
    (hHolds : ∀ kept t, Holding env.tmpdir [secret, secret ++ [0x0A]] none kept t →
      Holds (.child (keytabSpec settings env username (secret ++ [0x0A]) env.tmpdir)) kept t) :
    (mintKeytab settings env username buf).Minds privateCells grants Holds
      (Settled privateCells) owned w w' := by
  have hRead : w'.heap.getD buf [] = secret := by simp [List.getD, hSecret]
  have hBuild : (newStdinPayload buf).advance w' =
      (.finished (.ok w'.heap.length), { w' with heap := w'.heap ++ [secret ++ [0x0A]] }) := by
    rw [← hRead]
    rfl
  have hBuilt := confined_alloc hConfined (hFresh ⟨_, rfl, le_rfl⟩) (secret ++ [0x0A])
  have hStdin : (w'.heap ++ [secret ++ [0x0A]])[w'.heap.length]? = some (secret ++ [0x0A]) := by
    simp
  refine Minds.step (u := w') (by rw [hRoot]; rfl) (Minds.step hBuild (.andFinally ?_))
  refine withTemporaryDirectory_minds hRemove hBuilt ?_ fun outcome owned t u h => ?_
  · refine Minds.step (advance_readBytearray hStdin) ?_
    refine runSubprocess_minds hGrants (dirtied hBuilt hZone)
      (.inr (mem_below_keytab env.tmpdir)) (fun result => calm_afterKeytab env ..)
      (hHolds _ _ ?_) fun _ _ _ h => h
    rw [Set.image_pair]
    refine holding_of_stdin ?_ hStdin (tidy_below hBuilt hZone)
    exact (List.getElem?_append_left (List.getElem?_eq_some_iff.mp hSecret).1).trans hSecret
  · have hZeroed : (do
        zeroBytearray w'.heap.length
        zeroBytearray buf : Action Unit).advance u =
          (.finished (.ok ()), zeroed (zeroed u w'.heap.length) buf) := by
      rw [advance_bind_ok (advance_zeroBytearray _ u), advance_zeroBytearray]
    exact Minds.step hZeroed (.of_finished rfl (confined_zeroed_both h))

end Operations

end Krb5TokenService.Minting
