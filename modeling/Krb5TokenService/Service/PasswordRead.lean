import Mathlib.Data.List.TakeWhile
import Krb5TokenService.Python.TextStream
import Krb5TokenService.Service.Started

/-! The password that a child reads on its stdin, beside the one submitted:
the service frames a password as a line, and the two children read a line each
in their own way. -/
namespace Krb5TokenService.Service

open Python EventLoop EventLoop.Task Minting

namespace Endpoint

/-- The password of a request. -/
def password : Endpoint → Option PyStr
  | .mint body => body.password
  | .renew _ => none
  | .keytab body => some body.password

/-- What the child of an endpoint takes for the password. The prompter of
`kinit` reads the bytes up to the first newline; the patched `cern-get-keytab`
reads a line of `sys.stdin`, opened in this mode. -/
def reads (mode : NewlineMode) : Endpoint → Bytes → Option PyStr
  | .mint _, stdin => stdin.firstLine.decode
  | .renew _, _ => none
  | .keytab _, stdin => stdinLine mode stdin

/-- The characters that end a line for the child of an endpoint. -/
def newlines (mode : NewlineMode) : Endpoint → List CodePoint
  | .mint _ | .renew _ => [lineFeed]
  | .keytab _ => mode.lineEnds

/-- The line feed only, as CPython opens `sys.stdin` on POSIX. -/
theorem newlines_lineFeedOnly (endpoint : Endpoint) :
    endpoint.newlines .lineFeedOnly = [lineFeed] := by
  cases endpoint <;> rfl

theorem lineFeed_mem_newlines (mode : NewlineMode) (endpoint : Endpoint) :
    lineFeed ∈ endpoint.newlines mode := by
  cases endpoint with
  | mint body | renew body => exact List.mem_cons_self
  | keytab body => cases mode <;> exact List.mem_cons_self

variable {mode : NewlineMode} {endpoint : Endpoint} {password : PyStr} {bytes : Bytes}

/-- A framed password is read up to its first newline. -/
theorem reads_framed (hPassword : endpoint.password = some password)
    (hBytes : password.encode = some bytes) :
    endpoint.reads mode (bytes ++ [0x0A]) =
      some (password.takeWhile fun c => c ∉ endpoint.newlines mode) := by
  unfold PyStr.encode at hBytes
  split at hBytes
  · cases hBytes
  next hPlain =>
  cases hBytes
  have hPlain : password.any isSurrogate = false := eq_false_of_ne_true hPlain
  cases endpoint with
  | mint body =>
      have hPrefix : PyStr.encode (password.takeWhile (· ≠ lineFeed)) =
          some ((password.takeWhile (· ≠ lineFeed)).flatMap utf8) := by
        rw [PyStr.encode, if_neg]
        intro hAny
        obtain ⟨c, hMem, hSurrogate⟩ := List.any_eq_true.mp hAny
        exact absurd (List.any_eq_true.mpr ⟨c, (List.takeWhile_prefix _).subset hMem, hSurrogate⟩)
          (ne_true_of_eq_false hPlain)
      rw [reads, firstLine_flatMap_utf8, decode_encode hPrefix]
      simp [newlines]
  | renew body => cases hPassword
  | keytab body =>
      have hText : PyStr.encode (password ++ [lineFeed]) =
          some (password.flatMap utf8 ++ [0x0A]) := by
        have hFeed : isSurrogate lineFeed = false := by decide
        rw [PyStr.encode, if_neg (by simp [hPlain, hFeed])]
        simp [utf8, lineFeed]
      rw [reads, stdinLine, decode_encode hText, Option.map_some, rstripNewline_readline,
        takeWhile_concat (by simpa [newlines] using lineFeed_mem_newlines mode (.keytab body))]
      rfl

end Endpoint

section Runs

variable {mode : NewlineMode} {d : Deployment} {job : Job} {o : Outside} {w : World}
    {password : PyStr}

/-- Every child awaited on the request's behalf reads `real` off its stdin. -/
def ChildReads (mode : NewlineMode) (d : Deployment) (job : Job) (o : Outside) (w : World)
    (real : PyStr) : Prop :=
  ∀ spec found, (Query.child spec, found) ∈ (job.task d).awaits o.answer w →
    spec.stdin.bind (job.endpoint.reads mode) = some real

/-- A password whose child is started can be encoded, and is framed. -/
theorem stdin_of_starts (hPassword : job.endpoint.password = some password)
    (hStarts : job.StartsChild d o w) :
    ∃ bytes, password.encode = some bytes ∧
      (job.childSpec d).stdin = some (bytes ++ [0x0A]) := by
  obtain ⟨-, hOpening⟩ := job.outset_ok d o w ((job.runsTo d o w).child.mp hStarts)
  unfold Job.plan at hOpening
  unfold Job.childSpec
  cases hEndpoint : job.endpoint with
  | mint body =>
      rw [hEndpoint] at hPassword
      simp only [hEndpoint, Plan.map] at hOpening
      obtain ⟨-, -, ⟨bytes, hBytes⟩, -⟩ := (mintPlan_opens_password hPassword).mp hOpening
      have hMode : body.password = some password := hPassword
      exact ⟨bytes, hBytes, by simp [kinitSpec, hMode, hBytes]⟩
  | renew body => simp [hEndpoint, Endpoint.password] at hPassword
  | keytab body =>
      rw [hEndpoint] at hPassword
      obtain rfl := Option.some.inj hPassword
      simp only [hEndpoint, Plan.map] at hOpening
      obtain ⟨-, -, ⟨bytes, hBytes⟩, -⟩ := keytabPlan_opens.mp hOpening
      exact ⟨bytes, hBytes, by simp [keytabSpec, hBytes]⟩

/-- What the child reads is the submitted password up to its first newline. -/
theorem childReads_iff (hPassword : job.endpoint.password = some password)
    (hStarts : job.StartsChild d o w) {real : PyStr} :
    ChildReads mode d job o w real ↔
      password.takeWhile (fun c => c ∉ job.endpoint.newlines mode) = real := by
  obtain ⟨bytes, hBytes, hStdin⟩ := stdin_of_starts hPassword hStarts
  have hRead : (job.childSpec d).stdin.bind (job.endpoint.reads mode) =
      some (password.takeWhile fun c => c ∉ job.endpoint.newlines mode) := by
    rw [hStdin, Option.bind_some, Endpoint.reads_framed hPassword hBytes]
  constructor
  · intro h
    obtain ⟨spec, found, hAwait⟩ := hStarts
    have hSpec := h spec found hAwait
    rw [(Job.child_of_await hAwait).1, hRead] at hSpec
    exact Option.some.inj hSpec
  · rintro rfl spec found hAwait
    rw [(Job.child_of_await hAwait).1, hRead]

/-- The child reads exactly the submitted password, and so takes it for no
other, when and only when the password has no newline in it. That is a line
feed; for a keytab it would be a carriage return too, if `sys.stdin` had
universal newlines. -/
theorem password_read_back_iff (mode : NewlineMode)
    (hPassword : job.endpoint.password = some password) (hStarts : job.StartsChild d o w) :
    (∀ real, ChildReads mode d job o w real ↔ real = password) ↔
      ∀ c ∈ password, c ∉ job.endpoint.newlines mode := by
  constructor
  · intro h c hMem
    have hWhole := (childReads_iff hPassword hStarts).mp ((h password).mpr rfl)
    simpa using List.takeWhile_eq_self_iff.mp hWhole c hMem
  · intro hPlain real
    have hWhole : password.takeWhile (fun c => c ∉ job.endpoint.newlines mode) = password := by
      rw [List.takeWhile_eq_self_iff]
      simpa using hPlain
    rw [childReads_iff hPassword hStarts, hWhole, eq_comm]

end Runs

section Cases

/-- A request for a ticket with this password. -/
def ticketJob (password : PyStr) : Job := ⟨sampleEnv, sampleRequest, sampleMint password⟩

/-- A request for a keytab with this password. -/
def keytabJob (password : PyStr) : Job :=
  ⟨sampleEnv, sampleRequest, .keytab ⟨py "gstark", password⟩⟩

/-- The request's child is started, and takes another text for the password that
was submitted. -/
def ReadsInstead (job : Job) (submitted text : PyStr) : Prop :=
  job.StartsChild sampleDeployment (sampleOutside .timedOut) sampleWorld ∧
    ChildReads .lineFeedOnly sampleDeployment job (sampleOutside .timedOut) sampleWorld text ∧
    ¬ ∀ real, ChildReads .lineFeedOnly sampleDeployment job (sampleOutside .timedOut)
      sampleWorld real ↔ real = submitted

theorem readsInstead_of_lineFeed {job : Job}
    (hPassword : job.endpoint.password = some (py "secret\nx"))
    (hStarts : job.StartsChild sampleDeployment (sampleOutside .timedOut) sampleWorld) :
    ReadsInstead job (py "secret\nx") (py "secret") := by
  have hCut : ChildReads .lineFeedOnly sampleDeployment job (sampleOutside .timedOut)
      sampleWorld (py "secret") := by
    rw [childReads_iff hPassword hStarts, Endpoint.newlines_lineFeedOnly]
    decide
  exact ⟨hStarts, hCut, fun h => absurd ((h (py "secret")).mp hCut) (by decide)⟩

/-- Both children read a password up to its line feed, so a password that is not
the user's is taken for it. -/
theorem password_cut_at_newline :
    ReadsInstead (ticketJob (py "secret\nx")) (py "secret\nx") (py "secret") ∧
      ReadsInstead (keytabJob (py "secret\nx")) (py "secret\nx") (py "secret") :=
  ⟨readsInstead_of_lineFeed rfl ((Job.runsTo _ _ _ _).child.mpr rfl),
    readsInstead_of_lineFeed rfl ((Job.runsTo _ _ _ _).child.mpr rfl)⟩

/-- A password on one line is read back as it is, by `kinit`, and with its
carriage return by `cern-get-keytab`. -/
theorem password_read_back_secret :
    (∀ real, ChildReads .lineFeedOnly sampleDeployment (ticketJob (py "secret"))
      (sampleOutside .timedOut) sampleWorld real ↔ real = py "secret") ∧
    ∀ real, ChildReads .lineFeedOnly sampleDeployment (keytabJob (py "secret\rx"))
      (sampleOutside .timedOut) sampleWorld real ↔ real = py "secret\rx" := by
  have hPlain (text : PyStr) (hAll : text.all (· ≠ lineFeed) = true) (endpoint : Endpoint) :
      ∀ c ∈ text, c ∉ endpoint.newlines .lineFeedOnly := by
    rw [Endpoint.newlines_lineFeedOnly]
    simpa using hAll
  constructor
  · exact (password_read_back_iff .lineFeedOnly rfl ((Job.runsTo _ _ _ _).child.mpr rfl)).mpr
      (hPlain _ (by decide) _)
  · exact (password_read_back_iff .lineFeedOnly rfl ((Job.runsTo _ _ _ _).child.mpr rfl)).mpr
      (hPlain _ (by decide) _)

end Cases

end Krb5TokenService.Service
