import Krb5TokenService.Service.Disclosed

/-! `/v1/mint` with a password and with a keytab, when `kinit` fails for a
reason that is not the secret: how far the two classifiers agree, and with them
the answers. -/
namespace Krb5TokenService.Service

open Python
open RateLimit Identity Minting

section Classifiers

theorem mentions_append (stderr : PyStr) (first second : List PyStr) :
    mentions stderr (first ++ second) = (mentions stderr first || mentions stderr second) :=
  List.any_append

/-- The password of an account that is neither unknown nor revoked is said to
have expired. -/
def OnlyExpired (stderr : PyStr) : Prop :=
  mentions stderr passwordExpiredMarkers = true ∧
    mentions stderr (unknownPrincipalMarkers ++ revokedMarkers) = false

/-- Away from the markers of a wrong secret the classifiers differ in one
place: the keytab's has no marker for an expired password. -/
theorem classifiers_agree_iff {stderr : PyStr}
    (hSecret : mentions stderr (badPasswordMarkers ++ badKeyMarkers) = false) :
    classifyKeytabStderr stderr = classifyPasswordStderr stderr ↔ ¬ OnlyExpired stderr := by
  rw [mentions_append, Bool.or_eq_false_iff] at hSecret
  obtain ⟨hPassword, hKey⟩ := hSecret
  unfold OnlyExpired classifyKeytabStderr classifyPasswordStderr
  rw [mentions_append, hPassword, hKey]
  cases mentions stderr unknownPrincipalMarkers with
  | true => simp
  | false =>
      cases mentions stderr revokedMarkers with
      | true => simp
      | false =>
          cases mentions stderr passwordExpiredMarkers with
          | true => simp
          | false => simp

end Classifiers

/-- A run of `/v1/mint` in one of its modes whose `kinit` exits with an error
and this text. -/
structure FailedMint (d : Deployment) (job : Job) (o : Outside) (w : World) (keytabMode : Bool)
    (text : PyStr) : Prop where
  mode : ∃ body, job.endpoint = .mint body ∧ body.password.isNone = keytabMode
  starts : job.StartsChild d o w
  fails : ∃ stderr, FailsWith o.child stderr ∧ stderrText stderr = text

/-- The same response, and audited alike. -/
def AuditedAlike (first second : Except PyExc Response × World) (w w' : World) : Prop :=
  ∃ response outcome, first.1 = .ok response ∧ second.1 = .ok response ∧
    audits first.2.log = audits w.log ++ outcome ∧ audits second.2.log = audits w'.log ++ outcome

/-- Every two runs, one in each mode, whose `kinit` fails with this text, get
the same answer, if the private directory can be removed in both or neither. -/
def AnsweredAlike (text : PyStr) : Prop :=
  ∀ (d : Deployment) (job job' : Job) (o o' : Outside) (w w' : World),
    FailedMint d job o w false text → FailedMint d job' o' w' true text →
      (job.env.rmtree = none ↔ job'.env.rmtree = none) →
        AuditedAlike (job.run d o w) (job'.run d o' w') w w'

section Runs

variable {exc₁ exc₂ : PyExc} {d : Deployment} {job : Job} {o : Outside} {w : World}
    {keytabMode : Bool} {text : PyStr}

theorem Alike.mintExit_audited (h : Alike exc₁ exc₂) :
    audited ((Service.mintExit (.error exc₁)).map (answer200 .minted)) =
      audited ((Service.mintExit (.error exc₂)).map (answer200 .minted)) := by
  cases h <;> rfl

/-- The closing of such a run. -/
theorem FailedMint.closing (h : FailedMint d job o w keytabMode text) :
    (job.plan d).closing o.child = (Service.mintExit (mintedTicket <$>
      removed job.env (kinitVerdict d.settings d.krb5 job.env keytabMode o.child))).map
        (answer200 .minted) := by
  obtain ⟨body, hEndpoint, hMode⟩ := h.mode
  unfold Job.plan
  rw [hEndpoint, ← hMode]
  rfl

end Runs

/-- For an output without the markers of a wrong secret, both modes are
classified and answered alike exactly when it is not only the password that
has expired. -/
theorem modes_agree_iff (text : PyStr)
    (hSecret : mentions text (badPasswordMarkers ++ badKeyMarkers) = false) :
    (classifyKeytabStderr text = classifyPasswordStderr text ∧ AnsweredAlike text) ↔
      ¬ OnlyExpired text := by
  rw [classifiers_agree_iff hSecret]
  refine ⟨And.left, fun hExpired => ⟨hExpired, ?_⟩⟩
  intro d job job' o o' w w' hPassword hKeytab hRemoved
  have hClass := (classifiers_agree_iff hSecret).mpr hExpired
  obtain ⟨stderr, hFails, hText⟩ := hPassword.fails
  obtain ⟨stderr', hFails', hText'⟩ := hKeytab.fails
  have hSame : classifierOf false (stderrText stderr) = classifierOf true (stderrText stderr') := by
    rw [hText, hText']
    exact hClass.symm
  obtain ⟨raised, raised', hEnd, hEnd', hAlike⟩ : ∃ raised raised',
      removed job.env (kinitVerdict d.settings d.krb5 job.env false o.child) = .error raised ∧
      removed job'.env (kinitVerdict d.settings d.krb5 job'.env true o'.child) = .error raised' ∧
      Alike raised raised' := failed_alike hFails hFails' hSame hRemoved
  have hRun := job.runsTo d o w
  have hRun' := job'.runsTo d o' w'
  have hVerdict := job.verdict_of_outset_ok d o w (hRun.child.mp hPassword.starts)
  have hVerdict' := job'.verdict_of_outset_ok d o' w' (hRun'.child.mp hKeytab.starts)
  rw [hPassword.closing, hEnd] at hVerdict
  rw [hKeytab.closing, hEnd'] at hVerdict'
  refine ⟨_, _, hRun.response, ?_, hRun.audits, ?_⟩
  · rw [hRun'.response, hVerdict, hVerdict']
    exact congrArg Except.ok hAlike.mintExit.symm
  · rw [hRun'.audits, hVerdict, hVerdict']
    exact congrArg (fun outcome => audits w'.log ++ Option.toList outcome)
      hAlike.mintExit_audited.symm

section Cases

def sampleKeytabMint : Job :=
  ⟨sampleEnv, sampleRequest, .mint ⟨py "gstark", none, some (py "BQI="), none, none, by simp⟩⟩

theorem revoked_alike :
    classifyKeytabStderr (py "kinit: credentials have been revoked") =
        classifyPasswordStderr (py "kinit: credentials have been revoked") ∧
      AnsweredAlike (py "kinit: credentials have been revoked") :=
  (modes_agree_iff _ (by decide +kernel)).mpr fun hExpired =>
    absurd hExpired.2 (by decide +kernel)

/-- An expired password is a 403 in one mode and a 502 in the other. -/
theorem expired_not_alike :
    mentions (py "kinit: Password has expired") (badPasswordMarkers ++ badKeyMarkers) = false ∧
      classifyKeytabStderr (py "kinit: Password has expired") ≠
        classifyPasswordStderr (py "kinit: Password has expired") ∧
      ¬ AnsweredAlike (py "kinit: Password has expired") := by
  refine ⟨by decide +kernel, ?_, ?_⟩
  · rw [ne_eq, classifiers_agree_iff (by decide +kernel), not_not]
    exact ⟨by decide +kernel, by decide +kernel⟩
  · intro hAlike
    have hFails : FailsWith (sampleFailure "kinit: Password has expired")
        (sampleStderr "kinit: Password has expired") := ⟨1, [], none, rfl, by decide⟩
    have hText : stderrText (sampleStderr "kinit: Password has expired") =
        py "kinit: Password has expired" := by decide +kernel
    obtain ⟨response, _, hFirst, hSecond, -⟩ := hAlike sampleDeployment (sampleJob sampleEnv)
      sampleKeytabMint (sampleOutside (sampleFailure "kinit: Password has expired"))
      (sampleOutside (sampleFailure "kinit: Password has expired")) sampleWorld sampleWorld
      ⟨⟨_, rfl, rfl⟩, ((sampleJob sampleEnv).runsTo _ _ _).child.mpr rfl, _, hFails, hText⟩
      ⟨⟨_, rfl, rfl⟩, (sampleKeytabMint.runsTo _ _ _).child.mpr rfl, _, hFails, hText⟩ Iff.rfl
    rw [(Job.runsTo _ _ _ _).response] at hFirst hSecond
    exact absurd (Except.ok.inj (hFirst.trans hSecond.symm)) (by decide +kernel)

end Cases

end Krb5TokenService.Service
