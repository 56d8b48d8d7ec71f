import Krb5TokenService.Minting.Arguments
import Krb5TokenService.Service.Started

/-! The realm that a request's `kinit` acts for: the configured one in
`/v1/mint`, and in `/v1/renew` the one that the posted cache names. -/
namespace Krb5TokenService.Service

open Python Python.Base64 EventLoop EventLoop.Task CommandLine Kerberos
open RateLimit Identity Minting

/-- The realm that the service is set up for, as Kerberos reads it. -/
def serviceRealm (settings : Settings) : Option PyStr :=
  parseRealm krb5Separators false settings.defaultRealm

/-- It is the configured text itself, unless that has a separator in it. -/
theorem serviceRealm_of_plain {settings : Settings}
    (h : Plain krb5Separators settings.defaultRealm) :
    serviceRealm settings = some settings.defaultRealm := parseRealm_plain h

/-- The realm of a cache's default principal. -/
def cacheRealm (krb5 : Krb5) (contents : Option Bytes) : Option PyStr :=
  (readCcache krb5 none contents).toOption.map CcacheInfo.realm

/-- The realm that `kinit` acts for: with `-R` that of the cache it is given,
and else that of its operand. -/
def actsFor (krb5 : Krb5) (spec : ChildSpec) (found : World) : Option PyStr :=
  match kinitArguments spec.argv with
  | none => none
  | some arguments =>
      if (0x52, none) ∈ arguments.options then
        cacheRealm krb5 ((arguments.valueOf 0x63).bind fun cache =>
          found.files (cache.drop (py "FILE:").length))
      else
        match arguments.operands with
        | [principal] => (parsePrincipal principal).bind Name.realm
        | _ => none

section Statements

variable (d : Deployment) (job : Job) (o : Outside) (w : World)

/-- Every `kinit` that the request starts acts for the service's realm, and so
does the ticket in its response belong to it. -/
def RealmKept : Prop :=
  (∀ spec found, (Query.child spec, found) ∈ (job.task d).awaits o.answer w →
    actsFor d.krb5 spec found = serviceRealm d.settings) ∧
  ∀ response minted, (job.run d o w).1 = .ok response → response.body = .minted minted →
    some minted.realm = serviceRealm d.settings

/-- The request posts a cache of another realm to `/v1/renew`, with a valid
token and a file system that lets it through. -/
def BringsRealm : Prop :=
  ∃ body ccache info, job.endpoint = .renew body ∧ b64decode body.ccacheB64 = some ccache ∧
    readCcache d.krb5 job.env.krb5Input (some ccache) = .ok info ∧
    some info.realm ≠ serviceRealm d.settings ∧
    (∃ caller, job.authentication d o.jwks = .ok caller) ∧ Prepared job.env true

end Statements

section Children

variable {settings : Settings} {krb5 : Krb5} {found : World} {username : PyStr}

theorem actsFor_kinitSpec (h : validateUsername username = .ok ())
    (lifetime renewableLifetime : PyStr) (keytabMode : Bool) (stdin : Option Bytes)
    (tmpdir : PyStr) :
    actsFor krb5 (kinitSpec settings username lifetime renewableLifetime keytabMode stdin tmpdir)
      found = serviceRealm settings := by
  have hNoRenewal : (0x52, none) ∉ kinitOptions lifetime renewableLifetime keytabMode tmpdir := by
    cases keytabMode <;> simp [kinitOptions]
  rw [actsFor, kinitSpec_arguments settings lifetime renewableLifetime keytabMode tmpdir h stdin]
  simp only [if_neg hNoRenewal, parsePrincipal_of_username h, serviceRealm]
  cases parseRealm krb5Separators false settings.defaultRealm <;> rfl

theorem actsFor_renewSpec {tmpdir : PyStr} {ccache : Bytes}
    (hFile : found.files (tmpdir ++ py "/ccache") = some ccache) :
    actsFor krb5 (renewSpec settings tmpdir) found = cacheRealm krb5 (some ccache) := by
  rw [actsFor, renewSpec_arguments]
  simp only [List.mem_cons, true_or, if_true]
  rw [← hFile]
  rfl

theorem cacheRealm_of_read {failure : Option PyStr} {contents : Option Bytes} {info : CcacheInfo}
    (h : readCcache krb5 failure contents = .ok info) :
    cacheRealm krb5 contents = some info.realm := by
  cases failure with
  | none => simp [cacheRealm, h, Except.toOption]
  | some message => cases h

end Children

section Requests

variable {d : Deployment} {job : Job} {o : Outside} {w : World}

/-- The `kinit` of `/v1/mint` acts for the service's realm. -/
theorem actsFor_of_mint {body : MintRequest} (hMint : job.endpoint = .mint body)
    (hStarts : job.StartsChild d o w) (found : World) :
    actsFor d.krb5 (job.childSpec d) found = serviceRealm d.settings := by
  obtain ⟨-, hOpening⟩ := job.outset_ok d o w ((job.runsTo d o w).child.mp hStarts)
  simp only [Job.plan, hMint, Plan.map] at hOpening
  have hUsername := validateUsername_of_gate (gates_ok_iff.mp (mintPlan_opens_valid hOpening)).1
  simp only [Job.childSpec, hMint]
  exact actsFor_kinitSpec hUsername ..

/-- The `kinit -R` of `/v1/renew` acts for the realm of the posted cache, which
parses. -/
theorem actsFor_of_renew {body : RenewRequest} (hRenew : job.endpoint = .renew body)
    (hStarts : job.StartsChild d o w) {found : World} (hFound : job.Given w.log found) :
    ∃ ccache info, b64decode body.ccacheB64 = some ccache ∧
      readCcache d.krb5 job.env.krb5Input (some ccache) = .ok info ∧
      (∃ caller, job.authentication d o.jwks = .ok caller) ∧ Prepared job.env true ∧
      actsFor d.krb5 (job.childSpec d) found = some info.realm := by
  obtain ⟨hCaller, hOpening⟩ := job.outset_ok d o w ((job.runsTo d o w).child.mp hStarts)
  simp only [Job.plan, hRenew, Plan.map] at hOpening
  obtain ⟨ccache, info, hCcache, hInfo, hPrepared⟩ := renewPlan_opens.mp hOpening
  refine ⟨ccache, info, hCcache, hInfo, hCaller, hPrepared, ?_⟩
  have hFile : found.files (job.env.tmpdir ++ py "/ccache") = some ccache :=
    hFound.2 _ _ (by simp [Job.inputFile, hRenew, hCcache])
  simp only [Job.childSpec, hRenew]
  rw [actsFor_renewSpec hFile, cacheRealm_of_read hInfo]

/-- A request that brings a realm gets as far as its child. -/
theorem starts_of_bringsRealm (h : BringsRealm d job o) : job.StartsChild d o w := by
  obtain ⟨body, ccache, info, hRenew, hCcache, hInfo, -, ⟨caller, hCaller⟩, hPrepared⟩ := h
  refine (job.runsTo d o w).child.mpr (job.outset_of_opening d o w hCaller ?_)
  simp only [Job.plan, hRenew, Plan.map]
  exact renewPlan_opens.mpr ⟨ccache, info, hCcache, hInfo, hPrepared⟩

/-- Every `kinit` of the two endpoints acts for the service's realm, and every
ticket returned is of that realm, exactly when no cache of another realm is
posted. That a `kinit` leaves a cache of the realm it acted for is assumed. -/
theorem realm_kept_iff (hEndpoint : ∀ body, job.endpoint ≠ .keytab body)
    (hKinit : ∀ spec found stdout stderr output info,
      (Query.child spec, found) ∈ (job.task d).awaits o.answer w →
      o.child = .exited 0 stdout stderr (some output) →
      readCcache d.krb5 job.env.krb5Output (some output) = .ok info →
      actsFor d.krb5 spec found = some info.realm) :
    RealmKept d job o w ↔ ¬ BringsRealm d job o := by
  constructor
  · rintro ⟨hActs, -⟩ hBrings
    obtain ⟨spec, found, hAwait⟩ := starts_of_bringsRealm (w := w) hBrings
    obtain ⟨rfl, hStarts, hGiven⟩ := Job.child_of_await hAwait
    obtain ⟨body, ccache, info, hRenew, hCcache, hInfo, hForeign, -⟩ := hBrings
    obtain ⟨ccache', info', hCcache', hInfo', -, -, hRealm⟩ :=
      actsFor_of_renew hRenew hStarts hGiven
    obtain rfl := Option.some.inj (hCcache.symm.trans hCcache')
    obtain rfl := Except.ok.inj (hInfo.symm.trans hInfo')
    exact hForeign (hRealm.symm.trans (hActs _ _ hAwait))
  · intro hOwn
    have hActs : ∀ spec found, (Query.child spec, found) ∈ (job.task d).awaits o.answer w →
        actsFor d.krb5 spec found = serviceRealm d.settings := by
      intro spec found hAwait
      obtain ⟨rfl, hStarts, hGiven⟩ := Job.child_of_await hAwait
      cases hJob : job.endpoint with
      | mint body => exact actsFor_of_mint hJob hStarts found
      | renew body =>
          obtain ⟨ccache, info, hCcache, hInfo, hCaller, hPrepared, hRealm⟩ :=
            actsFor_of_renew hJob hStarts hGiven
          by_contra hForeign
          rw [hRealm] at hForeign
          exact hOwn ⟨body, ccache, info, hJob, hCcache, hInfo, hForeign, hCaller, hPrepared⟩
      | keytab body => exact absurd hJob (hEndpoint body)
    refine ⟨hActs, fun response minted hResponse hBody => ?_⟩
    obtain ⟨⟨spec, found, hAwait⟩, stdout, stderr, contents, info, hReply, hInfo, rfl⟩ :=
      Job.minted_issued hResponse hBody
    rw [← hActs spec found hAwait,
      hKinit spec found stdout stderr contents info hAwait hReply hInfo]
    rfl

end Requests

section Cases

/-- A child that succeeds and leaves this cache. -/
def leavesCache (ccache : Bytes) : ChildReply := .exited 0 [] [] (some ccache)

/-- A cache posted to be renewed. -/
def renewalOf (ccache : Bytes) : Job := ⟨sampleEnv, sampleRequest, .renew ⟨b64encode ccache⟩⟩

theorem serviceRealm_sample : serviceRealm sampleDeployment.settings = some (py "CERN.CH") := by
  decide +kernel

set_option maxRecDepth 2000 in
theorem realm_of_cernCache {ccache : Bytes} {info : CcacheInfo}
    (hCache : ccache = sampleCache ∨ ccache = renewedCache)
    (h : readCcache sampleKrb5 none (some ccache) = .ok info) : info.realm = py "CERN.CH" := by
  rcases hCache with rfl | rfl
  · rw [← Except.ok.inj h]
    rfl
  · rw [← Except.ok.inj h]
    rfl

/-- A ticket for a password, and the renewal of that ticket. -/
theorem own_realm_kept :
    RealmKept sampleDeployment (sampleJob sampleEnv) (sampleOutside (leavesCache sampleCache))
        sampleWorld ∧
      RealmKept sampleDeployment (renewalOf sampleCache)
        (sampleOutside (leavesCache renewedCache)) sampleWorld := by
  constructor
  · refine (realm_kept_iff (by rintro _ ⟨⟩) ?_).mpr ?_
    · intro spec found stdout stderr output info hAwait hReply hInfo
      obtain ⟨rfl, hStarts, -⟩ := Job.child_of_await hAwait
      obtain rfl : sampleCache = output := Option.some.inj (ChildReply.exited.inj hReply).2.2.2
      rw [actsFor_of_mint rfl hStarts, serviceRealm_sample, realm_of_cernCache (.inl rfl) hInfo]
    · rintro ⟨body, ccache, info, hRenew, -⟩
      cases hRenew
  · refine (realm_kept_iff (by rintro _ ⟨⟩) ?_).mpr ?_
    · intro spec found stdout stderr output info hAwait hReply hInfo
      obtain ⟨rfl, hStarts, hGiven⟩ := Job.child_of_await hAwait
      obtain rfl : renewedCache = output := Option.some.inj (ChildReply.exited.inj hReply).2.2.2
      obtain ⟨ccache, posted, hCcache, hPosted, -, -, hActs⟩ := actsFor_of_renew rfl hStarts hGiven
      obtain rfl : sampleCache = ccache := by simpa [b64decode_b64encode] using hCcache
      rw [hActs, realm_of_cernCache (.inl rfl) hPosted, realm_of_cernCache (.inr rfl) hInfo]
    · rintro ⟨body, ccache, info, hRenew, hCcache, hInfo, hForeign, -⟩
      obtain rfl := Endpoint.renew.inj hRenew
      obtain rfl : sampleCache = ccache := by simpa [b64decode_b64encode] using hCcache
      rw [realm_of_cernCache (.inl rfl) hInfo, serviceRealm_sample] at hForeign
      exact hForeign rfl

set_option maxRecDepth 4000 in
/-- A cache of the realm `A` is posted to the service of `CERN.CH`: `kinit -R`
acts for `A`, and a ticket of `A` is returned. -/
theorem foreign_realm_not_kept :
    ((renewalOf foreignCache).StartsChild sampleDeployment
        (sampleOutside (leavesCache foreignCache)) sampleWorld ∧
      ∃ response minted,
        ((renewalOf foreignCache).run sampleDeployment
          (sampleOutside (leavesCache foreignCache)) sampleWorld).1 = .ok response ∧
          response.body = .minted minted ∧ minted.realm = py "A") ∧
      sampleDeployment.settings.defaultRealm = py "CERN.CH" ∧
      ¬ RealmKept sampleDeployment (renewalOf foreignCache)
        (sampleOutside (leavesCache foreignCache)) sampleWorld := by
  have hRun := (renewalOf foreignCache).runsTo sampleDeployment
    (sampleOutside (leavesCache foreignCache)) sampleWorld
  have hResponse := hRun.response
  refine ⟨⟨hRun.child.mpr rfl, _, _, hResponse, rfl, rfl⟩, rfl, ?_⟩
  rintro ⟨-, hTickets⟩
  exact absurd (hTickets _ _ hResponse rfl) (by decide +kernel)

end Cases

end Krb5TokenService.Service
