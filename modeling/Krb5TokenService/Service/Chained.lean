import Krb5TokenService.Minting.Arguments
import Krb5TokenService.Service.Started

/-! What a response carries, posted back: a ticket to `/v1/renew`, over and
over, and a keytab to `/v1/mint`. -/
namespace Krb5TokenService.Service

open Python Python.Base64 EventLoop EventLoop.Task CommandLine
open RateLimit Identity Minting

/-- One request, with what it meets from outside and the state it finds. -/
structure Call where
  job : Job
  outside : Outside
  world : World

/-- What a `kinit -R` is given: it works on a file with these bytes. -/
def RenewsFrom (spec : ChildSpec) (found : World) (ccache : Bytes) : Prop :=
  ∃ arguments path, kinitArguments spec.argv = some arguments ∧
    (0x52, none) ∈ arguments.options ∧ arguments.valueOf 0x63 = some (py "FILE:" ++ path) ∧
    found.files path = some ccache

/-- What a `kinit -k -t` is given: it reads a keytab with these bytes. -/
def UsesKeytab (spec : ChildSpec) (found : World) (keytab : Bytes) : Prop :=
  ∃ arguments path, kinitArguments spec.argv = some arguments ∧
    (0x6B, none) ∈ arguments.options ∧ arguments.valueOf 0x74 = some path ∧
    found.files path = some keytab

namespace Call

variable (d : Deployment) (call : Call)

/-- The call is answered with a 200 of this body. -/
def Answered (body : Body) : Prop :=
  ∃ response, (call.job.run d call.outside call.world).1 = .ok response ∧
    response.status = 200 ∧ response.body = body

/-- The child of the call exits 0 and leaves these bytes. -/
def Leaves (bytes : Bytes) : Prop :=
  ∃ stdout stderr, call.outside.child = .exited 0 stdout stderr (some bytes)

/-- The token is valid, and the file system does not fail before the child. -/
structure Admitted : Prop where
  token : ∃ caller, call.job.authentication d call.outside.jwks = .ok caller
  files : Prepared call.job.env true
  ccache : call.job.env.krb5Input = none

/-- `next` posts the ticket of this call's response to `/v1/renew`. -/
structure RenewedBy (next : Call) : Prop where
  endpoint : ∃ minted, call.Answered d (.minted minted) ∧
    next.job.endpoint = .renew ⟨minted.ccacheB64⟩
  admitted : next.Admitted d

/-- `next` posts the keytab of this call's response to `/v1/mint`, under the
same username and with lifetimes that are accepted. -/
structure KeytabUsedBy (next : Call) : Prop where
  endpoint : ∃ body issued mintBody, call.job.endpoint = .keytab body ∧
    call.Answered d (.keytab issued) ∧ next.job.endpoint = .mint mintBody ∧
    mintBody.username = body.username ∧ mintBody.password = none ∧
    mintBody.keytabB64 = some issued.keytabB64 ∧
    lifetimesGate (orDefault mintBody.lifetime d.settings.defaultLifetime)
      (orDefault mintBody.renewableLifetime d.settings.defaultRenewableLifetime) = .ok ()
  admitted : next.Admitted d

/-- `kinit -R` is started for `next`, on the bytes that this call's child left. -/
def RenewsInto (next : Call) : Prop :=
  ∃ ccache, call.Leaves ccache ∧
    ∃ spec found, (Query.child spec, found) ∈
      (next.job.task d).awaits next.outside.answer next.world ∧ RenewsFrom spec found ccache

/-- `kinit -k -t` is started for `next`, on the bytes that this call's child
left, which is what the posted text decodes to. -/
def KeytabReaches (next : Call) : Prop :=
  ∃ keytab, call.Leaves keytab ∧
    (∀ mintBody, next.job.endpoint = .mint mintBody →
      mintBody.keytabB64.bind b64decode = some keytab) ∧
    ∃ spec found, (Query.child spec, found) ∈
      (next.job.task d).awaits next.outside.answer next.world ∧ UsesKeytab spec found keytab

end Call

/-- A successful `/v1/mint`, and renewals that each post the ticket of the last
200 response; `last` gave that response, and each step is a renewal with the
call whose ticket it posts. A renewal that is not answered with a 200 leaves the
ticket to be posted again. -/
inductive Chain (d : Deployment) : Call → List (Call × Call) → Prop
  | minted {call : Call} {body : MintRequest} {ticket : MintResponse}
      (hMint : call.job.endpoint = .mint body) (hAnswer : call.Answered d (.minted ticket)) :
      Chain d call []
  | renewed {last next : Call} {steps : List (Call × Call)} {ticket : MintResponse}
      (hChain : Chain d last steps) (hNext : last.RenewedBy d next)
      (hAnswer : next.Answered d (.minted ticket)) : Chain d next ((last, next) :: steps)
  | unrenewed {last next : Call} {steps : List (Call × Call)} (hChain : Chain d last steps)
      (hNext : last.RenewedBy d next) : Chain d last ((last, next) :: steps)

section Steps

variable {d : Deployment} {call next : Call}

/-- The ticket of a response is the encoded cache that the child left. -/
theorem Call.Answered.leaves_ccache {minted : MintResponse}
    (h : call.Answered d (.minted minted)) :
    ∃ ccache info, call.Leaves ccache ∧ minted.ccacheB64 = b64encode ccache ∧
      readCcache d.krb5 none (some ccache) = .ok info := by
  obtain ⟨response, hResponse, -, hBody⟩ := h
  obtain ⟨-, stdout, stderr, ccache, info, hReply, hInfo, rfl⟩ := Job.minted_issued hResponse hBody
  refine ⟨ccache, info, ⟨stdout, stderr, hReply⟩, rfl, ?_⟩
  cases hOutput : call.job.env.krb5Output with
  | none => rwa [hOutput] at hInfo
  | some message =>
      rw [hOutput] at hInfo
      cases hInfo

theorem renewSpec_renewsFrom {settings : Settings} {found : World} {tmpdir : PyStr}
    {ccache : Bytes} (hFile : found.files (tmpdir ++ py "/ccache") = some ccache) :
    RenewsFrom (renewSpec settings tmpdir) found ccache :=
  ⟨_, tmpdir ++ py "/ccache", renewSpec_arguments settings tmpdir, by simp, by rfl, hFile⟩

theorem kinitSpec_usesKeytab {settings : Settings} {found : World}
    {username lifetime renewableLifetime tmpdir : PyStr} {stdin : Option Bytes} {keytab : Bytes}
    (hUsername : validateUsername username = .ok ())
    (hFile : found.files (tmpdir ++ py "/keytab") = some keytab) :
    UsesKeytab (kinitSpec settings username lifetime renewableLifetime true stdin tmpdir) found
      keytab :=
  ⟨_, tmpdir ++ py "/keytab",
    kinitSpec_arguments settings lifetime renewableLifetime true tmpdir hUsername stdin,
    by simp [kinitOptions], by rfl, hFile⟩

/-- One renewal: strict decoding gives back the child's bytes, which parsed
once and so parse again, and they are what the next child finds. -/
theorem Call.RenewedBy.renewsInto (h : call.RenewedBy d next) : call.RenewsInto d next := by
  obtain ⟨⟨minted, hAnswer, hRenew⟩, ⟨caller, hCaller⟩, hPrepared, hInput⟩ := h
  obtain ⟨ccache, info, hLeaves, hEncoded, hInfo⟩ := hAnswer.leaves_ccache
  have hDecoded : b64decode minted.ccacheB64 = some ccache := by
    rw [hEncoded, b64decode_b64encode]
  have hStarts : next.job.StartsChild d next.outside next.world := by
    refine (next.job.runsTo d next.outside next.world).child.mpr
      (next.job.outset_of_opening d next.outside next.world hCaller ?_)
    simp only [Job.plan, hRenew, Plan.map]
    exact renewPlan_opens.mpr ⟨ccache, info, hDecoded, by rw [hInput, hInfo], hPrepared⟩
  obtain ⟨spec, found, hAwait⟩ := hStarts
  obtain ⟨rfl, -, -, hGiven⟩ := Job.child_of_await hAwait
  refine ⟨ccache, hLeaves, _, found, hAwait, ?_⟩
  have hFile := hGiven (next.job.env.tmpdir ++ py "/ccache") ccache
    (by simp [Job.inputFile, hRenew, hDecoded])
  simp only [Job.childSpec, hRenew]
  exact renewSpec_renewsFrom hFile

theorem Call.KeytabUsedBy.keytabReaches (h : call.KeytabUsedBy d next) :
    call.KeytabReaches d next := by
  obtain ⟨⟨body, issued, mintBody, hKeytab, ⟨response, hResponse, -, hBody⟩, hMint, hUsername,
    hMode, hPosted, hLifetimes⟩, ⟨caller, hCaller⟩, hPrepared, -⟩ := h
  obtain ⟨hIssuedBy, stdout, stderr, keytab, hReply, hEncoded⟩ := Job.keytab_issued hResponse hBody
  have hDecoded : b64decode issued.keytabB64 = some keytab := by
    rw [hEncoded, b64decode_b64encode]
  have hGate : usernameGate mintBody.username = .ok () := by
    obtain ⟨-, hOpening⟩ := call.job.outset_ok d call.outside call.world
      ((call.job.runsTo d call.outside call.world).child.mp hIssuedBy)
    simp only [Job.plan, hKeytab, Plan.map] at hOpening
    rw [hUsername]
    exact (keytabPlan_opens.mp hOpening).1
  have hStarts : next.job.StartsChild d next.outside next.world := by
    refine (next.job.runsTo d next.outside next.world).child.mpr
      (next.job.outset_of_opening d next.outside next.world hCaller ?_)
    simp only [Job.plan, hMint, Plan.map]
    exact (mintPlan_opens_keytab hMode).mpr
      ⟨gates_ok_iff.mpr ⟨hGate, hLifetimes⟩, ⟨keytab, by rw [hPosted]; exact hDecoded⟩, hPrepared⟩
  obtain ⟨spec, found, hAwait⟩ := hStarts
  obtain ⟨rfl, -, -, hGiven⟩ := Job.child_of_await hAwait
  refine ⟨keytab, ⟨stdout, stderr, hReply⟩, ?_, _, found, hAwait, ?_⟩
  · intro other hOther
    obtain rfl := Endpoint.mint.inj (hMint.symm.trans hOther)
    simpa [hPosted] using hDecoded
  · have hFile := hGiven (next.job.env.tmpdir ++ py "/keytab") keytab
      (by simp [Job.inputFile, hMint, hMode, hPosted, hDecoded])
    simp only [Job.childSpec, hMint, hMode]
    exact kinitSpec_usesKeytab (validateUsername_of_gate hGate) hFile

end Steps

/-- In every chain no renewal is refused before `kinit -R` is started, which
works on the bytes the last child left; and every keytab that was returned
reaches `kinit -k -t` as `cern-get-keytab` left it. -/
theorem credentials_accepted_back (d : Deployment) :
    (∀ last steps, Chain d last steps → ∀ step ∈ steps, step.1.RenewsInto d step.2) ∧
      ∀ call next : Call, call.KeytabUsedBy d next → call.KeytabReaches d next := by
  refine ⟨fun last steps hChain => ?_, fun call next => Call.KeytabUsedBy.keytabReaches⟩
  induction hChain with
  | minted hMint hAnswer => simp
  | renewed hChain hNext hAnswer ih =>
      intro step hStep
      rcases List.mem_cons.mp hStep with rfl | hEarlier
      · exact hNext.renewsInto
      · exact ih step hEarlier
  | unrenewed hChain hNext ih =>
      intro step hStep
      rcases List.mem_cons.mp hStep with rfl | hEarlier
      · exact hNext.renewsInto
      · exact ih step hEarlier

section Cases

def sampleCall (endpoint : Endpoint) (output : Bytes) : Call :=
  ⟨⟨sampleEnv, sampleRequest, endpoint⟩, sampleOutside (.exited 0 [] [] (some output)), sampleWorld⟩

def sampleInfo (endtime : ℤ) : CcacheInfo :=
  ⟨py "gstark@CERN.CH", py "CERN.CH", endtime, some 1709729200⟩

def mintCall : Call := sampleCall (sampleMint (py "secret")) sampleCache

def renewCall : Call := sampleCall (.renew ⟨b64encode sampleCache⟩) renewedCache

def keytabCall : Call := sampleCall (.keytab ⟨py "gstark", py "secret"⟩) [0x05, 0x02, 0xFF]

def keytabMintCall : Call :=
  sampleCall (.mint ⟨py "gstark", none, some (b64encode [0x05, 0x02, 0xFF]), none, none,
    Bool.false_ne_true.symm⟩) sampleCache

theorem sampleCall_admitted (endpoint : Endpoint) (output : Bytes) :
    (sampleCall endpoint output).Admitted sampleDeployment :=
  ⟨⟨_, rfl⟩, ⟨rfl, rfl, fun _ => ⟨rfl, rfl⟩⟩, rfl⟩

set_option maxRecDepth 4000 in
theorem one_renewal_accepted :
    mintCall.RenewsInto sampleDeployment renewCall ∧
      keytabCall.KeytabReaches sampleDeployment keytabMintCall := by
  have hMinted : mintCall.Answered sampleDeployment
      (.minted (mintResponse (mintedTicket (sampleCache, sampleInfo 1709210800)))) :=
    ⟨_, (Job.runsTo _ _ _ _).response, rfl, rfl⟩
  have hRenewed : renewCall.Answered sampleDeployment
      (.minted (mintResponse (mintedTicket (renewedCache, sampleInfo 1709297200)))) :=
    ⟨_, (Job.runsTo _ _ _ _).response, rfl, rfl⟩
  have hKeytab : keytabCall.Answered sampleDeployment
      (.keytab ⟨b64encode [0x05, 0x02, 0xFF], py "gstark@CERN.CH"⟩) :=
    ⟨_, (Job.runsTo _ _ _ _).response, rfl, rfl⟩
  constructor
  · refine (credentials_accepted_back sampleDeployment).1 renewCall [(mintCall, renewCall)]
      (.renewed (.minted rfl hMinted) ⟨⟨_, hMinted, rfl⟩, sampleCall_admitted ..⟩ hRenewed) _
      List.mem_cons_self
  · exact (credentials_accepted_back sampleDeployment).2 keytabCall keytabMintCall
      ⟨⟨_, _, _, rfl, hKeytab, rfl, rfl, rfl, rfl, rfl⟩, sampleCall_admitted ..⟩

end Cases

end Krb5TokenService.Service
