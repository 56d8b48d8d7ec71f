import Krb5TokenService.Service.Served

/-! One request from arrival to response in a single run. What other requests
do to the limiter while it waits is left open, and so is how long it waits. -/
namespace Krb5TokenService.Service

open Python EventLoop EventLoop.Task Krb5TokenService.Action
open RateLimit Identity Minting

/-- Everything outside the request's own code: how its two awaits end, what
the clock shows after an await, and what others have done to the limiter. -/
structure Outside where
  jwks : JwksReply
  child : ChildReply
  clock : ℚ → ℚ
  others : LimiterState → LimiterState

namespace Outside

def pass (o : Outside) (w : World) : World :=
  { w with now := o.clock w.now, limiter := o.others w.limiter }

def answer (o : Outside) : (query : Query) → World → Reply query × World
  | .jwks, w => (o.jwks, o.pass w)
  | .child _, w => (o.child, o.pass w)

end Outside

namespace Job

variable (d : Deployment) (job : Job) (o : Outside) (w : World)

def run : Except PyExc Response × World := (job.task d).run o.answer w

/-- A child is started in the run. -/
def StartsChild : Prop := ∃ spec found, (Query.child spec, found) ∈ (job.task d).awaits o.answer w

/-- Whether the run gets as far as its child. -/
def outset : Except Refusal Unit :=
  match job.request.credentials with
  | none => .error (.unauthorized (py "Not authenticated"))
  | some _ => job.opening d o.jwks (o.pass w)

theorem outset_ok (h : job.outset d o w = .ok ()) :
    (∃ caller, job.authentication d o.jwks = .ok caller) ∧
      (job.plan d).opening ((job.plan d).allowed (o.pass w)) = .ok () := by
  unfold outset at h
  split at h
  · cases h
  · exact job.opening_ok d h

/-- An authenticated request that passes its plan's opening gets there. -/
theorem outset_of_opening {caller : Caller} (hCaller : job.authentication d o.jwks = .ok caller)
    (hOpening : (job.plan d).opening ((job.plan d).allowed (o.pass w)) = .ok ()) :
    job.outset d o w = .ok () := by
  cases hToken : job.request.credentials with
  | none => simp [authentication, Service.authentication, hToken] at hCaller
  | some token =>
      simp only [outset, hToken, opening, hCaller]
      exact hOpening

/-- The outcome of the run. -/
def verdict : Except Refusal Response := do
  job.outset d o w
  (job.plan d).closing o.child

theorem verdict_of_outset_ok (h : job.outset d o w = .ok ()) :
    job.verdict d o w = (job.plan d).closing o.child := by
  simp [verdict, h, bind, Except.bind]

theorem verdict_of_outset_error {refusal : Refusal} (h : job.outset d o w = .error refusal) :
    job.verdict d o w = .error refusal := by
  simp [verdict, h, bind, Except.bind]

/-- A value is always a 200 that carries a credential. -/
theorem closing_ok {reply : ChildReply} {response : Response}
    (h : (job.plan d).closing reply = .ok response) :
    response.status = 200 ∧ response.body.Issued := by
  have hMap {α : Type} {verdict : Except Refusal α} (body : α → Body)
      (hBody : ∀ value, (body value).Issued)
      (hOk : verdict.map (answer200 body) = .ok response) :
      response.status = 200 ∧ response.body.Issued := by
    cases verdict with
    | ok value =>
        cases hOk
        exact ⟨rfl, hBody value⟩
    | error refusal => cases hOk
  unfold Job.plan at h
  cases hEndpoint : job.endpoint with
  | mint body =>
      exact hMap .minted (fun _ => trivial) (by simpa [hEndpoint, Plan.map] using h)
  | renew body =>
      exact hMap .minted (fun _ => trivial) (by simpa [hEndpoint, Plan.map] using h)
  | keytab body =>
      exact hMap .keytab (fun _ => trivial) (by simpa [hEndpoint, Plan.map] using h)

theorem verdict_ok {response : Response} (h : job.verdict d o w = .ok response) :
    response.status = 200 ∧ response.body.Issued := by
  cases hOutset : job.outset d o w with
  | ok _ =>
      rw [job.verdict_of_outset_ok d o w hOutset] at h
      exact job.closing_ok d h
  | error refusal =>
      rw [job.verdict_of_outset_error d o w hOutset] at h
      cases h

/-- The limiter before the child, or at the end if there is none. -/
def limiterChecked : LimiterState :=
  match job.request.credentials with
  | none => w.limiter
  | some _ => job.checked d o.jwks (o.pass w)

/-- The limiter at the end of the run. -/
def limiterAfter : LimiterState :=
  match job.outset d o w with
  | .error _ => job.limiterChecked d o w
  | .ok () => (job.plan d).settled d.settings.failedAuth ((job.plan d).ending o.child)
      (o.pass { w with limiter := job.limiterChecked d o w, now := o.clock w.now })

/-- Exactly what the run comes to. -/
structure RunsTo (result : Except PyExc Response × World) : Prop where
  response : result.1 = .ok (answerOf (job.verdict d o w))
  limiter : result.2.limiter = job.limiterAfter d o w
  audits : audits result.2.log = audits w.log ++ (audited (job.verdict d o w)).toList
  child : job.StartsChild d o w ↔ job.outset d o w = .ok ()

theorem runsTo : job.RunsTo d o w (job.run d o w) := by
  cases hToken : job.request.credentials with
  | none =>
      obtain ⟨w', hAdvance, hLeaves⟩ := job.answers_of_none d hToken w
      have hRun : job.run d o w = _ := run_of_finished o.answer hAdvance
      have hOutset : job.outset d o w = .error (.unauthorized (py "Not authenticated")) := by
        simp [outset, hToken]
      have hVerdict := job.verdict_of_outset_error d o w hOutset
      rw [hRun]
      refine ⟨by rw [hVerdict], ?_, by rw [hVerdict]; exact hLeaves.audits, ?_⟩
      · simp [limiterAfter, hOutset, limiterChecked, hToken, hLeaves.limiter]
      · simp [StartsChild, awaits_of_finished o.answer hAdvance, hOutset]
  | some token =>
      obtain ⟨next, hAdvance, hServes⟩ := job.serves d hToken w
      have hOutset : job.outset d o w = job.opening d o.jwks (o.pass w) := by
        simp [outset, hToken]
      have hChecked : job.limiterChecked d o w = job.checked d o.jwks (o.pass w) := by
        simp [limiterChecked, hToken]
      have hRun : job.run d o w = (next o.jwks).run o.answer (o.pass w) :=
        run_of_waiting o.answer hAdvance
      have hAwaits := awaits_of_waiting o.answer hAdvance
      have hServe := hServes o.jwks (o.pass w)
      rw [← hOutset, ← hChecked] at hServe
      cases hOpening : job.outset d o w with
      | error refusal =>
          rw [hOpening] at hServe
          obtain ⟨w', hEnd, hLeaves⟩ := hServe
          have hVerdict := job.verdict_of_outset_error d o w hOpening
          rw [hRun, run_of_finished o.answer hEnd]
          refine ⟨by rw [hVerdict], ?_, by rw [hVerdict]; exact hLeaves.audits, ?_⟩
          · simp [limiterAfter, hOpening, hLeaves.limiter]
          · simp [StartsChild, hAwaits, Outside.answer, awaits_of_finished o.answer hEnd, hOpening]
      | ok _ =>
          rw [hOpening] at hServe
          obtain ⟨spec, next', w', hWait, hLeaves, hClosing⟩ := hServe
          obtain ⟨w'', hEnd, hLeaves'⟩ := hClosing o.child (o.pass w')
          have hVerdict := job.verdict_of_outset_ok d o w hOpening
          rw [hRun, run_of_waiting o.answer hWait]
          have hFinal : (next' o.child).run o.answer (o.pass w') = _ :=
            run_of_finished o.answer hEnd
          change job.RunsTo d o w ((next' o.child).run o.answer (o.pass w'))
          rw [hFinal]
          refine ⟨by rw [hVerdict], ?_, ?_, ?_⟩
          · rw [hLeaves'.limiter]
            simp only [limiterAfter, hOpening]
            refine Plan.settled_congr _ ?_ ?_ _
            · exact congrArg o.others hLeaves.limiter
            · exact congrArg o.clock hLeaves.now
          · have hBefore : audits w'.log = audits w.log := by
              simpa [Outside.pass] using hLeaves.audits
            rw [hVerdict, hLeaves'.audits, ← hBefore]
            rfl
          · have hChild : (Query.child spec, w') ∈ (job.task d).awaits o.answer w := by
              rw [hAwaits]
              refine List.mem_cons_of_mem _ ?_
              change _ ∈ (next o.jwks).awaits o.answer (o.pass w)
              rw [awaits_of_waiting o.answer hWait]
              exact List.mem_cons_self
            simpa [hOpening] using ⟨spec, w', hChild⟩

end Job

section Sample

/-- Bytes behind their number, as a credential cache counts them. -/
def counted (bytes : Bytes) : Bytes := [0, 0, 0, UInt8.ofNat bytes.length] ++ bytes

def cachePrincipal (nameType : UInt8) (realm : Bytes) (components : List Bytes) : Bytes :=
  [0, 0, 0, nameType, 0, 0, 0, UInt8.ofNat components.length] ++ counted realm ++
    components.flatMap counted

/-- A cache file of version 4: the principal `gstark` of this realm, and its
ticket-granting ticket with this end time and a session key of these bytes. -/
def cacheFile (realm endtime : Bytes) (key : UInt8) : Bytes :=
  let client := cachePrincipal 1 realm [[0x67, 0x73, 0x74, 0x61, 0x72, 0x6B]]
  let server := cachePrincipal 2 realm [[0x6B, 0x72, 0x62, 0x74, 0x67, 0x74], realm]
  let starttime : Bytes := [0x65, 0xDF, 0x2B, 0x30]
  [0x05, 0x04, 0, 0] ++ client ++ client ++ server ++ [0, 0x11] ++
    counted (List.replicate 16 key) ++ starttime ++ starttime ++ endtime ++
    [0x65, 0xE8, 0x65, 0xB0] ++ [0, 0x50, 0xE1, 0, 0] ++ counted [] ++ counted [] ++
    counted [0x61, 0x00] ++ counted []

def cernRealm : Bytes := [0x43, 0x45, 0x52, 0x4E, 0x2E, 0x43, 0x48]

/-- What `kinit` leaves for `gstark` of `CERN.CH`. -/
def sampleCache : Bytes := cacheFile cernRealm [0x65, 0xE0, 0x7C, 0xB0] 0x4B

/-- The same ticket with another session key. -/
def rekeyedCache : Bytes := cacheFile cernRealm [0x65, 0xE0, 0x7C, 0xB0] 0x4C

/-- What a renewal, a day later, makes of it. -/
def renewedCache : Bytes := cacheFile cernRealm [0x65, 0xE1, 0xCE, 0x30] 0x4B

/-- A cache of `gstark` in the realm `A`. -/
def foreignCache : Bytes := cacheFile [0x41] [0x65, 0xE0, 0x7C, 0xB0] 0x4B

/-- Such a file as libkrb5 reads it. -/
def cacheOf (realm : Bytes) (principal server : String) (endtime : ℤ) : Krb5Ccache where
  principal := ⟨realm, some (py principal)⟩
  creds := [⟨⟨realm, some (py server)⟩, endtime, 1709729200⟩]
  broken := none

/-- A libkrb5 that knows these four files, and finds no cache in any other. -/
def sampleKrb5 : Krb5 where
  load
    | none => .error (py "No credentials cache found")
    | some contents =>
        if contents = sampleCache ∨ contents = rekeyedCache then
          .ok (cacheOf cernRealm "gstark@CERN.CH" "krbtgt/CERN.CH@CERN.CH" 1709210800)
        else if contents = renewedCache then
          .ok (cacheOf cernRealm "gstark@CERN.CH" "krbtgt/CERN.CH@CERN.CH" 1709297200)
        else if contents = foreignCache then
          .ok (cacheOf [0x41] "gstark@A" "krbtgt/A@A" 1709210800)
        else .error (py "Bad format in credentials cache")

def sampleDeployment : Deployment := ⟨brokerJwt, {}, sampleKrb5⟩

def sampleKeys : Json := .arr [brokerKey]

/-- An operating system that lets every step succeed. -/
def sampleEnv : Env where
  executable := py "/usr/bin/python3"
  uuid := py "request-1"
  tmpdir := py "/tmp/krb5cc/tmp1"
  mkdirRoot := none
  mkdtemp := none
  writeInput := none
  chmodInput := none
  readBack := none
  rmtree := none
  krb5Input := none
  krb5Output := none

def sampleRequest : Request := ⟨none, some brokerToken⟩

def sampleMint (password : PyStr) : Endpoint :=
  .mint ⟨py "gstark", some password, none, none, none, by simp⟩

def sampleJob (env : Env) : Job := ⟨env, sampleRequest, sampleMint (py "secret")⟩

/-- An operating system that cannot remove the private directory. -/
def stuckEnv : Env := { sampleEnv with rmtree := some (py "Device or resource busy") }

def sampleStderr (line : String) : Bytes := (py line).flatMap utf8

/-- A child that exits with status 1 and this line on its stderr. -/
def sampleFailure (line : String) : ChildReply := .exited 1 [] (sampleStderr line) none

def sampleOutside (child : ChildReply) : Outside := ⟨.keys sampleKeys, child, id, id⟩

def sampleWorld : World := ⟨fun _ => none, 0, [], [], fun _ => none⟩

end Sample

end Krb5TokenService.Service
