import Krb5TokenService.Minting.Private
import Krb5TokenService.Service.CredentialModes
import Krb5TokenService.Service.Interleaved
import Krb5TokenService.Service.Started

/-! Requests on one replica keep their secrets apart: whatever the order of
their stretches, each child is given its own request's input, and what no child
is running for is not in memory or in a file any more. -/
namespace Krb5TokenService.Service

open Python Python.Base64 EventLoop EventLoop.Task Krb5TokenService.Action
open RateLimit Identity Minting

section Calm

variable {α : Type} (settings : Settings) (caller : Caller)

theorem calm_refuse (subject : LogValue) (username jti : Option PyStr) (outcome : Outcome)
    (requestId : PyStr) (exc : PyExc) :
    (refuse subject username jti outcome requestId exc : Action α).Calm Undisturbed :=
  (calm_modify fun _ => ⟨rfl, rfl⟩).bind fun _ => calm_throw exc

theorem calm_callerRefuse (username : Option PyStr) (outcome : Outcome) (status : Nat)
    (detail : PyStr) :
    (caller.refuse username outcome status detail : Action α).Calm Undisturbed :=
  calm_refuse _ _ _ _ _ _

theorem calm_issue (username : Option PyStr) (principal : PyStr) :
    (caller.issue username principal).Calm Undisturbed := calm_modify fun _ => ⟨rfl, rfl⟩

theorem calm_recordFailure (username : PyStr) :
    (recordFailure settings username).Calm Undisturbed := calm_modify fun _ => ⟨rfl, rfl⟩

theorem calm_resetLimiter (username : PyStr) : (resetLimiter username).Calm Undisturbed :=
  calm_modify fun _ => ⟨rfl, rfl⟩

theorem calm_checkUsername (username : PyStr) :
    (checkUsername caller username).Calm Undisturbed := by
  refine (calm_ofExcept _).tryCatch fun exc => ?_
  cases exc with
  | invalidUsername => exact calm_callerRefuse caller _ _ _ _
  | _ => exact calm_throw _

theorem calm_checkLifetimes (username lifetime renewableLifetime : PyStr) :
    (checkLifetimes caller username lifetime renewableLifetime).Calm Undisturbed := by
  refine ((calm_ofExcept _).bind fun _ => calm_ofExcept _).tryCatch fun exc => ?_
  cases exc with
  | invalidLifetime => exact calm_callerRefuse caller _ _ _ _
  | _ => exact calm_throw _

theorem calm_checkAllowed (username : PyStr) :
    (checkAllowed caller username).Calm Undisturbed := by
  have hCheck : (checkLimiter username).Calm Undisturbed := fun _ => ⟨⟨rfl, rfl⟩, trivial⟩
  refine hCheck.tryCatch fun exc => ?_
  cases exc with
  | rateLimited => exact calm_callerRefuse caller _ _ _ _
  | _ => exact calm_throw _

theorem calm_mintFailure (username : PyStr) (exc : PyExc) :
    (mintFailure settings caller username exc).Calm Undisturbed := by
  cases exc with
  | badPassword =>
      exact (calm_recordFailure settings username).bind fun _ => calm_callerRefuse caller _ _ _ _
  | badKeytab | unknownPrincipal | accountUnusable | minting =>
      exact calm_callerRefuse caller _ _ _ _
  | _ => exact calm_throw _

theorem calm_mintSuccess (body : MintRequest) (minted : MintedTicket) :
    (mintSuccess caller body minted).Calm Undisturbed := by
  unfold mintSuccess
  split
  · exact (calm_resetLimiter _).bind fun _ => (calm_issue caller _ _).bind fun _ => calm_pure _
  · exact (calm_pure ()).bind fun _ => (calm_issue caller _ _).bind fun _ => calm_pure _

theorem calm_renewFailure (exc : PyExc) : (renewFailure caller exc).Calm Undisturbed := by
  cases exc with
  | ccacheParse | ticketExpired | minting => exact calm_callerRefuse caller _ _ _ _
  | _ => exact calm_throw _

theorem calm_renewSuccess (minted : MintedTicket) :
    (renewSuccess caller minted).Calm Undisturbed :=
  (calm_issue caller _ _).bind fun _ => calm_pure _

theorem calm_keytabFailure (username : PyStr) (exc : PyExc) :
    (keytabFailure settings caller username exc).Calm Undisturbed := by
  cases exc with
  | badPassword =>
      exact (calm_recordFailure settings username).bind fun _ => calm_callerRefuse caller _ _ _ _
  | minting => exact calm_callerRefuse caller _ _ _ _
  | _ => exact calm_throw _

theorem calm_keytabSuccess (username : PyStr) (keytab : Bytes) :
    (keytabSuccess settings caller username keytab).Calm Undisturbed :=
  (calm_resetLimiter username).bind fun _ => (calm_issue caller _ _).bind fun _ => calm_pure _

theorem calm_verifyWithKeys (jwt : PyJwt) (keys : Json) (token : PyStr) :
    (verifyWithKeys jwt settings keys token).Calm Undisturbed := by
  unfold verifyWithKeys
  split
  · exact calm_pure _
  · exact (calm_log _ _ _).bind fun _ => calm_throw _
  · exact calm_throw _

end Calm

/-- The except clause of `verify_broker_token`'s `try`. -/
def authenticationFailure (jwt : PyJwt) (token : PyStr) (username : Option PyStr)
    (requestId : PyStr) (exc : PyExc) : Action Claims :=
  match exc with
  | .httpException status _ _ =>
      refuse (peekSub jwt token) username none (if status = 401 then .denied else .error) requestId
        exc
  | exc => throw exc

theorem calm_authenticationFailure (jwt : PyJwt) (token : PyStr) (username : Option PyStr)
    (requestId : PyStr) (exc : PyExc) :
    (authenticationFailure jwt token username requestId exc).Calm Undisturbed := by
  cases exc with
  | httpException => exact calm_refuse _ _ _ _ _ _
  | _ => exact calm_throw _

section Ownership

variable (d : Deployment) (job : Job)

/-- A password in memory, and what is written to a child's stdin. -/
def passwordBuffers (password : PyStr) : List Bytes :=
  [password.encode.getD [], password.encode.getD [] ++ [0x0A]]

/-- The secrets that a request keeps in buffers while its child runs. -/
def Job.secrets : List Bytes :=
  match job.endpoint with
  | .mint body =>
      match body.password with
      | some password => passwordBuffers password
      | none => [(b64decode (body.keytabB64.getD [])).getD []]
  | .renew _ => []
  | .keytab body => passwordBuffers body.password

/-- With its key list a request may allocate, and make its private directory. -/
def Job.granted : (query : Query) → World → Set Cell
  | .jwks, w => freshBuffers w ∪ below job.env.tmpdir
  | .child _, _ => ∅

/-- What a waiting request owns: nothing before its child runs, and then what
the child is given. -/
def Job.Keeping : (query : Query) → Set Cell → World → Prop
  | .jwks, owned, _ => owned = ∅
  | .child spec, owned, w =>
      spec = job.childSpec d ∧ Holding job.env.tmpdir job.secrets job.inputFile owned w

theorem Job.Keeping.same (query : Query) (owned : Set Cell) (w w' : World)
    (hSame : privateCells.Same owned w w') (h : job.Keeping d query owned w) :
    job.Keeping d query owned w' := by
  cases query with
  | jwks => exact h
  | child spec => exact ⟨h.1, h.2.same hSame⟩

end Ownership

section Handlers

variable {α β : Type} {grants : (query : Query) → World → Set Cell}
    {Holds : (query : Query) → Set Cell → World → Prop} {owned : Set Cell} {w w' : World}

/-- A part that leaves memory and files alone, before the rest. -/
theorem calm_then {task : Action β} {f : β → Action α}
    {post : Except PyExc α → Set Cell → World → World → Prop} (hCalm : task.Calm Undisturbed)
    (hError : ∀ exc u, Undisturbed w' u → post (.error exc) owned w u)
    (hRest : ∀ b u, Undisturbed w' u → (f b).Minds privateCells grants Holds post owned w u) :
    (task >>= f).Minds privateCells grants Holds post owned w w' := by
  refine .bind (.of_calm hCalm fun outcome u hSame => ?_)
  cases outcome with
  | ok b => exact hRest b u hSame
  | error exc => exact hError exc u hSame

theorem settled_of_calm {task : Action α} (hCalm : task.Calm Undisturbed)
    (h : privateCells.Confined owned ∅ w w') :
    task.Minds privateCells grants Holds (Settled privateCells) owned w w' :=
  minds_of_calm hCalm h fun _ _ h => h

/-- A minting operation in its `try`, and what follows it. -/
theorem operation_minds {task : Action β} {handler : PyExc → Action β} {rest : β → Action α}
    (hTask : task.Minds privateCells grants Holds (Settled privateCells) owned w w')
    (hHandler : ∀ exc, (handler exc).Calm Undisturbed) (hRest : ∀ b, (rest b).Calm Undisturbed) :
    (tryCatch task handler >>= rest).Minds privateCells grants Holds (Settled privateCells)
      owned w w' := by
  refine .bind (.tryCatch (hTask.mono fun outcome owned t u h => ?_))
  cases outcome with
  | ok b => exact settled_of_calm (hRest b) h
  | error exc =>
      refine minds_of_calm (hHandler exc) h fun outcome v h' => ?_
      cases outcome with
      | ok b => exact settled_of_calm (hRest b) h'
      | error exc' => exact h'

theorem answered_minds {handler : Action α} (body : α → Body)
    (h : handler.Minds privateCells grants Holds (Settled privateCells) owned w w') :
    (serve.answered body handler).Minds privateCells grants Holds (Settled privateCells)
      owned w w' := by
  refine .tryCatch (.bind (h.mono fun outcome owned t u hSettled => ?_))
  cases outcome <;> exact hSettled

/-- The beginning of every handler: it awaits the key list with nothing, and
goes on with what it is granted. -/
theorem authenticate_minds {jwt : PyJwt} {settings : Settings} {env : Env} {request : Request}
    (username : Option PyStr) {rest : Caller → Action α} (hNothing : ∀ w, Holds .jwks ∅ w)
    (hRest : ∀ caller w w', privateCells.Tidy (grants .jwks w) w → Undisturbed w w' →
      (rest caller).Minds privateCells grants Holds (Settled privateCells) (grants .jwks w) w w') :
    (authenticate jwt settings env request username >>= rest).Minds privateCells grants Holds
      (Settled privateCells) ∅ w w := by
  have hStart {owned : Set Cell} {w : World} (hTidy : privateCells.Tidy owned w) :
      privateCells.Confined owned ∅ w w :=
    .start (Set.empty_subset _) (hTidy.mono Set.sdiff_subset)
  have hEmpty : privateCells.Tidy ∅ w := fun _ hc => hc.elim
  unfold authenticate
  cases request.credentials with
  | none =>
      refine .bind (.of_finished rfl ?_)
      exact confined_undisturbed (hStart hEmpty) ⟨rfl, rfl⟩
  | some token =>
      refine ⟨∅, hStart hEmpty, hNothing w, fun reply u _ hTidy => ?_⟩
      rw [Set.sdiff_empty] at hTidy
      rw [Set.empty_union]
      have hCalm : ((tryCatch
          (Task.ofExcept (received settings reply) >>= fun keys =>
            verifyWithKeys jwt settings keys token)
          (authenticationFailure jwt token username (orDefault request.xRequestId env.uuid)) :
            Action Claims) >>= fun claims =>
          pure (Caller.mk claims (orDefault request.xRequestId env.uuid))).Calm Undisturbed := by
        refine Calm.bind (Calm.tryCatch ?_ (calm_authenticationFailure jwt token username _)) ?_
        · exact (calm_ofExcept _).bind fun keys => calm_verifyWithKeys settings jwt keys token
        · exact fun _ => calm_pure _
      refine calm_then hCalm (fun _ _ h => confined_undisturbed (hStart hTidy) h) ?_
      exact fun caller v h => hRest caller u v hTidy h

/-- A stretch that began in `w` with what its key list granted it, and has left
memory and files alone so far. The root of all private directories can be made,
and private directories can be removed. -/
structure Granted (env : Env) (owned : Set Cell) (w w' : World) : Prop where
  root : env.mkdirRoot = none
  removal : env.rmtree = none
  fresh : freshBuffers w ⊆ owned
  zone : below env.tmpdir ⊆ owned
  tidy : privateCells.Tidy owned w
  same : Undisturbed w w'

section

variable {settings : Settings} {krb5 : Krb5} {env : Env} {caller : Caller} {u : World}

theorem Granted.undisturbed (h : Granted env owned w w') (hSame : Undisturbed w' u) :
    Granted env owned w u :=
  ⟨h.root, h.removal, h.fresh, h.zone, h.tidy, IsTrans.trans _ _ _ h.same hSame⟩

theorem Granted.confined (h : Granted env owned w w') : privateCells.Confined owned ∅ w w' :=
  confined_undisturbed (.start (Set.empty_subset _) (h.tidy.mono Set.sdiff_subset)) h.same

/-- The buffer that a secret is first copied into. -/
theorem Granted.newBytearray (h : Granted env owned w w') (secret : Bytes) {f : Ref → Action α}
    {post : Except PyExc α → Set Cell → World → World → Prop}
    (hRest : ∀ buf u, u.heap[buf]? = some secret → freshBuffers u ⊆ owned →
      privateCells.Confined owned (Cell.buffer '' {buf}) w u →
      (f buf).Minds privateCells grants Holds post owned w u) :
    (newBytearray secret >>= f).Minds privateCells grants Holds post owned w w' := by
  have hAlloc : (Minting.newBytearray secret).advance w' =
      (.finished (.ok w'.heap.length), { w' with heap := w'.heap ++ [secret] }) := rfl
  have hOwned : .buffer w'.heap.length ∈ owned := by
    refine h.fresh ⟨_, rfl, ?_⟩
    rw [h.same.heap]
  refine Minds.step hAlloc (hRest _ _ (by simp) ?_ ?_)
  · rintro _ ⟨ref, rfl, hRef⟩
    refine h.fresh ⟨ref, rfl, ?_⟩
    rw [List.length_append, h.same.heap] at hRef
    exact (Nat.le_add_right _ _).trans hRef
  · have hNone : privateCells.Confined owned (Cell.buffer '' ∅) w w' := by
      rw [Set.image_empty]
      exact h.confined
    have hBuilt := confined_alloc hNone hOwned secret
    rwa [insert_empty_eq] at hBuilt

section

variable (hGrants : ∀ spec w, grants (.child spec) w = ∅)
include hGrants

/-- `mint` for an authenticated caller. -/
theorem mintFor_minds (body : MintRequest) (h : Granted env owned w w')
    (hPassword : ∀ password kept t, body.password = some password →
      Holding env.tmpdir (passwordBuffers password) none kept t →
      Holds (.child (kinitSpec settings body.username
        (orDefault body.lifetime settings.defaultLifetime)
        (orDefault body.renewableLifetime settings.defaultRenewableLifetime) false
        (some (password.encode.getD [] ++ [0x0A])) env.tmpdir)) kept t)
    (hKeytab : ∀ keytab kept t, body.password = none →
      b64decode (body.keytabB64.getD []) = some keytab →
      Holding env.tmpdir [keytab] (some (env.tmpdir ++ py "/keytab", keytab)) kept t →
      Holds (.child (kinitSpec settings body.username
        (orDefault body.lifetime settings.defaultLifetime)
        (orDefault body.renewableLifetime settings.defaultRenewableLifetime) true none
        env.tmpdir)) kept t) :
    (mintFor settings krb5 env body caller).Minds privateCells grants Holds
      (Settled privateCells) owned w w' := by
  unfold mintFor
  refine calm_then (calm_checkUsername caller _)
    (fun _ _ hSame => (h.undisturbed hSame).confined) fun _ u hUser => ?_
  have hUser := h.undisturbed hUser
  refine calm_then (calm_checkLifetimes caller _ _ _)
    (fun _ _ hSame => (hUser.undisturbed hSame).confined) fun _ u' hLifetimes => ?_
  have hLifetimes := hUser.undisturbed hLifetimes
  refine .bind ?_
  unfold mintCredential
  cases hMode : body.password with
  | some password =>
      refine calm_then (calm_checkAllowed caller _)
        (fun _ _ hSame => (hLifetimes.undisturbed hSame).confined) fun _ u'' hAllowed => ?_
      have hAllowed := hLifetimes.undisturbed hAllowed
      unfold passwordBuffer
      cases hBytes : password.encode with
      | none => exact hAllowed.confined
      | some bytes =>
          refine hAllowed.newBytearray bytes fun buf t hSecret hFresh hConfined => ?_
          refine operation_minds (mintTicket_minds_password hGrants settings krb5 h.root h.removal
            hConfined hFresh h.zone hSecret fun kept v hHolding => ?_)
            (calm_mintFailure settings caller _) (calm_mintSuccess caller body)
          have hChild := hPassword password kept v hMode
          rw [passwordBuffers, hBytes] at hChild
          exact hChild hHolding
  | none =>
      cases hDecodes : b64decode (body.keytabB64.getD []) with
      | none =>
          exact .of_finished rfl (confined_undisturbed hLifetimes.confined ⟨rfl, rfl⟩)
      | some keytab =>
          refine hLifetimes.newBytearray keytab fun buf t hSecret hFresh hConfined => ?_
          exact operation_minds (mintTicket_minds_keytab hGrants settings krb5 h.root h.removal
            hConfined h.zone hSecret fun kept v => hKeytab keytab kept v hMode hDecodes)
            (calm_mintFailure settings caller _) (calm_mintSuccess caller body)

theorem renewFor_minds (body : RenewRequest) (h : Granted env owned w w')
    (hCcache : ∀ ccache kept t, b64decode body.ccacheB64 = some ccache →
      Holding env.tmpdir [] (some (env.tmpdir ++ py "/ccache", ccache)) kept t →
      Holds (.child (renewSpec settings env.tmpdir)) kept t) :
    (renewFor settings krb5 env body caller).Minds privateCells grants Holds
      (Settled privateCells) owned w w' := by
  refine .bind ?_
  unfold renewCcache
  cases hDecodes : b64decode body.ccacheB64 with
  | none => exact .of_finished rfl (confined_undisturbed h.confined ⟨rfl, rfl⟩)
  | some ccache =>
      exact operation_minds (renewTicket_minds hGrants settings krb5 h.root h.removal h.confined
        h.zone fun kept t => hCcache ccache kept t hDecodes)
        (calm_renewFailure caller) (calm_renewSuccess caller)

theorem keytabFor_minds (body : KeytabRequest) (h : Granted env owned w w')
    (hPassword : ∀ kept t, Holding env.tmpdir (passwordBuffers body.password) none kept t →
      Holds (.child (keytabSpec settings env body.username
        (body.password.encode.getD [] ++ [0x0A]) env.tmpdir)) kept t) :
    (keytabFor settings env body caller).Minds privateCells grants Holds
      (Settled privateCells) owned w w' := by
  unfold keytabFor
  refine calm_then (calm_checkUsername caller _)
    (fun _ _ hSame => (h.undisturbed hSame).confined) fun _ u hUser => ?_
  have hUser := h.undisturbed hUser
  refine calm_then (calm_checkAllowed caller _)
    (fun _ _ hSame => (hUser.undisturbed hSame).confined) fun _ u' hAllowed => ?_
  have hAllowed := hUser.undisturbed hAllowed
  unfold passwordBuffer
  cases hBytes : body.password.encode with
  | none => exact hAllowed.confined
  | some bytes =>
      refine hAllowed.newBytearray bytes fun buf t hSecret hFresh hConfined => ?_
      refine operation_minds (mintKeytab_minds hGrants settings h.root h.removal hConfined hFresh
        h.zone hSecret fun kept v hHolding => ?_)
        (calm_keytabFailure settings caller _) (calm_keytabSuccess settings caller _)
      rw [passwordBuffers, hBytes] at hPassword
      exact hPassword kept v hHolding

end

end

end Handlers

section Runs

variable (d : Deployment)

/-- A request's every stretch minds its own. -/
theorem Job.task_minds (job : Job) (hRoot : job.env.mkdirRoot = none)
    (hRemove : job.env.rmtree = none) (w : World) :
    (job.task d).Minds privateCells job.granted (job.Keeping d) (Settled privateCells) ∅ w w := by
  have hGrants : ∀ spec w, job.granted (.child spec) w = ∅ := fun _ _ => rfl
  have hGranted {u v : World} (hTidy : privateCells.Tidy (job.granted .jwks u) u)
      (hSame : Undisturbed u v) : Granted job.env (job.granted .jwks u) u v :=
    ⟨hRoot, hRemove, Set.subset_union_left, Set.subset_union_right, hTidy, hSame⟩
  unfold task serve
  cases hEndpoint : job.endpoint with
  | mint body =>
      refine answered_minds _ (authenticate_minds _ (fun _ => rfl) fun caller u v hTidy hSame => ?_)
      refine mintFor_minds hGrants body (hGranted hTidy hSame) ?_ ?_
      · intro password kept t hMode hHolding
        refine ⟨?_, ?_⟩
        · simp [childSpec, hEndpoint, hMode]
        · simpa [secrets, inputFile, hEndpoint, hMode] using hHolding
      · intro keytab kept t hMode hDecodes hHolding
        refine ⟨?_, ?_⟩
        · simp [childSpec, hEndpoint, hMode]
        · simpa [secrets, inputFile, hEndpoint, hMode, hDecodes] using hHolding
  | renew body =>
      refine answered_minds _ (authenticate_minds _ (fun _ => rfl) fun caller u v hTidy hSame => ?_)
      refine renewFor_minds hGrants body (hGranted hTidy hSame) ?_
      intro ccache kept t hDecodes hHolding
      refine ⟨?_, ?_⟩
      · simp [childSpec, hEndpoint]
      · simpa [secrets, inputFile, hEndpoint, hDecodes] using hHolding
  | keytab body =>
      refine answered_minds _ (authenticate_minds _ (fun _ => rfl) fun caller u v hTidy hSame => ?_)
      refine keytabFor_minds hGrants body (hGranted hTidy hSame) ?_
      intro kept t hHolding
      refine ⟨?_, ?_⟩
      · simp [childSpec, hEndpoint]
      · simpa [secrets, inputFile, hEndpoint] using hHolding

/-- The secrets in memory on behalf of a waiting request. -/
def heldSecrets (w : ReplicaWaiting) : List Bytes :=
  match w.query with
  | .child _ => w.label.secrets
  | .jwks => []

/-- The buffers that do not only hold zeros. -/
def dirtyBuffers (w : World) : List Bytes := w.heap.filter fun contents => contents.any (· ≠ 0)

/-- The file system's promises: the root of all private directories can be made
and they can be removed; and a directory is made apart from those of the
requests whose children run. -/
def PrivateDirectories (replica : Replica) : ReplicaMove → Prop
  | .start job => job.env.mkdirRoot = none ∧ job.env.rmtree = none
  | .resume index _ =>
      ∀ w, replica.waiting[index]? = some w → w.query = .jwks →
        ∀ v ∈ replica.waiting.eraseIdx index, v.query ≠ .jwks →
          Disjoint (below v.label.env.tmpdir) (below w.label.env.tmpdir)
  | .outside _ => True

/-- Each child that runs is its request's, there are no files but its input,
and no secrets in memory but one copy of what each of these requests needs. -/
structure Secluded (replica : Replica) : Prop where
  specs : ∀ job spec next, (⟨job, .child spec, next⟩ : ReplicaWaiting) ∈ replica.waiting →
    spec = job.childSpec d
  files : ∀ path contents, replica.state.files path = some contents ↔
    ∃ job spec next, (⟨job, .child spec, next⟩ : ReplicaWaiting) ∈ replica.waiting ∧
      job.inputFile = some (path, contents)
  buffers : (dirtyBuffers replica.state).Subperm (replica.waiting.flatMap heldSecrets)

section Division

variable {w : World} {secrets secrets' : List Bytes} {refs refs' : Set Ref}

theorem buffers_append (h : Buffers secrets refs w) (h' : Buffers secrets' refs' w)
    (hApart : Disjoint refs refs') : Buffers (secrets ++ secrets') (refs ∪ refs') w := by
  obtain ⟨order, hNodup, hOrder, hContents⟩ := h
  obtain ⟨order', hNodup', hOrder', hContents'⟩ := h'
  refine ⟨order ++ order', ?_, fun ref => ?_, ?_⟩
  · refine hNodup.append hNodup' fun ref hIn hIn' => ?_
    exact Set.disjoint_left.mp hApart ((hOrder ref).mpr hIn) ((hOrder' ref).mpr hIn')
  · rw [List.mem_append, ← hOrder, ← hOrder']
    rfl
  · rw [List.map_append, List.map_append, hContents, hContents']

/-- If all other buffers are zeroed, the secrets in memory are among these. -/
theorem buffers_subperm (h : Buffers secrets refs w)
    (hRest : ∀ ref contents, w.heap[ref]? = some contents → ref ∉ refs →
      ∀ byte ∈ contents, byte = 0) : (dirtyBuffers w).Subperm secrets := by
  obtain ⟨order, hNodup, hOrder, hContents⟩ := h
  have hHeap : w.heap = (List.range w.heap.length).map fun ref => w.heap.getD ref [] := by
    refine List.ext_getElem (by simp) fun ref hIn hIn' => ?_
    simp [List.getD, hIn]
  have hDirty : dirtyBuffers w =
      ((List.range w.heap.length).filter fun ref =>
        (w.heap.getD ref []).any (· ≠ 0)).map fun ref => w.heap.getD ref [] := by
    rw [dirtyBuffers]
    conv_lhs => rw [hHeap]
    rw [List.filter_map]
    rfl
  have hSecrets : order.map (fun ref => w.heap.getD ref []) = secrets := by
    have hValues := congrArg (List.map fun contents => contents.getD []) hContents
    simpa [Function.comp_def] using hValues
  have hAmong : ((List.range w.heap.length).filter fun ref =>
      (w.heap.getD ref []).any (· ≠ 0)).Subperm order := by
    refine List.subperm_of_subset (List.nodup_range.filter _) fun ref hRef => ?_
    obtain ⟨hIn, hAny⟩ := List.mem_filter.mp hRef
    rw [← hOrder]
    by_contra hNot
    have hRead := List.getElem?_eq_getElem (List.mem_range.mp hIn)
    have hZero := hRest ref _ hRead hNot
    simp only [List.getD, hRead, Option.getD_some, List.any_eq_true, decide_eq_true_eq] at hAny
    obtain ⟨byte, hByte, hNe⟩ := hAny
    exact hNe (hZero byte hByte)
  obtain ⟨found, hPerm, hSublist⟩ := hAmong
  rw [hDirty, ← hSecrets]
  exact ⟨found.map _, hPerm.map _, hSublist.map _⟩

theorem buffers_allocated (h : Buffers secrets refs w) {ref : Ref} (hRef : ref ∈ refs) :
    ref < w.heap.length := by
  obtain ⟨order, -, hOrder, hContents⟩ := h
  have hMem := List.mem_map_of_mem (f := fun ref => w.heap[ref]?) ((hOrder ref).mp hRef)
  rw [hContents] at hMem
  obtain ⟨contents, -, hContents⟩ := List.mem_map.mp hMem
  exact (List.getElem?_eq_some_iff.mp hContents.symm).1

variable {d} {holders : List (ReplicaWaiting × Set Cell)}

theorem held_buffers {v : ReplicaWaiting} {owned : Set Cell}
    (h : v.label.Keeping d v.query owned w) :
    Buffers (heldSecrets v) {ref | .buffer ref ∈ owned} w := by
  obtain ⟨job, query, next⟩ := v
  cases query with
  | jwks =>
      obtain rfl : owned = ∅ := h
      exact ⟨[], .nil, by simp, rfl⟩
  | child spec => exact h.2.buffers

theorem holders_buffers (hOwned : ∀ h ∈ holders, h.1.label.Keeping d h.1.query h.2 w)
    (hApart : holders.Pairwise fun h h' => Disjoint h.2 h'.2) :
    Buffers ((holders.map Prod.fst).flatMap heldSecrets)
      {ref | ∃ h ∈ holders, .buffer ref ∈ h.2} w := by
  induction holders with
  | nil => exact ⟨[], .nil, by simp, rfl⟩
  | cons held rest ih =>
      obtain ⟨hFirst, hRest⟩ := List.pairwise_cons.mp hApart
      have hTail := ih (fun h hIn => hOwned h (List.mem_cons_of_mem _ hIn)) hRest
      have hBoth := buffers_append (held_buffers (hOwned held List.mem_cons_self)) hTail ?_
      · rw [List.map_cons, List.flatMap_cons]
        convert hBoth using 1
        ext ref
        simp
      · refine Set.disjoint_left.mpr ?_
        rintro ref hHere ⟨h, hIn, hThere⟩
        exact Set.disjoint_left.mp (hFirst h hIn) hHere hThere

theorem secluded_of_divided {replica : Replica}
    (h : replica.Divided privateCells Job.granted (Job.Keeping d) holders) :
    Secluded d replica := by
  have hKeeps (held) (hHeld : held ∈ holders) := (h.owned held hHeld).holds
  refine ⟨?_, fun path contents => ⟨fun hFile => ?_, ?_⟩, ?_⟩
  · intro job spec next hIn
    rw [h.waiting] at hIn
    obtain ⟨⟨_, owned⟩, hHeld, rfl⟩ := List.mem_map.mp hIn
    exact (hKeeps _ hHeld).1
  · have hOwned : ∃ held ∈ holders, .file path ∈ held.2 := by
      by_contra hNone
      have hClean : replica.state.files path = none :=
        h.tidy (.file path) fun held hHeld hIn => hNone ⟨held, hHeld, hIn⟩
      rw [hClean] at hFile
      cases hFile
    obtain ⟨⟨⟨job, query, next⟩, owned⟩, hHeld, hIn⟩ := hOwned
    have hKeeping := hKeeps _ hHeld
    cases query with
    | jwks =>
        obtain rfl : owned = ∅ := hKeeping
        exact hIn.elim
    | child spec =>
        refine ⟨job, spec, next, ?_, (hKeeping.2.files path contents).mp ⟨hIn, hFile⟩⟩
        rw [h.waiting]
        exact List.mem_map_of_mem hHeld
  · rintro ⟨job, spec, next, hIn, hInput⟩
    rw [h.waiting] at hIn
    obtain ⟨⟨_, owned⟩, hHeld, rfl⟩ := List.mem_map.mp hIn
    exact (((hKeeps _ hHeld).2.files path contents).mpr hInput).2
  · rw [h.waiting]
    refine buffers_subperm (holders_buffers hKeeps h.apart) fun ref contents hContents hNot => ?_
    exact h.tidy (.buffer ref) (fun held hHeld hIn => hNot ⟨held, hHeld, hIn⟩) contents hContents

end Division

/-- In every interleaving of requests whose private directories are made apart
and can be removed, no request's secrets or files outlive its child, and no
child reads another request's. -/
theorem requests_secluded (now : ℚ) (moves : List ReplicaMove)
    (hDirectories : (freshReplica now).Meets (Job.task d) wait PrivateDirectories moves) :
    Secluded d ((freshReplica now).run (Job.task d) wait moves) := by
  have hIdle : privateCells.Tidy Set.univ (freshReplica now).state := by
    intro c _
    cases c with
    | buffer ref =>
        intro contents hContents
        cases hContents
    | file path => rfl
  have hStart : (freshReplica now).Divided privateCells Job.granted (Job.Keeping d) [] :=
    Loop.idle_divided _ hIdle
  have hRun : ∃ holders, ((freshReplica now).run (Job.task d) wait moves).Divided
      privateCells Job.granted (Job.Keeping d) holders := by
    refine Loop.run_divided (Job.Keeping.same d) ?_ ?_ ?_ hDirectories hStart
    · exact fun replica job hGuard => job.task_minds d hGuard.1 hGuard.2 replica.state
    · intro delay w c _
      cases c <;> rfl
    · intro replica index reply v hGuard hIndex v' hOther owned hKeeping
      obtain ⟨job', query', next'⟩ := v'
      cases hQuery : v.query with
      | child spec => exact Set.disjoint_empty owned
      | jwks =>
          cases query' with
          | jwks =>
              obtain rfl : owned = ∅ := hKeeping
              exact Set.empty_disjoint _
          | child spec =>
              have hApart := hGuard v hIndex hQuery _ hOther (by simp)
              refine Set.disjoint_left.mpr ?_
              rintro c hIn (⟨ref, rfl, hFresh⟩ | hBelow)
              · exact absurd (buffers_allocated hKeeping.2.buffers hIn) (Nat.not_lt.mpr hFresh)
              · obtain ⟨path, rfl, -⟩ := id hBelow
                exact Set.disjoint_left.mp hApart ⟨path, rfl, hKeeping.2.paths path hIn⟩ hBelow
  obtain ⟨holders, hDivided⟩ := hRun
  exact secluded_of_divided hDivided

end Runs

section Cases

theorem below_disjoint {first second : PyStr} (hLength : first.length = second.length)
    (hNe : first ≠ second) : Disjoint (below first) (below second) := by
  refine Set.disjoint_left.mpr ?_
  rintro c ⟨path, rfl, hFirst⟩ ⟨path', hPath, hSecond⟩
  obtain rfl := Cell.file.inj hPath
  have hLengths : (first ++ py "/").length = (second ++ py "/").length := by
    simp [hLength]
  have hEq := (List.prefix_of_prefix_length_le hFirst hSecond hLengths.le).eq_of_length hLengths
  exact hNe (List.append_cancel_right hEq)

/-- A request with a keytab, in a directory of its own. -/
def secondJob : Job :=
  { sampleKeytabMint with env := { sampleEnv with tmpdir := py "/tmp/krb5cc/tmp2" } }

/-- The children of two requests run at once, and then the first one fails. -/
def twoChildren : List ReplicaMove :=
  [.start (sampleJob sampleEnv), .start secondJob,
    .resume 0 (sampleReplies "kinit: Password incorrect"),
    .resume 0 (sampleReplies "kinit: Password incorrect"),
    .resume 0 (sampleReplies "kinit: Password incorrect")]

theorem two_requests_secluded :
    Secluded sampleDeployment
      ((freshReplica 0).run (Job.task sampleDeployment) wait twoChildren) := by
  refine requests_secluded sampleDeployment 0 _
    ⟨⟨rfl, rfl⟩, ⟨rfl, rfl⟩, ?_, ?_, ?_, trivial⟩
  · intro w hIndex _ v hOther hQuery
    obtain rfl := List.mem_singleton.mp hOther
    exact absurd rfl hQuery
  · intro w hIndex _ v hOther _
    obtain rfl := Option.some.inj hIndex
    obtain rfl := List.mem_singleton.mp hOther
    have hApart : Disjoint (below sampleEnv.tmpdir) (below secondJob.env.tmpdir) :=
      below_disjoint (by decide +kernel) (by decide +kernel)
    exact hApart
  · intro w hIndex hQuery
    obtain rfl := Option.some.inj hIndex
    cases hQuery

end Cases

end Krb5TokenService.Service
