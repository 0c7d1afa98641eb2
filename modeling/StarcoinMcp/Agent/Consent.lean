import StarcoinMcp.Agent.Survival
import StarcoinMcp.Lib.FailState

/-! Consent. What one call of `handle_request` may ask of the user and of the daemon,
given what it was told before: a prompt only for a request the daemon knows to be
presented, a result only after an approval, and one reply at most. The list of
presented requests, which the heartbeat reports, is back to what it was at the end. -/

namespace StarcoinMcp.Agent

open Starmask Prog

abbrev Told := List (Answered AgentOp.Answer)

/-- The operation is the agent's answer to a request. -/
def isReply : AgentOp → Bool
  | .requestResolve _ | .requestReject _ => true
  | _ => false

/-- The request that the operation asks the user about. -/
def promptOf : AgentOp → Option PulledRequest
  | .promptForRequest request _ _ => some request
  | .promptForCreateAccount request _ => some request
  | .promptForImportAccount request _ => some request
  | _ => none

/-- The user was asked about the request and approved it. -/
def Approves (request : PulledRequest) : Answered AgentOp.Answer → Prop
  | ⟨.promptForRequest request' _ _, .ok approval⟩ => request' = request ∧ approval.approved = true
  | ⟨.promptForCreateAccount request' _, .ok approval⟩ => request' = request ∧ approval.approved = true
  | ⟨.promptForImportAccount request' _, .ok approval⟩ => request' = request ∧ approval.approved = true
  | _ => False

namespace LocalAccountAgent

variable (agent : LocalAccountAgent) (request : PulledRequest)

/-- The daemon accepted the presentation, under the lease the request was pulled with and, if it is
resumed, the presentation it was pulled with. -/
structure Presented (presentationId : PresentationId) (told : Told) : Prop where
  accepted : (⟨.requestPresented ⟨request.requestId, agent.walletInstanceId,
    request.deliveryLeaseId, presentationId⟩, .ok ()⟩ : Answered AgentOp.Answer) ∈ told
  resumed : ∀ pulled ∈ request.presentationId, presentationId = pulled

/-- The text is the signature of the request's transaction by the account it names, which is the
sender of that transaction. -/
def SignedBySender (hex : String) (told : Told) : Prop :=
  ∃ address bytes rawTxn signedTxn signedBytes,
    agent.parseAccountAddress request.accountAddress = .ok address ∧
    transactionToSign request = .ok bytes ∧
    agent.crates.decodeRaw bytes = .ok rawTxn ∧ rawTxn.sender = address ∧
    (⟨.signTxn address rawTxn, .ok signedTxn⟩ : Answered AgentOp.Answer) ∈ told ∧
    agent.crates.encodeSigned signedTxn = .ok signedBytes ∧ hex = formatHexBytes signedBytes

/-- A result fit to be sent: of the kind that the request asks for. -/
structure Fulfils (result : RequestResult) (told : Told) : Prop where
  approved : ∃ x ∈ told, Approves request x
  kind : result.resultKind = request.kind.expectedResultKind
  signature : ∀ hex, result = .signedTransaction hex → agent.SignedBySender request hex told

/-- What the handler of the request may ask for, after what it was told. -/
structure Permitted (told : Told) (o : AgentOp) : Prop where
  reply : isReply o = true → ∀ x ∈ told, isReply x.1 = false
  prompt : ∀ request' ∈ promptOf o, request' = request ∧
    ∃ presentationId, agent.Presented request presentationId told
  resolve : ∀ params, o = .requestResolve params → ∃ presentationId result,
    params = agent.resolveParams request.requestId presentationId result ∧
    agent.Presented request presentationId told ∧ agent.Fulfils request result told

end LocalAccountAgent

section Monotone

variable {agent : LocalAccountAgent} {request : PulledRequest} {told told' : Told}

theorem LocalAccountAgent.Presented.mono {presentationId : PresentationId}
    (h : agent.Presented request presentationId told) (hle : told ⊆ told') :
    agent.Presented request presentationId told' := ⟨hle h.accepted, h.resumed⟩

theorem LocalAccountAgent.SignedBySender.mono {hex : String}
    (h : agent.SignedBySender request hex told) (hle : told ⊆ told') :
    agent.SignedBySender request hex told' := by
  obtain ⟨address, bytes, rawTxn, signedTxn, signedBytes, haddress, hbytes, hraw, hsender, hsigned,
    hencoded, hhex⟩ := h
  exact ⟨address, bytes, rawTxn, signedTxn, signedBytes, haddress, hbytes, hraw, hsender,
    hle hsigned, hencoded, hhex⟩

theorem LocalAccountAgent.Fulfils.mono {result : RequestResult}
    (h : agent.Fulfils request result told) (hle : told ⊆ told') :
    agent.Fulfils request result told' := by
  obtain ⟨x, hx, happroves⟩ := h.approved
  exact ⟨⟨x, hle hx, happroves⟩, h.kind, fun hex hhex => (h.signature hex hhex).mono hle⟩

/-- Most operations need no permission. -/
theorem permitted_of_plain {o : AgentOp} (hreply : isReply o = false) (hprompt : promptOf o = none) :
    agent.Permitted request told o := by
  refine ⟨?_, ?_, ?_⟩
  · intro h
    rw [hreply] at h
    cases h
  · intro request' h
    rw [hprompt] at h
    cases h
  · rintro params rfl
    cases hreply

theorem plain_of_isLocal {o : AgentOp} (h : isLocal o = true) :
    isReply o = false ∧ promptOf o = none := by
  cases o <;> first | exact ⟨rfl, rfl⟩ | cases h

end Monotone

/-! ## The closures -/

section Closures

variable {agent : LocalAccountAgent} {request : PulledRequest}

/-- Between the presentation and the reply. -/
structure Showing (agent : LocalAccountAgent) (request : PulledRequest)
    (presentationId : PresentationId) (told : Told) : Prop where
  presented : agent.Presented request presentationId told
  silent : ∀ x ∈ told, isReply x.1 = false

theorem Showing.snoc {presentationId : PresentationId} {told : Told}
    (h : Showing agent request presentationId told) {o : AgentOp} (ho : isReply o = false)
    (x : o.Answer) : Showing agent request presentationId (told ++ [⟨o, x⟩]) := by
  refine ⟨h.presented.mono (List.subset_append_left _ _), ?_⟩
  intro y hy
  rcases List.mem_append.mp hy with hy | hy
  · exact h.silent y hy
  · rw [List.mem_singleton.mp hy]
    exact ho

/-- How a closure ends: with nothing sent, and with a result only after an approval. -/
def Closes (agent : LocalAccountAgent) (request : PulledRequest) (presentationId : PresentationId)
    (told : Told) (r : Except RequestRejection RequestResult) : Prop :=
  Showing agent request presentationId told ∧
    ∀ result, r = .ok result → agent.Fulfils request result told

theorem returns_createAccount {password : String} :
    Returns (fun result => result.resultKind = .createdAccount) (agent.createAccount password) :=
  returns_ite returns_throw
    (returns_bind fun _ => returns_bind fun _ => returns_bind fun _ => returns_pure rfl)

theorem returns_importAccount {password : String} :
    Returns (fun result => result.resultKind = .importedAccount)
      (agent.importAccount request password) := by
  refine returns_ite returns_throw ?_
  exact returns_bind fun _ => returns_bind fun _ => returns_bind fun _ => returns_bind fun _ =>
    returns_bind fun _ => returns_bind fun _ => returns_bind fun _ => returns_pure rfl

theorem returns_signTransaction {address : AccountAddress} :
    Returns (fun result => result.resultKind = .signedTransaction)
      (agent.signTransaction request address) := by
  refine returns_bind fun _ => returns_bind fun _ => returns_ite returns_throw ?_
  exact returns_bind fun _ => returns_bind fun _ => returns_bind fun _ => returns_pure rfl

theorem returns_signMessage {address : AccountAddress} :
    Returns (fun result => result.resultKind = .signedMessage)
      (LocalAccountAgent.signMessage request address) :=
  returns_bind fun _ => returns_bind fun _ => returns_bind fun _ => returns_pure rfl

theorem returns_exportAccount {address : AccountAddress} {password : Option String} :
    Returns (fun result => result.resultKind = .exportedAccount)
      (agent.exportAccount request address password) := by
  refine returns_bind fun _ => returns_bind fun _ => returns_bind fun _ => returns_bind fun _ =>
    returns_ite returns_throw ?_
  exact returns_bind fun _ => returns_bind fun _ => returns_bind fun _ => returns_bind fun _ =>
    returns_pure rfl

theorem returns_fulfillRequest {address : AccountAddress} {info : LocalAccount}
    {capabilities : List WalletCapability} {password : Option String} :
    Returns (fun result => result.resultKind = request.kind.expectedResultKind)
      (agent.fulfillRequest request address info capabilities password) := by
  refine returns_bind fun _ => ?_
  cases request.kind with
  | signTransaction => exact returns_signTransaction
  | signMessage => exact returns_signMessage
  | exportAccount => exact returns_exportAccount
  | createAccount => exact returns_throw
  | importAccount => exact returns_throw

/-- Only the transaction of the request is signed, and only for its sender. -/
theorem meets_signTransaction {address : AccountAddress} {told : Told}
    (haddress : agent.parseAccountAddress request.accountAddress = .ok address) :
    Meets (fun _ _ => True) (fun told r => ∀ result, r = .ok result → ∀ hex,
      result = .signedTransaction hex → agent.SignedBySender request hex told) told
      (agent.signTransaction request address) := by
  refine meets_lift_bind (fun bytes hbytes => ?_) (fun e _ => nofun)
  refine meets_lift_bind (fun rawTxn hraw => ?_) (fun e _ => nofun)
  refine meets_ite (fun _ => nofun) (fun hsender => ?_)
  refine meets_ask_bind trivial fun signed => ?_
  refine meets_lift_bind (fun signedTxn hsigned => ?_) (fun e _ => nofun)
  refine meets_lift_bind (fun signedBytes hencoded => ?_) (fun e _ => nofun)
  rintro result hresult hex rfl
  cases hresult
  refine ⟨address, bytes, rawTxn, signedTxn, signedBytes, haddress, hbytes, (mapError_eq_ok hraw),
    not_not.mp hsender, ?_, (mapError_eq_ok hencoded), rfl⟩
  have hanswer : signed = .ok signedTxn := mapError_eq_ok hsigned
  rw [hanswer]
  simp

theorem meets_fulfillRequest_signature {address : AccountAddress} {info : LocalAccount}
    {capabilities : List WalletCapability} {password : Option String} {told : Told}
    (haddress : agent.parseAccountAddress request.accountAddress = .ok address) :
    Meets (fun _ _ => True) (fun told r => ∀ result, r = .ok result → ∀ hex,
      result = .signedTransaction hex → agent.SignedBySender request hex told) told
      (agent.fulfillRequest request address info capabilities password) := by
  by_cases hkind : request.kind = .signTransaction
  · unfold LocalAccountAgent.fulfillRequest
    rw [hkind]
    exact meets_bind_any (fun d _ => meets_signTransaction haddress) (fun d e => nofun)
  · -- no other kind of request has such a result
    refine (meets_any.returns returns_fulfillRequest).imp_post ?_
    rintro d r ⟨-, hreturns⟩ result hresult hex rfl
    have hexpected : ResultKind.signedTransaction = request.kind.expectedResultKind :=
      hreturns _ hresult
    refine absurd ?_ hkind
    cases hk : request.kind with
    | signTransaction => rfl
    | signMessage | exportAccount | createAccount | importAccount =>
      rw [hk] at hexpected
      cases hexpected

/-- Local work leaves the presentation and the approval as they are. -/
theorem meets_local {α : Type} {p : RequestProg α} {presentationId : PresentationId} {told : Told}
    (hp : Asks isLocal p) (hshowing : Showing agent request presentationId told)
    (happroved : ∃ x ∈ told, Approves request x) :
    Meets (agent.Permitted request) (fun told _ => Showing agent request presentationId told ∧
      ∃ x ∈ told, Approves request x) told p := by
  have hkeep := hp.meets_keeping (G := agent.Permitted request)
    (I := fun told => Showing agent request presentationId told ∧ ∃ x ∈ told, Approves request x)
    (fun told o _ ho => permitted_of_plain (plain_of_isLocal ho).1 (plain_of_isLocal ho).2) ?_
    ⟨hshowing, happroved⟩
  · exact hkeep
  · rintro told o x ⟨h, y, hy, happroves⟩ ho
    exact ⟨h.snoc (plain_of_isLocal ho).1 x, y, List.mem_append_left _ hy, happroves⟩

theorem meets_fulfillRequest {address : AccountAddress} {info : LocalAccount}
    {capabilities : List WalletCapability} {password : Option String}
    {presentationId : PresentationId} {told : Told}
    (haddress : agent.parseAccountAddress request.accountAddress = .ok address)
    (hshowing : Showing agent request presentationId told)
    (happroved : ∃ x ∈ told, Approves request x) :
    Meets (agent.Permitted request) (Closes agent request presentationId) told
      (agent.fulfillRequest request address info capabilities password) := by
  have hlocal := meets_local asks_fulfillRequest hshowing happroved (p := agent.fulfillRequest request
    address info capabilities password)
  have hall := (hlocal.returns returns_fulfillRequest).and (meets_fulfillRequest_signature haddress)
  refine hall.imp (fun d o h => h.1) ?_
  rintro d r ⟨⟨⟨hshow, happrove⟩, hkind⟩, hsignature⟩
  exact ⟨hshow, fun result hresult => ⟨happrove, hkind result hresult, hsignature result hresult⟩⟩

/-- An account made by the manager, after an approval. -/
theorem meets_account {kind : ResultKind} {p : RequestProg RequestResult}
    {presentationId : PresentationId} {told : Told} (hp : Asks isLocal p)
    (hreturns : Returns (fun result => result.resultKind = kind) p)
    (hkind : request.kind.expectedResultKind = kind) (hne : kind ≠ .signedTransaction)
    (hshowing : Showing agent request presentationId told)
    (happroved : ∃ x ∈ told, Approves request x) :
    Meets (agent.Permitted request) (Closes agent request presentationId) told p := by
  refine ((meets_local hp hshowing happroved).returns hreturns).imp_post ?_
  rintro d r ⟨⟨hshow, happrove⟩, hresult⟩
  refine ⟨hshow, fun result hr => ⟨happrove, (hresult result hr).trans hkind.symm, ?_⟩⟩
  rintro hex rfl
  exact absurd (hresult _ hr).symm hne

/-- The question to the user: it may be put, and what follows an approval is all that counts. -/
theorem meets_prompt {o : AgentOp} {f : o.Answer → RequestProg RequestResult}
    {presentationId : PresentationId} {told : Told} (ho : promptOf o = some request)
    (hreply : isReply o = false) (hshowing : Showing agent request presentationId told)
    (hf : ∀ x, Showing agent request presentationId (told ++ [⟨o, x⟩]) →
      Meets (agent.Permitted request) (Closes agent request presentationId) (told ++ [⟨o, x⟩]) (f x)) :
    Meets (agent.Permitted request) (Closes agent request presentationId) told (ask o >>= f) := by
  refine meets_ask_bind ⟨?_, ?_, ?_⟩ fun x => hf x (hshowing.snoc hreply x)
  · intro h
    rw [hreply] at h
    cases h
  · intro request' h
    rw [ho] at h
    exact ⟨(Option.some.inj h).symm, presentationId, hshowing.presented⟩
  · rintro params rfl
    cases hreply

theorem closes_error {presentationId : PresentationId} {told : Told} {e : RequestRejection}
    (h : Showing agent request presentationId told) :
    Closes agent request presentationId told (.error e) := ⟨h, nofun⟩

theorem meets_approvedWithPassword {approval : PromptApproval} {rejected missing : String}
    {act : String → RequestProg RequestResult} {presentationId : PresentationId} {told : Told}
    (hshowing : Showing agent request presentationId told)
    (hact : approval.approved = true → ∀ password, Meets (agent.Permitted request)
      (Closes agent request presentationId) told (act password)) :
    Meets (agent.Permitted request) (Closes agent request presentationId) told
      (LocalAccountAgent.approvedWithPassword approval rejected missing act) := by
  refine meets_ite (fun _ => closes_error hshowing) (fun happroved => ?_)
  refine meets_lift_bind (fun password _ => ?_) (fun e _ => closes_error hshowing)
  exact hact (by simpa using happroved) password

theorem meets_signingClosure {snapshot : Snapshot} {address : AccountAddress} {info : LocalAccount}
    {presentationId : PresentationId} {told : Told}
    (haddress : agent.parseAccountAddress request.accountAddress = .ok address)
    (hshowing : Showing agent request presentationId told) :
    Meets (agent.Permitted request) (Closes agent request presentationId) told
      (agent.signingClosure request snapshot address info) := by
  refine meets_prompt rfl rfl hshowing fun x hshown => ?_
  refine meets_lift_bind (fun approval hx => ?_) (fun e _ => closes_error hshown)
  subst hx
  refine meets_ite (fun happroved => ?_) (fun _ => closes_error hshown)
  have happroves : ∃ y ∈ told ++ [(⟨.promptForRequest request info snapshot.capabilities,
      .ok approval⟩ : Answered AgentOp.Answer)], Approves request y :=
    ⟨_, List.mem_append_right _ (List.mem_singleton_self _), rfl, happroved⟩
  refine (meets_local asks_loadSigningAccountInfo hshown happroves).bind ?_ ?_
  · rintro d info' ⟨hshow, happrove⟩
    exact meets_fulfillRequest haddress hshow happrove
  · rintro d e ⟨hshow, -⟩
    exact closes_error hshow

/-! ## The handlers -/

theorem silent_snoc {told : Told} (h : ∀ x ∈ told, isReply x.1 = false) {o : AgentOp}
    (ho : isReply o = false) (x : o.Answer) :
    ∀ y ∈ told ++ [(⟨o, x⟩ : Answered AgentOp.Answer)], isReply y.1 = false := by
  intro y hy
  rcases List.mem_append.mp hy with hy | hy
  · exact h y hy
  · rw [List.mem_singleton.mp hy]
    exact ho

theorem meets_presentationIdFor {told : Told} (h : ∀ x ∈ told, isReply x.1 = false) :
    Meets (agent.Permitted request) (fun told r => (∀ x ∈ told, isReply x.1 = false) ∧
      ∀ presentationId, r = .ok presentationId → ∀ pulled ∈ request.presentationId,
        presentationId = pulled) told (LocalAccountAgent.presentationIdFor request) := by
  unfold LocalAccountAgent.presentationIdFor
  cases hpulled : request.presentationId with
  | none =>
    refine ⟨permitted_of_plain rfl rfl, fun x => ⟨silent_snoc h rfl x, ?_⟩⟩
    intro presentationId _ pulled hnone
    cases hnone
  | some pulled =>
    refine ⟨h, ?_⟩
    rintro presentationId hr pulled' hpulled'
    cases hr
    exact Option.some.inj hpulled'

theorem meets_presentRequest {told : Told} (h : ∀ x ∈ told, isReply x.1 = false) :
    Meets (agent.Permitted request) (fun told r => ∀ presentationId, r = .ok presentationId →
      Showing agent request presentationId told) told (agent.presentRequest request) := by
  apply (meets_presentationIdFor h).bind
  case herr =>
    intro d e _ presentationId hok
    cases hok
  rintro d presentationId ⟨hsilent, hresumed⟩
  apply meets_ask_bind
  · exact permitted_of_plain rfl rfl
  intro reply
  apply meets_lift_bind
  case herr =>
    intro e _ presentationId hok
    cases hok
  intro u hreply
  have haccepted : reply = .ok u := mapError_eq_ok hreply
  subst haccepted
  apply meets_ask_bind
  · exact permitted_of_plain rfl rfl
  intro x presentationId' hr
  cases hr
  apply Showing.snoc _ rfl
  refine ⟨⟨List.mem_append_right _ (List.mem_singleton_self _), ?_⟩, ?_⟩
  · exact hresumed presentationId rfl
  · exact silent_snoc hsilent rfl _

theorem permitted_reject {told : Told} {params : RejectRequestCommand}
    (h : ∀ x ∈ told, isReply x.1 = false) : agent.Permitted request told (.requestReject params) := by
  refine ⟨fun _ => h, ?_, ?_⟩
  · intro request' hprompt
    cases hprompt
  · intro params' heq
    cases heq

theorem permitted_resolve {told : Told} {presentationId : PresentationId} {result : RequestResult}
    (h : Showing agent request presentationId told) (hfulfils : agent.Fulfils request result told) :
    agent.Permitted request told
      (.requestResolve (agent.resolveParams request.requestId presentationId result)) := by
  refine ⟨fun _ => h.silent, ?_, ?_⟩
  · intro request' hprompt
    cases hprompt
  · intro params heq
    exact ⟨presentationId, result, (AgentOp.requestResolve.inj heq).symm, h.presented, hfulfils⟩

theorem meets_withPresentation {closure : RequestProg RequestResult} {told : Told}
    (hsilent : ∀ x ∈ told, isReply x.1 = false)
    (hclosure : ∀ presentationId told, Showing agent request presentationId told →
      Meets (agent.Permitted request) (Closes agent request presentationId) told closure) :
    Meets (agent.Permitted request) (fun _ _ => True) told (agent.withPresentation request closure) := by
  refine (meets_presentRequest hsilent).bind ?_ (fun _ _ _ => trivial)
  intro d presentationId hshowing
  have houtcome : Meets (agent.Permitted request) (fun told r => ∀ outcome, r = .ok outcome →
      Closes agent request presentationId told outcome) (told ++ d)
      (closure.outcome : AgentProg (Except RequestRejection RequestResult)) := by
    refine meets_outcome.mpr ((hclosure presentationId _ (hshowing _ rfl)).imp_post ?_)
    rintro d' r h outcome heq
    cases heq
    exact h
  refine houtcome.bind ?_ (fun _ _ _ => trivial)
  intro d' r hcloses
  obtain ⟨hshow, hfulfils⟩ := hcloses r rfl
  refine meets_ask_bind (permitted_of_plain rfl rfl) fun u => ?_
  have hpopped := hshow.snoc (o := .popPresentedRequest request.requestId) rfl u
  cases r with
  | ok result =>
    have hfulfil := (hfulfils result rfl).mono (List.subset_append_left _ [⟨_, u⟩])
    exact meets_ask_bind (permitted_resolve hpopped hfulfil) fun _ => meets_lift.mpr trivial
  | error rejection =>
    exact meets_ask_bind (permitted_reject hpopped.silent) fun _ => meets_lift.mpr trivial

theorem meets_rejectRequest {presentationId : Option PresentationId} {rejection : RequestRejection}
    {told : Told} (h : ∀ x ∈ told, isReply x.1 = false) :
    Meets (agent.Permitted request) (fun _ _ => True) told
      (agent.rejectRequest request presentationId rejection) :=
  meets_ask_bind (permitted_reject h) fun _ => meets_lift.mpr trivial

theorem meets_handleSigningRequest {snapshot : Snapshot} :
    Meets (agent.Permitted request) (fun _ _ => True) []
      (agent.handleSigningRequest request snapshot) := by
  refine meets_lift_bind (fun address haddress => ?_) (fun _ _ => trivial)
  have hload : Meets (agent.Permitted request) (fun told _ => ∀ x ∈ told, isReply x.1 = false) []
      ((LocalAccountAgent.loadSigningAccountInfo address).outcome :
        AgentProg (Except RequestRejection LocalAccount)) := by
    refine meets_outcome.mpr (asks_loadSigningAccountInfo.meets_keeping ?_ ?_ ?_)
    · exact fun told o _ ho => permitted_of_plain (plain_of_isLocal ho).1 (plain_of_isLocal ho).2
    · exact fun told o x h ho => silent_snoc h (plain_of_isLocal ho).1 x
    · exact fun x hx => nomatch hx
  refine hload.bind ?_ (fun _ _ _ => trivial)
  intro d info hsilent
  cases info with
  | error rejection => exact meets_rejectRequest hsilent
  | ok info =>
    exact meets_withPresentation hsilent fun presentationId told hshowing =>
      meets_signingClosure haddress hshowing

theorem meets_handleRequest {snapshot : Snapshot} :
    Meets (agent.Permitted request) (fun _ _ => True) [] (agent.handleRequest request snapshot) := by
  have hempty : ∀ x ∈ ([] : Told), isReply x.1 = false := fun x hx => nomatch hx
  unfold LocalAccountAgent.handleRequest
  cases hkind : request.kind with
  | createAccount =>
    refine meets_withPresentation hempty fun presentationId told hshowing => ?_
    refine meets_prompt rfl rfl hshowing fun x hshown => ?_
    refine meets_lift_bind (fun approval hx => ?_) (fun e _ => closes_error hshown)
    subst hx
    refine meets_approvedWithPassword hshown fun happroved password => ?_
    refine meets_account asks_createAccount returns_createAccount (by rw [hkind]; rfl) (by decide)
      hshown ⟨_, List.mem_append_right _ (List.mem_singleton_self _), rfl, happroved⟩
  | importAccount =>
    refine meets_withPresentation hempty fun presentationId told hshowing => ?_
    refine meets_prompt rfl rfl hshowing fun x hshown => ?_
    refine meets_lift_bind (fun approval hx => ?_) (fun e _ => closes_error hshown)
    subst hx
    refine meets_approvedWithPassword hshown fun happroved password => ?_
    refine meets_account asks_importAccount returns_importAccount (by rw [hkind]; rfl) (by decide)
      hshown ⟨_, List.mem_append_right _ (List.mem_singleton_self _), rfl, happroved⟩
  | signTransaction => exact meets_handleSigningRequest
  | signMessage => exact meets_handleSigningRequest
  | exportAccount => exact meets_handleSigningRequest

end Closures

/-! ## Presented requests -/

/-- `presented_request_ids` after these answers: `push_presented_request` adds an identifier that is
not there, `pop_presented_request` takes out every occurrence. -/
def presentedAfter (ids : List RequestId) (told : Told) : List RequestId :=
  told.foldl (fun ids x =>
    match x.1 with
    | .pushPresentedRequest requestId => if requestId ∈ ids then ids else ids ++ [requestId]
    | .popPresentedRequest requestId => ids.filter (· ≠ requestId)
    | _ => ids) ids

@[simp] theorem presentedAfter_append {ids : List RequestId} {told told' : Told} :
    presentedAfter ids (told ++ told') = presentedAfter (presentedAfter ids told) told' :=
  List.foldl_append

@[simp] theorem presentedAfter_push {ids : List RequestId} {requestId : RequestId} {u : Unit} :
    presentedAfter ids [⟨.pushPresentedRequest requestId, u⟩] =
      if requestId ∈ ids then ids else ids ++ [requestId] := rfl

@[simp] theorem presentedAfter_pop {ids : List RequestId} {requestId : RequestId} {u : Unit} :
    presentedAfter ids [⟨.popPresentedRequest requestId, u⟩] = ids.filter (· ≠ requestId) := rfl

/-- Neither the list of presented requests nor the pull of a new request. -/
def isAside : AgentOp → Bool
  | .pushPresentedRequest _ | .popPresentedRequest _ | .requestPullNext _ => false
  | _ => true

theorem presentedAfter_aside {ids : List RequestId} {o : AgentOp} {x : o.Answer}
    (h : isAside o = true) : presentedAfter ids [⟨o, x⟩] = ids := by
  cases o <;> first | rfl | cases h

theorem isAside_of_isLocal {o : AgentOp} (h : isLocal o = true) : isAside o = true := by
  cases o <;> first | rfl | cases h

section Presented

variable {agent : LocalAccountAgent} {request : PulledRequest} {ids : List RequestId}

/-- A request is pulled only while the list is `ids`. -/
def PullsWith (ids : List RequestId) (told : Told) (o : AgentOp) : Prop :=
  ∀ walletInstanceId, o = .requestPullNext walletInstanceId → presentedAfter ids told = ids

theorem pullsWith_aside {told : Told} {o : AgentOp} (h : isAside o = true) : PullsWith ids told o := by
  rintro walletInstanceId rfl
  cases h

theorem meets_aside {ε α : Type} {p : Prog AgentOp AgentOp.Answer ε α} {now : List RequestId}
    {told : Told} (hp : Asks isAside p) (h : presentedAfter ids told = now) :
    Meets (PullsWith ids) (fun told _ => presentedAfter ids told = now) told p := by
  refine hp.meets_keeping (fun told o _ ho => pullsWith_aside ho) ?_ h
  intro told o x h ho
  rw [presentedAfter_append, h]
  exact presentedAfter_aside ho

theorem asks_daemonReply {α : Type} {A : AgentOp → Bool} {reply : Except SharedError α} :
    Asks A (daemonReply reply) := asks_lift

theorem meets_withPresentation_presented {closure : RequestProg RequestResult} {told : Told}
    (hclosure : Asks isAside closure) (hnew : request.requestId ∉ ids)
    (h : presentedAfter ids told = ids) :
    Meets (PullsWith ids) (fun told _ => presentedAfter ids told = ids) told
      (agent.withPresentation request closure) := by
  have hpresent : Meets (PullsWith ids) (fun told r => presentedAfter ids told =
      match r with
      | .ok _ => ids ++ [request.requestId]
      | .error _ => ids) told (agent.presentRequest request) := by
    have hid : Asks isAside (LocalAccountAgent.presentationIdFor request) := by
      unfold LocalAccountAgent.presentationIdFor
      split
      · exact asks_pure
      · exact asks_ask rfl
    refine (meets_aside hid h).bind ?_ (fun d e hd => hd)
    intro d presentationId hd
    refine meets_ask_bind (pullsWith_aside rfl) fun reply => ?_
    have hreply : ∀ told' : Told, presentedAfter ids told' = ids → presentedAfter ids (told' ++
        [⟨.requestPresented ⟨request.requestId, agent.walletInstanceId, request.deliveryLeaseId,
          presentationId⟩, reply⟩]) = ids := by
      intro told' htold
      rw [presentedAfter_append, htold]
      exact presentedAfter_aside rfl
    refine meets_lift_bind (fun u _ => ?_) (fun e _ => hreply _ hd)
    refine meets_ask_bind (by rintro w ⟨⟩) fun u => ?_
    show presentedAfter ids _ = _
    rw [presentedAfter_append, hreply _ hd, presentedAfter_push, if_neg hnew]
  refine hpresent.bind ?_ (fun d e hd => hd)
  intro d presentationId hd
  have houtcome : Meets (PullsWith ids) (fun told r => (∃ outcome, r = .ok outcome) ∧
      presentedAfter ids told = ids ++ [request.requestId]) (told ++ d)
      (closure.outcome : AgentProg (Except RequestRejection RequestResult)) :=
    meets_outcome.mpr ((meets_aside hclosure hd).imp_post fun d r h => ⟨⟨r, rfl⟩, h⟩)
  refine houtcome.bind ?_ (fun d' e h => nomatch h.1)
  rintro d' r ⟨-, hd'⟩
  refine meets_ask_bind (by rintro w ⟨⟩) fun u => ?_
  have hpopped : presentedAfter ids (told ++ d ++ d' ++
      [⟨.popPresentedRequest request.requestId, u⟩]) = ids := by
    have hkept : ids.filter (· ≠ request.requestId) = ids := by
      refine List.filter_eq_self.mpr ?_
      intro requestId hmem
      exact decide_eq_true fun heq => hnew (heq ▸ hmem)
    rw [presentedAfter_append, hd', presentedAfter_pop, List.filter_append, hkept]
    simp
  refine meets_aside ?_ hpopped
  cases r with
  | ok result => exact (asks_ask rfl).bind fun _ => asks_daemonReply
  | error rejection => exact (asks_ask rfl).bind fun _ => asks_daemonReply

theorem asks_prompt {o : AgentOp} {f : o.Answer → RequestProg RequestResult}
    (ho : isAside o = true) (hf : ∀ x, Asks isLocal (f x)) : Asks isAside (ask o >>= f) :=
  (asks_ask ho).bind fun x => (hf x).imp fun _ => isAside_of_isLocal

/-- A call leaves the list as it was, if the request was not on it. -/
theorem meets_handleRequest_presented {snapshot : Snapshot} {told : Told}
    (hnew : request.requestId ∉ ids) (h : presentedAfter ids told = ids) :
    Meets (PullsWith ids) (fun told _ => presentedAfter ids told = ids) told
      (agent.handleRequest request snapshot) := by
  have hsigning : Meets (PullsWith ids) (fun told _ => presentedAfter ids told = ids) told
      (agent.handleSigningRequest request snapshot) := by
    refine meets_lift_bind (fun address _ => ?_) (fun _ _ => h)
    have hload : Meets (PullsWith ids) (fun told _ => presentedAfter ids told = ids) told
        ((LocalAccountAgent.loadSigningAccountInfo address).outcome :
          AgentProg (Except RequestRejection LocalAccount)) :=
      meets_outcome.mpr (meets_aside (asks_loadSigningAccountInfo.imp fun _ => isAside_of_isLocal) h)
    refine hload.bind ?_ (fun d e hd => hd)
    intro d info hd
    cases info with
    | error rejection => exact meets_aside ((asks_ask rfl).bind fun _ => asks_daemonReply) hd
    | ok info =>
      refine meets_withPresentation_presented ?_ hnew hd
      exact asks_prompt rfl fun x => asks_lift.bind fun approval =>
        asks_ite (asks_loadSigningAccountInfo.bind fun _ => asks_fulfillRequest) asks_throw
  unfold LocalAccountAgent.handleRequest
  cases request.kind with
  | createAccount =>
    refine meets_withPresentation_presented ?_ hnew h
    exact asks_prompt rfl fun x => asks_lift.bind fun approval =>
      asks_approvedWithPassword fun _ => asks_createAccount
  | importAccount =>
    refine meets_withPresentation_presented ?_ hnew h
    exact asks_prompt rfl fun x => asks_lift.bind fun approval =>
      asks_approvedWithPassword fun _ => asks_importAccount
  | signTransaction => exact hsigning
  | signMessage => exact hsigning
  | exportAccount => exact hsigning

/-! ### The main loop -/

theorem asks_snapshot : Asks isAside agent.snapshot :=
  (asks_ask rfl).bind fun _ => asks_lift.bind fun _ => (asks_ask rfl).bind fun _ => asks_pure

theorem asks_registerBackend : Asks isAside agent.registerBackend :=
  asks_snapshot.bind fun _ => (asks_ask rfl).bind fun _ => asks_daemonReply.bind fun _ =>
    asks_ite asks_throw asks_pure

theorem asks_syncSnapshot {current : Snapshot} : Asks isAside (agent.syncSnapshot current) :=
  asks_snapshot.bind fun _ => asks_ite asks_pure ((asks_ask rfl).bind fun _ =>
    asks_daemonReply.bind fun _ => asks_pure)

theorem meets_rounds_presented (n : ℕ) : ∀ {current : Snapshot} {told : Told},
    presentedAfter [] told = [] →
      Meets (PullsWith []) (fun told _ => presentedAfter [] told = []) told
        (agent.rounds n current) := by
  induction n with
  | zero => exact fun _ => trivial
  | succ n ih =>
    intro current told h
    refine (meets_aside asks_syncSnapshot h).bind ?_ (fun d e hd => hd)
    intro d current hd
    refine meets_ask_bind (fun w _ => hd) fun pulled => ?_
    have hpulled : presentedAfter [] (told ++ d ++
        [⟨.requestPullNext agent.walletInstanceId, pulled⟩]) = [] := by
      rw [presentedAfter_append, hd]
      rfl
    have hsleep : Meets (PullsWith []) (fun told _ => presentedAfter [] told = [])
        (told ++ d ++ [⟨.requestPullNext agent.walletInstanceId, pulled⟩])
        (ask .sleep >>= fun _ => agent.rounds n current) := by
      refine meets_ask_bind (pullsWith_aside rfl) fun u => ih ?_
      rw [presentedAfter_append, hpulled]
      rfl
    match pulled with
    | .error e => exact hsleep
    | .ok none => exact hsleep
    | .ok (some request) =>
      refine (meets_handleRequest_presented (by simp) hpulled).bind ?_ (fun d e hd => hd)
      intro d' _ hd'
      refine (meets_aside asks_syncSnapshot hd').bind ?_ (fun d e hd => hd)
      intro d'' current hd''
      exact ih hd''

theorem meets_run_presented (n : ℕ) :
    Meets (PullsWith []) (fun told _ => presentedAfter [] told = []) [] (agent.run n) := by
  refine (meets_aside asks_registerBackend rfl).bind ?_ (fun d e hd => hd)
  intro d current hd
  exact meets_rounds_presented n hd

end Presented

/-- One call of `handle_request`, whatever it is told: it asks the user and answers the daemon only
as permitted; and in every run of the agent in which the request was pulled, the list of presented
requests is after the call what it was before. -/
theorem handle_request_consents (agent : LocalAccountAgent) (request : PulledRequest)
    (snapshot : Snapshot) :
    (∀ told o k, Steps (agent.handleRequest request snapshot) told (.op o k) →
      agent.Permitted request told o) ∧
      ∀ n before q, Steps (agent.run n) (before ++
          [⟨.requestPullNext agent.walletInstanceId, .ok (some request)⟩]) q →
        ∀ told r, Ended (agent.handleRequest request snapshot) told r →
          presentedAfter (presentedAfter [] before) told = presentedAfter [] before := by
  constructor
  · intro told o k hsteps
    have h := meets_handleRequest.steps hsteps
    rw [List.nil_append] at h
    exact h.1
  · intro n before q hpulled told r hended
    obtain ⟨k, hrun, -⟩ := hpulled.of_snoc
    have hpulls := (meets_run_presented n).steps hrun
    rw [List.nil_append] at hpulls
    have hempty : presentedAfter [] before = [] := hpulls.1 _ rfl
    have hcall : Meets (PullsWith []) (fun told _ => presentedAfter [] told = []) []
        (agent.handleRequest request snapshot) := meets_handleRequest_presented (by simp) rfl
    have hafter := hcall.ended hended
    rw [List.nil_append] at hafter
    rw [hempty, hafter]

end StarcoinMcp.Agent
