import StarcoinMcp.Agent.LocalAgent

/-! When the main loop of the agent returns. An error of `request.pullNext` is logged and the
loop goes on, but the errors of `request.presented`, `request.resolve` and `request.reject`,
and an address that cannot be parsed, travel up to `run` and end it. -/

namespace StarcoinMcp.Agent

open Starmask Prog

/-- The daemon did not refuse what the agent reported about a request. -/
def Accepted : Answered AgentOp.Answer → Prop
  | ⟨.requestPresented _, reply⟩ => ∃ u, reply = .ok u
  | ⟨.requestResolve _, reply⟩ => ∃ u, reply = .ok u
  | ⟨.requestReject _, reply⟩ => ∃ u, reply = .ok u
  | _ => True

/-- The agent's own state could be read and reported. -/
def Sound : Answered AgentOp.Answer → Prop
  | ⟨.listAccountInfos, infos⟩ => ∃ l, infos = .ok l
  | ⟨.backendRegister _, reply⟩ => reply = .ok true
  | ⟨.backendUpdateAccounts _, reply⟩ => ∃ u, reply = .ok u
  | _ => True

namespace LocalAccountAgent

variable (agent : LocalAccountAgent)

/-- The request needs no account address, or has one that can be parsed. -/
def Addresses (request : PulledRequest) : Prop :=
  request.kind = .createAccount ∨ request.kind = .importAccount ∨
    ∃ address, agent.parseAccountAddress request.accountAddress = .ok address

/-- A pulled request has the address it needs. -/
def Readable : Answered AgentOp.Answer → Prop
  | ⟨.requestPullNext _, .ok (some request)⟩ => agent.Addresses request
  | _ => True

/-- The answer is no reason for `run` to return on account of a request. -/
def Serves (x : Answered AgentOp.Answer) : Prop := Accepted x ∧ agent.Readable x

/-- `run` returns at this answer. -/
def Fatal (x : Answered AgentOp.Answer) : Prop := ¬ (agent.Serves x ∧ Sound x)

end LocalAccountAgent

section Handlers

variable {agent : LocalAccountAgent} {request : PulledRequest}

/-- The closures ask the user, the account manager for one account, and the file system. -/
def isPrivate : AgentOp → Bool
  | .listAccountInfos | .backendRegister _ | .backendUpdateAccounts _ | .requestPullNext _
  | .requestPresented _ | .requestResolve _ | .requestReject _ => false
  | _ => true

theorem not_fatal_of_private {x : Answered AgentOp.Answer} (h : isPrivate x.1 = true) :
    ¬ agent.Fatal x := by
  obtain ⟨o, y⟩ := x
  refine not_not_intro ⟨⟨?_, ?_⟩, ?_⟩ <;> cases o <;> trivial

/-! ### The closures -/

/-- What they ask once the user has answered. -/
def isLocal : AgentOp → Bool
  | .accountInfo _ | .unlockAccount .. | .signTxn .. | .signMessage .. | .createAccount _
  | .importAccount .. | .exportAccount .. | .readToString _ | .writePrivateKeyFile .. => true
  | _ => false

theorem isPrivate_of_isLocal {o : AgentOp} (h : isLocal o = true) : isPrivate o = true := by
  cases o <;> first | rfl | cases h

theorem asks_orReject {α : Type} {answer : Except String α} {reasonCode : RejectReasonCode}
    {context : String} : Asks isLocal (orReject answer reasonCode context) := asks_lift

theorem asks_signTransaction {address : AccountAddress} :
    Asks isLocal (agent.signTransaction request address) := by
  refine asks_lift.bind fun bytes => asks_orReject.bind fun rawTxn => asks_ite asks_throw ?_
  exact (asks_ask rfl).bind fun _ => asks_orReject.bind fun _ => asks_orReject.bind fun _ => asks_pure

theorem asks_signMessage {address : AccountAddress} :
    Asks isLocal (LocalAccountAgent.signMessage request address) :=
  asks_lift.bind fun _ => (asks_ask rfl).bind fun _ => asks_orReject.bind fun _ => asks_pure

theorem asks_exportAccount {address : AccountAddress} {password : Option String} :
    Asks isLocal (agent.exportAccount request address password) := by
  refine asks_lift.bind fun password => asks_lift.bind fun outputFile =>
    (asks_ask rfl).bind fun _ => asks_orReject.bind fun bytes => asks_ite asks_throw ?_
  exact asks_orReject.bind fun _ => asks_orReject.bind fun _ => (asks_ask rfl).bind fun _ =>
    asks_lift.bind fun _ => asks_pure

theorem asks_storedAccount {address : AccountAddress} {loading missing : String} :
    Asks isLocal (LocalAccountAgent.storedAccount address loading missing) :=
  (asks_ask rfl).bind fun _ => asks_orReject.bind fun _ => asks_lift

theorem asks_createAccount {password : String} : Asks isLocal (agent.createAccount password) := by
  refine asks_ite asks_throw ?_
  exact (asks_ask rfl).bind fun _ => asks_orReject.bind fun _ => asks_storedAccount.bind fun _ => asks_pure

theorem asks_importAccount {password : String} :
    Asks isLocal (agent.importAccount request password) := by
  refine asks_ite asks_throw ?_
  exact asks_lift.bind fun _ => (asks_ask rfl).bind fun _ => asks_orReject.bind fun _ =>
    asks_lift.bind fun _ => (asks_ask rfl).bind fun _ => asks_orReject.bind fun _ =>
      asks_storedAccount.bind fun _ => asks_pure

theorem asks_unlockAccount {address : AccountAddress} {info : LocalAccount}
    {capabilities : List WalletCapability} {password : Option String} :
    Asks isLocal (agent.unlockAccount address info capabilities password) := by
  refine asks_ite ?_ asks_pure
  exact asks_lift.bind fun _ => asks_lift.bind fun _ => (asks_ask rfl).bind fun _ => asks_orReject

theorem asks_fulfillRequest {address : AccountAddress} {info : LocalAccount}
    {capabilities : List WalletCapability} {password : Option String} :
    Asks isLocal (agent.fulfillRequest request address info capabilities password) := by
  refine asks_unlockAccount.bind fun _ => ?_
  cases request.kind with
  | signTransaction => exact asks_signTransaction
  | signMessage => exact asks_signMessage
  | exportAccount => exact asks_exportAccount
  | createAccount => exact asks_throw
  | importAccount => exact asks_throw

theorem asks_loadSigningAccountInfo {address : AccountAddress} :
    Asks isLocal (LocalAccountAgent.loadSigningAccountInfo address) :=
  (asks_ask rfl).bind fun _ => asks_orReject.bind fun _ => asks_lift.bind fun _ =>
    asks_ite asks_throw asks_pure

theorem asks_approvedWithPassword {approval : PromptApproval} {rejected missing : String}
    {act : String → RequestProg RequestResult} (hact : ∀ password, Asks isLocal (act password)) :
    Asks isLocal (LocalAccountAgent.approvedWithPassword approval rejected missing act) :=
  asks_ite asks_throw (asks_lift.bind hact)

theorem asks_signingClosure {snapshot : Snapshot} {address : AccountAddress} {info : LocalAccount} :
    Asks isPrivate (agent.signingClosure request snapshot address info) := by
  refine (asks_ask rfl).bind fun _ => asks_lift.bind fun _ => asks_ite ?_ asks_throw
  have hlocal : ∀ approval : PromptApproval, Asks isLocal
      (LocalAccountAgent.loadSigningAccountInfo address >>= fun info => agent.fulfillRequest request
        address info snapshot.capabilities approval.password) :=
    fun approval => asks_loadSigningAccountInfo.bind fun _ => asks_fulfillRequest
  exact (hlocal _).imp fun _ => isPrivate_of_isLocal

/-! ### The handlers -/

theorem fatal_of_not_accepted {x : Answered AgentOp.Answer} (h : ¬ Accepted x) : agent.Fatal x :=
  fun hx => h hx.1.1

/-- `?` on an answer of the daemon that is fatal if and only if it is an error. -/
theorem heeds_daemonReply {α : Type} {y : Answered AgentOp.Answer} {reply : Except SharedError α}
    (hok : ∀ a, reply = .ok a → ¬ agent.Fatal y) (herror : ∀ e, reply = .error e → agent.Fatal y) :
    Heeds agent.Fatal (some y) (daemonReply reply) := by
  refine heeds_lift ?_ ?_
  · intro a ha
    exact hok a (mapError_eq_ok ha)
  · intro e he
    cases reply with
    | ok a => cases he
    | error error => exact herror error rfl

theorem heeds_resolveRequest {presentationId : PresentationId} {result : RequestResult} :
    Heeds agent.Fatal none (agent.resolveRequest request presentationId result) := by
  refine heeds_ask_bind fun reply => heeds_daemonReply ?_ ?_
  · rintro u rfl
    exact not_not_intro ⟨⟨⟨u, rfl⟩, trivial⟩, trivial⟩
  · rintro e rfl
    exact fatal_of_not_accepted fun ⟨u, hu⟩ => nomatch hu

theorem heeds_rejectRequest {presentationId : Option PresentationId} {rejection : RequestRejection} :
    Heeds agent.Fatal none (agent.rejectRequest request presentationId rejection) := by
  refine heeds_ask_bind fun reply => heeds_daemonReply ?_ ?_
  · rintro u rfl
    exact not_not_intro ⟨⟨⟨u, rfl⟩, trivial⟩, trivial⟩
  · rintro e rfl
    exact fatal_of_not_accepted fun ⟨u, hu⟩ => nomatch hu

theorem heeds_presentationIdFor :
    Heeds agent.Fatal none (LocalAccountAgent.presentationIdFor request) := by
  unfold LocalAccountAgent.presentationIdFor
  cases request.presentationId with
  | some id => exact heeds_pure
  | none => exact heeds_ask fun _ => not_fatal_of_private rfl

theorem heeds_presentRequest : Heeds agent.Fatal none (agent.presentRequest request) := by
  refine heeds_presentationIdFor.bind fun id => heeds_ask_bind fun reply => ?_
  refine Heeds.bind (heeds_daemonReply ?_ ?_) fun _ =>
    (heeds_ask fun _ => not_fatal_of_private rfl).bind fun _ => heeds_pure
  · rintro u rfl
    exact not_not_intro ⟨⟨⟨u, rfl⟩, trivial⟩, trivial⟩
  · rintro e rfl
    exact fatal_of_not_accepted fun ⟨u, hu⟩ => nomatch hu

theorem heeds_withPresentation {closure : RequestProg RequestResult} (h : Asks isPrivate closure) :
    Heeds agent.Fatal none (agent.withPresentation request closure) := by
  refine heeds_presentRequest.bind fun id => ?_
  refine (heeds_outcome h fun x => not_fatal_of_private).bind fun result => ?_
  refine (heeds_ask fun _ => not_fatal_of_private rfl).bind fun _ => ?_
  cases result with
  | ok result => exact heeds_resolveRequest
  | error rejection => exact heeds_rejectRequest

theorem heeds_handleCreateAccountRequest {snapshot : Snapshot} :
    Heeds agent.Fatal none (agent.handleCreateAccountRequest request snapshot) :=
  heeds_withPresentation ((asks_ask rfl).bind fun _ => asks_lift.bind fun _ =>
    (asks_approvedWithPassword fun _ => asks_createAccount).imp fun _ => isPrivate_of_isLocal)

theorem heeds_handleImportAccountRequest {snapshot : Snapshot} :
    Heeds agent.Fatal none (agent.handleImportAccountRequest request snapshot) :=
  heeds_withPresentation ((asks_ask rfl).bind fun _ => asks_lift.bind fun _ =>
    (asks_approvedWithPassword fun _ => asks_importAccount).imp fun _ => isPrivate_of_isLocal)

theorem heeds_handleSigningRequest {snapshot : Snapshot} {address : AccountAddress}
    (h : agent.parseAccountAddress request.accountAddress = .ok address) :
    Heeds agent.Fatal none (agent.handleSigningRequest request snapshot) := by
  unfold LocalAccountAgent.handleSigningRequest
  rw [h]
  refine (heeds_outcome asks_loadSigningAccountInfo fun x hx =>
    not_fatal_of_private (isPrivate_of_isLocal hx)).bind fun info => ?_
  cases info with
  | error rejection => exact heeds_rejectRequest
  | ok info => exact heeds_withPresentation asks_signingClosure

theorem heeds_handleRequest {snapshot : Snapshot} (h : agent.Addresses request) :
    Heeds agent.Fatal none (agent.handleRequest request snapshot) := by
  have hsigning : (∃ address, agent.parseAccountAddress request.accountAddress = .ok address) →
      Heeds agent.Fatal none (agent.handleSigningRequest request snapshot) := by
    rintro ⟨address, haddress⟩
    exact heeds_handleSigningRequest haddress
  unfold LocalAccountAgent.handleRequest
  unfold LocalAccountAgent.Addresses at h
  cases hkind : request.kind with
  | createAccount => exact heeds_handleCreateAccountRequest
  | importAccount => exact heeds_handleImportAccountRequest
  | signTransaction => exact hsigning (by simpa [hkind] using h)
  | signMessage => exact hsigning (by simpa [hkind] using h)
  | exportAccount => exact hsigning (by simpa [hkind] using h)

/-- Without an address the handler fails before it asks for anything. -/
theorem handleRequest_of_not_addresses (snapshot : Snapshot) (h : ¬ agent.Addresses request) :
    ∃ e, agent.handleRequest request snapshot = throw e := by
  have hsigning : ∃ e, agent.handleSigningRequest request snapshot = throw e := by
    cases hparse : agent.parseAccountAddress request.accountAddress with
    | ok address => exact absurd (.inr (.inr ⟨address, hparse⟩)) h
    | error e =>
      refine ⟨e, ?_⟩
      unfold LocalAccountAgent.handleSigningRequest
      rw [hparse]
      rfl
  unfold LocalAccountAgent.handleRequest
  cases hkind : request.kind with
  | createAccount => exact absurd (.inl hkind) h
  | importAccount => exact absurd (.inr (.inl hkind)) h
  | signTransaction => exact hsigning
  | signMessage => exact hsigning
  | exportAccount => exact hsigning

/-- A request that cannot be addressed is fatal where it is pulled, every other one where the
daemon refuses a reply to it. -/
theorem heeds_pulled {snapshot : Snapshot} {id : WalletInstanceId} :
    Heeds agent.Fatal (some ⟨.requestPullNext id, .ok (some request)⟩)
      (agent.handleRequest request snapshot) := by
  by_cases haddress : agent.Addresses request
  · refine (heeds_handleRequest haddress).after ?_
    rintro x ⟨⟩
    exact not_not_intro ⟨⟨trivial, haddress⟩, trivial⟩
  · obtain ⟨e, he⟩ := handleRequest_of_not_addresses snapshot haddress
    rw [he]
    exact heeds_throw fun hx => haddress hx.1.2

end Handlers

/-! ### The loop -/

section Loop

variable {agent : LocalAccountAgent}

theorem heeds_snapshot : Heeds agent.Fatal none agent.snapshot := by
  refine heeds_ask_bind fun infos => ?_
  refine Heeds.bind (heeds_lift ?_ ?_) fun l =>
    (heeds_ask fun _ => not_fatal_of_private rfl).bind fun _ => heeds_pure
  · intro l hl
    exact not_not_intro ⟨⟨trivial, trivial⟩, l, mapError_eq_ok hl⟩
  · intro e he
    rintro ⟨-, l, rfl⟩
    cases he

theorem heeds_registerBackend : Heeds agent.Fatal none agent.registerBackend := by
  refine heeds_snapshot.bind fun snapshot => heeds_ask_bind fun reply => ?_
  match reply with
  | .error error => exact heeds_throw fun hx => nomatch hx.2
  | .ok false => exact heeds_throw fun hx => nomatch hx.2
  | .ok true =>
    refine heeds_pure.after ?_
    rintro x ⟨⟩
    exact not_not_intro ⟨⟨trivial, trivial⟩, rfl⟩

theorem heeds_syncSnapshot {current : Snapshot} : Heeds agent.Fatal none (agent.syncSnapshot current) := by
  refine heeds_snapshot.bind fun next => ?_
  by_cases hsame : current = next
  · rw [if_pos hsame]
    exact heeds_pure
  · rw [if_neg hsame]
    refine heeds_ask_bind fun reply => Heeds.bind (heeds_daemonReply ?_ ?_) fun _ => heeds_pure
    · rintro u rfl
      exact not_not_intro ⟨⟨trivial, trivial⟩, u, rfl⟩
    · rintro e rfl
      exact fun hx => nomatch hx.2

/-- By induction on the number of rounds. -/
theorem heeds_rounds (n : ℕ) (current : Snapshot) : Heeds agent.Fatal none (agent.rounds n current) := by
  induction n generalizing current with
  | zero => exact heeds_halt
  | succ n ih =>
    refine heeds_syncSnapshot.bind fun current => heeds_ask_bind fun reply => ?_
    have hidle : Heeds agent.Fatal none (ask .sleep >>= fun _ => agent.rounds n current) :=
      (heeds_ask fun _ => not_fatal_of_private rfl).bind fun _ => ih current
    match reply with
    | .ok (some request) =>
      exact heeds_pulled.bind fun _ => heeds_syncSnapshot.bind fun current => ih current
    | .error error =>
      refine hidle.after ?_
      rintro x ⟨⟩
      exact not_not_intro ⟨⟨trivial, trivial⟩, trivial⟩
    | .ok none =>
      refine hidle.after ?_
      rintro x ⟨⟩
      exact not_not_intro ⟨⟨trivial, trivial⟩, trivial⟩

theorem heeds_run (n : ℕ) : Heeds agent.Fatal none (agent.run n) :=
  heeds_registerBackend.bind fun current => heeds_rounds n current

/-- The loop has no way to return but an error. -/
theorem rounds_not_ok (n : ℕ) (current : Snapshot) {d : List (Answered AgentOp.Answer)} {u : Unit} :
    ¬ Ended (agent.rounds n current) d (.ok u) := by
  induction n generalizing current d with
  | zero =>
    intro h
    cases h
  | succ n ih =>
    intro h
    rcases h.of_bind with ⟨e, he, -⟩ | ⟨current, -, d₂, -, -, h⟩
    · cases he
    obtain ⟨reply, d', -, h⟩ := ended_ask_bind.mp h
    match reply, h with
    | .ok (some request), h =>
      rcases h.of_bind with ⟨e, he, -⟩ | ⟨_, -, d₄, -, -, h⟩
      · cases he
      rcases h.of_bind with ⟨e, he, -⟩ | ⟨current, -, d₆, -, -, h⟩
      · cases he
      exact ih current h
    | .ok none, h =>
      obtain ⟨_, d'', -, h⟩ := ended_ask_bind.mp h
      exact ih current h
    | .error error, h =>
      obtain ⟨_, d'', -, h⟩ := ended_ask_bind.mp h
      exact ih current h

theorem run_not_ok (n : ℕ) {d : List (Answered AgentOp.Answer)} {u : Unit} :
    ¬ Ended (agent.run n) d (.ok u) := by
  intro h
  rcases h.of_bind with ⟨e, he, -⟩ | ⟨current, -, d₂, -, -, h⟩
  · cases he
  exact rounds_not_ok n current h

theorem sound_of_not_serves {x : Answered AgentOp.Answer} (h : ¬ agent.Serves x) : Sound x := by
  obtain ⟨o, y⟩ := x
  cases o <;> first | trivial | exact absurd ⟨trivial, trivial⟩ h

/-- When `run` has returned, it was over its own accounts and registration if and only if the
daemon accepted everything that was reported about a request and every request pulled could be
addressed. -/
theorem run_outlives_requests_iff {n : ℕ} {d : List (Answered AgentOp.Answer)}
    {r : Except String Unit} (h : Ended (agent.run n) d r) :
    (∃ x, d.getLast? = some x ∧ ¬ Sound x) ↔ ∀ x ∈ d, agent.Serves x := by
  cases r with
  | ok u => exact absurd h (run_not_ok n)
  | error e =>
    obtain ⟨d', x, hd, hfatal, hbefore⟩ : EndsAt agent.Fatal ([] ++ d) (.error e : Except String Unit) :=
      heeds_run n d _ h
    rw [List.nil_append] at hd
    subst hd
    constructor
    · rintro ⟨y, hlast, hsound⟩ z hz
      rw [List.getLast?_concat, Option.some.injEq] at hlast
      subst hlast
      rcases List.mem_append.mp hz with hz | hz
      · exact (not_not.mp (hbefore z hz)).1
      · rw [List.mem_singleton.mp hz]
        by_contra hserves
        exact hsound (sound_of_not_serves hserves)
    · intro hserves
      refine ⟨x, List.getLast?_concat, fun hsound => hfatal ⟨?_, hsound⟩⟩
      exact hserves x (List.mem_append_right _ (List.mem_singleton_self x))

end Loop

namespace Sample

/-- A request to create an account. -/
def creation : PulledRequest where
  requestId := ⟨"req-1", .refl false⟩
  clientRequestId := ⟨"client-1", .refl false⟩
  kind := .createAccount
  accountAddress := ""
  payloadHash := ⟨"hash-1", .refl false⟩
  displayHint := none
  clientContext := none
  resumeRequired := false
  deliveryLeaseId := some ⟨"lease-1", .refl false⟩
  leaseExpiresAt := some 0
  presentationId := none
  presentationExpiresAt := none
  rawTxnBcsHex := none
  message := none
  messageFormat := none
  outputFile := none
  force := false
  privateKeyFile := none

def presentation : PresentationId := ⟨"presentation-1", .refl false⟩

/-- The first round up to the reply to `request.reject`: the user declines to create an account. -/
def declined (reply : Except SharedError Unit) : List (Answered AgentOp.Answer) :=
  [⟨.listAccountInfos, .ok []⟩,
    ⟨.setLockState .unknown, ()⟩,
    ⟨.backendRegister (agent.registrationParams (agent.snapshotOf [])), .ok true⟩,
    ⟨.listAccountInfos, .ok []⟩,
    ⟨.setLockState .unknown, ()⟩,
    ⟨.requestPullNext wallet, .ok (some creation)⟩,
    ⟨.newPresentationId, presentation⟩,
    ⟨.requestPresented ⟨creation.requestId, wallet, creation.deliveryLeaseId, presentation⟩, .ok ()⟩,
    ⟨.pushPresentedRequest creation.requestId, ()⟩,
    ⟨.promptForCreateAccount creation (agent.snapshotOf []).capabilities, .ok ⟨false, none⟩⟩,
    ⟨.popPresentedRequest creation.requestId, ()⟩,
    ⟨.requestReject ⟨creation.requestId, wallet, some presentation, .requestRejected,
      some "User rejected the account-creation request"⟩, reply⟩]

/-- What the daemon replies once the client has cancelled the request. -/
def cancelledReply : SharedError :=
  (mapRuntimeError (.invalidStateTransition .cancelled .rejected)).error

theorem cancelled_ends : Ended (agent.run 1) (declined (.error cancelledReply))
    (.error cancelledReply.display) :=
  .op (.op (.op (.op (.op (.op (.op (.op (.op (.op (.op (.op (.fail _))))))))))))

/-- The rejection is accepted, and the accounts cannot be read afterwards. -/
def unreadable : List (Answered AgentOp.Answer) :=
  declined (.ok ()) ++ [⟨.listAccountInfos, .error "permission denied"⟩]

theorem unreadable_ends :
    Ended (agent.run 1) unreadable (.error "failed to list local accounts") :=
  .op (.op (.op (.op (.op (.op (.op (.op (.op (.op (.op (.op (.op (.fail _)))))))))))))

end Sample

theorem run_outlives_requests_iff_unreadable :
    (∃ x, Sample.unreadable.getLast? = some x ∧ ¬ Sound x) ∧
      ∀ x ∈ Sample.unreadable, Sample.agent.Serves x := by
  have hlast : ∃ x, Sample.unreadable.getLast? = some x ∧ ¬ Sound x :=
    ⟨_, rfl, fun ⟨l, hl⟩ => nomatch hl⟩
  exact ⟨hlast, (run_outlives_requests_iff Sample.unreadable_ends).mp hlast⟩

/-- The user declines a request that was cancelled while the prompt was open, and the agent
returns. -/
theorem cancelled_request_ends_run :
    ¬ ∀ (agent : LocalAccountAgent) (n : ℕ) (d : List (Answered AgentOp.Answer))
      (r : Except String Unit), Ended (agent.run n) d r → ∃ x, d.getLast? = some x ∧ ¬ Sound x := by
  intro h
  obtain ⟨x, hlast, hsound⟩ := h _ _ _ _ Sample.cancelled_ends
  cases hlast
  exact hsound trivial

end StarcoinMcp.Agent
