import StarcoinMcp.Agent.Consent
import StarcoinMcp.Agent.System

/-! Where a process of the agent stands with the request it is at work on, read off the answers it
was given: pulled, shown to the user, acted upon. The wallet is touched only while a request is
shown, and nothing but its result is sent to the daemon after that. -/

namespace StarcoinMcp.Agent

open Starmask Prog

/-! ## Phases -/

inductive Phase
  | idle
  | pulled (request : PulledRequest)
  | shown (request : PulledRequest) (presentationId : PresentationId)
  | acted (request : PulledRequest) (presentationId : PresentationId)
deriving DecidableEq

namespace Phase

/-- The daemon accepted the presentation. -/
def present (presentationId : PresentationId) : Phase → Phase
  | pulled request => shown request presentationId
  | phase => phase

/-- The wallet was changed, or a key written. -/
def act : Phase → Phase
  | shown request presentationId => acted request presentationId
  | phase => phase

/-- The account was read: when it is not found again after the effect, the request is given up. -/
def readBack (found : Except String (Option LocalAccount)) : Phase → Phase
  | acted request presentationId =>
    match found with
    | .ok (some _) => acted request presentationId
    | _ => idle
  | phase => phase

def next (phase : Phase) (x : Answered AgentOp.Answer) : Phase :=
  match x with
  | ⟨.requestPullNext _, .ok (some request)⟩ => pulled request
  | ⟨.requestPresented params, .ok ()⟩ => phase.present params.presentationId
  | ⟨.accountInfo _, found⟩ => phase.readBack found
  | ⟨.requestResolve _, _⟩ => idle
  | ⟨.requestReject _, _⟩ => idle
  | _ => if performs x then phase.act else phase

def request? : Phase → Option PulledRequest
  | idle => none
  | pulled request | shown request _ | acted request _ => some request

def isActed : Phase → Bool
  | acted .. => true
  | _ => false

end Phase

def phaseOf (told : Told) : Phase := told.foldl Phase.next .idle

@[simp] theorem phaseOf_nil : phaseOf [] = .idle := rfl

@[simp] theorem phaseOf_snoc (told : Told) (x : Answered AgentOp.Answer) :
    phaseOf (told ++ [x]) = (phaseOf told).next x := by
  unfold phaseOf
  rw [List.foldl_append]
  rfl

theorem lastPulled_snoc (told : Told) (x : Answered AgentOp.Answer) :
    lastPulled (told ++ [x]) =
      match x with
      | ⟨.requestPullNext _, .ok (some next)⟩ => some next
      | _ => lastPulled told := by
  unfold lastPulled
  rw [List.foldl_append]
  rfl

/-! ## Operations -/

/-- The operation changes the wallet, or writes a key. -/
def isEffect : AgentOp → Bool
  | .createAccount _ | .importAccount .. | .writePrivateKeyFile .. => true
  | _ => false

/-- What comes between an effect and the result that is sent. -/
def isAftermath : AgentOp → Bool
  | .accountInfo _ | .popPresentedRequest _ => true
  | _ => false

/-- The operation leaves a process where it stands, unless it is to send a result. -/
def isSteady : AgentOp → Bool
  | .createAccount _ | .importAccount .. | .writePrivateKeyFile .. | .requestPullNext _
  | .requestPresented _ | .requestResolve _ | .requestReject _ => false
  | _ => true

theorem readBack_of_not_acted {phase : Phase} {found : Except String (Option LocalAccount)}
    (h : phase.isActed = false) : phase.readBack found = phase := by
  cases phase with
  | acted request presentationId => cases h
  | _ => rfl

theorem next_of_steady {phase : Phase} {o : AgentOp} (x : o.Answer) (ho : isSteady o = true)
    (h : phase.isActed = false) : phase.next ⟨o, x⟩ = phase := by
  cases o with
  | accountInfo address => exact readBack_of_not_acted h
  | createAccount | importAccount | writePrivateKeyFile | requestPullNext | requestPresented
  | requestResolve | requestReject => cases ho
  | _ => rfl

theorem next_of_reply {phase : Phase} {o : AgentOp} (x : o.Answer) (ho : isReply o = true) :
    phase.next ⟨o, x⟩ = .idle := by
  cases o with
  | requestResolve | requestReject => rfl
  | _ => cases ho

theorem isEffect_of_performs {o : AgentOp} {x : o.Answer} (h : performs ⟨o, x⟩ = true) :
    isEffect o = true := by
  cases o with
  | createAccount | importAccount | writePrivateKeyFile => rfl
  | _ => cases h

theorem next_of_effect {phase : Phase} {o : AgentOp} (x : o.Answer) (ho : isEffect o = true) :
    phase.next ⟨o, x⟩ = if performs ⟨o, x⟩ then phase.act else phase := by
  cases o with
  | createAccount | importAccount | writePrivateKeyFile => rfl
  | _ => cases ho

/-- A phase gets its request from a pull, and keeps it. -/
theorem request_of_next {phase : Phase} {x : Answered AgentOp.Answer} {request : PulledRequest}
    (h : (phase.next x).request? = some request) :
    (∃ w, x = ⟨.requestPullNext w, .ok (some request)⟩) ∨
      (phase.request? = some request ∧ ∀ w next, x ≠ ⟨.requestPullNext w, .ok (some next)⟩) := by
  unfold Phase.next at h
  split at h
  next w pulled =>
    left
    exact ⟨w, by rw [Option.some.inj h]⟩
  next params =>
    right
    refine ⟨?_, fun w next he => by cases he⟩
    cases phase <;> exact h
  next address found =>
    right
    refine ⟨?_, fun w next he => by cases he⟩
    cases phase with
    | acted =>
      simp only [Phase.readBack] at h
      split at h
      · exact h
      · cases h
    | _ => exact h
  next => cases h
  next => cases h
  next hpull _ _ _ _ =>
    right
    refine ⟨?_, fun w next he => hpull w next he⟩
    split at h
    · cases phase <;> exact h
    · exact h

/-- The request of a phase is the last one that was pulled. -/
theorem lastPulled_of_phase {told : Told} {request : PulledRequest}
    (h : (phaseOf told).request? = some request) : lastPulled told = some request := by
  induction told using List.reverseRecOn with
  | nil => cases h
  | append_singleton told x ih =>
    rw [phaseOf_snoc] at h
    rw [lastPulled_snoc]
    rcases request_of_next h with ⟨w, rfl⟩ | ⟨hbefore, hnot⟩
    · rfl
    · split
      next w next => exact absurd rfl (hnot w next)
      next => exact ih hbefore

/-! ## What a process may ask for -/

namespace LocalAccountAgent

/-- An effect only while a request is shown; after it, only what leads to the result, and that. -/
structure Proceeds (agent : LocalAccountAgent) (told : Told) (o : AgentOp) : Prop where
  effect : isEffect o = true → ∃ request presentationId, phaseOf told = .shown request presentationId
  pull : ∀ w, o = .requestPullNext w → w = agent.walletInstanceId
  acted : ∀ request presentationId, phaseOf told = .acted request presentationId →
    isAftermath o = true ∨ ∃ result,
      o = .requestResolve (agent.resolveParams request.requestId presentationId result) ∧
        result.resultKind = request.kind.expectedResultKind

end LocalAccountAgent

section Proceeds

variable {agent : LocalAccountAgent} {request : PulledRequest} {presentationId : PresentationId}
  {told : Told}

theorem proceeds_of_not_acted {o : AgentOp} (h : (phaseOf told).isActed = false)
    (heffect : isEffect o = true → ∃ request presentationId, phaseOf told = .shown request presentationId)
    (hpull : ∀ w, o = .requestPullNext w → w = agent.walletInstanceId) : agent.Proceeds told o := by
  refine ⟨heffect, hpull, ?_⟩
  intro request presentationId hacted
  rw [hacted] at h
  cases h

theorem proceeds_of_steady {o : AgentOp} (h : (phaseOf told).isActed = false)
    (ho : isSteady o = true) : agent.Proceeds told o := by
  apply proceeds_of_not_acted h
  · intro heffect
    cases o with
    | createAccount | importAccount | writePrivateKeyFile => cases ho
    | _ => cases heffect
  · rintro w rfl
    cases ho

theorem proceeds_of_shown {o : AgentOp} (h : phaseOf told = .shown request presentationId)
    (ho : (isEffect o || isSteady o) = true) : agent.Proceeds told o := by
  apply proceeds_of_not_acted
  · rw [h]
    rfl
  · exact fun _ => ⟨request, presentationId, h⟩
  · rintro w rfl
    cases ho

theorem proceeds_of_aftermath {o : AgentOp} (ho : isAftermath o = true) : agent.Proceeds told o := by
  refine ⟨?_, ?_, fun _ _ _ => .inl ho⟩
  · intro heffect
    cases o with
    | accountInfo | popPresentedRequest => cases heffect
    | _ => cases ho
  · rintro w rfl
    cases ho

/-- A program of steady operations goes on where the process stands. -/
theorem meets_steady {ε α : Type} {p : Prog AgentOp AgentOp.Answer ε α} {phase : Phase}
    (hp : Asks isSteady p) (hphase : phase.isActed = false) (h : phaseOf told = phase) :
    Meets agent.Proceeds (fun told _ => phaseOf told = phase) told p := by
  apply hp.meets_keeping (I := fun told => phaseOf told = phase) _ _ h
  · intro told o htold ho
    apply proceeds_of_steady _ ho
    rw [htold]
    exact hphase
  · intro told o x htold ho
    rw [phaseOf_snoc, htold]
    exact next_of_steady x ho hphase

/-! ## The closures -/

theorem steady_loadSigningAccountInfo {address : AccountAddress} :
    Asks isSteady (LocalAccountAgent.loadSigningAccountInfo address) :=
  (asks_ask rfl).bind fun _ => asks_lift.bind fun _ => asks_lift.bind fun _ =>
    asks_ite asks_throw asks_pure

theorem steady_unlockAccount {address : AccountAddress} {info : LocalAccount}
    {capabilities : List WalletCapability} {password : Option String} :
    Asks isSteady (agent.unlockAccount address info capabilities password) := by
  refine asks_ite ?_ asks_pure
  exact asks_lift.bind fun _ => asks_lift.bind fun _ => (asks_ask rfl).bind fun _ => asks_lift

theorem steady_signTransaction {address : AccountAddress} :
    Asks isSteady (agent.signTransaction request address) := by
  refine asks_lift.bind fun _ => asks_lift.bind fun _ => asks_ite asks_throw ?_
  exact (asks_ask rfl).bind fun _ => asks_lift.bind fun _ => asks_lift.bind fun _ => asks_pure

theorem steady_signMessage {address : AccountAddress} :
    Asks isSteady (LocalAccountAgent.signMessage request address) :=
  asks_lift.bind fun _ => (asks_ask rfl).bind fun _ => asks_lift.bind fun _ => asks_pure

/-- How a closure ends: a result comes with the request still shown, or acted upon; after an error
nothing is left that was done for it. -/
def LeavesPhase (request : PulledRequest) (presentationId : PresentationId) (told : Told)
    (r : Except RequestRejection RequestResult) : Prop :=
  match r with
  | .ok result => (phaseOf told = .shown request presentationId ∨
      phaseOf told = .acted request presentationId) ∧
      result.resultKind = request.kind.expectedResultKind
  | .error _ => (phaseOf told).isActed = false

theorem leavesPhase_error {e : RequestRejection} (h : phaseOf told = .shown request presentationId) :
    LeavesPhase request presentationId told (.error e) := by
  unfold LeavesPhase
  rw [h]
  rfl

/-- The account is read again: what is not found is an error, and the request is given up. -/
theorem meets_storedAccount {address : AccountAddress} {loading missing : String}
    (h : phaseOf told = .acted request presentationId) :
    Meets agent.Proceeds (fun told r => match r with
      | .ok _ => phaseOf told = .acted request presentationId
      | .error _ => (phaseOf told).isActed = false) told
      (LocalAccountAgent.storedAccount address loading missing) := by
  apply meets_ask_bind (proceeds_of_aftermath rfl)
  intro found
  have hread : phaseOf (told ++ [⟨.accountInfo address, found⟩]) =
      (Phase.acted request presentationId).readBack found := by
    rw [phaseOf_snoc, h]
    rfl
  match found with
  | .error e =>
    show (phaseOf _).isActed = false
    rw [hread]
    rfl
  | .ok none =>
    show (phaseOf _).isActed = false
    rw [hread]
    rfl
  | .ok (some account) => exact hread

theorem meets_createAccount {password : String} (hkind : request.kind = .createAccount)
    (h : phaseOf told = .shown request presentationId) :
    Meets agent.Proceeds (LeavesPhase request presentationId) told (agent.createAccount password) := by
  apply meets_ite
  · intro hempty
    exact leavesPhase_error h
  intro hpassword
  apply meets_ask_bind (proceeds_of_shown h rfl)
  intro created
  cases created with
  | error e =>
    apply leavesPhase_error
    rw [phaseOf_snoc, h]
    rfl
  | ok address =>
    have hacted : phaseOf (told ++ [⟨.createAccount password, .ok address⟩]) =
        .acted request presentationId := by
      rw [phaseOf_snoc, h]
      rfl
    apply (meets_storedAccount hacted).bind
    · intro d account hd
      exact ⟨.inr hd, by rw [hkind]; rfl⟩
    · intro d e hd
      exact hd

theorem meets_importAccount {password : String} (hkind : request.kind = .importAccount)
    (h : phaseOf told = .shown request presentationId) :
    Meets agent.Proceeds (LeavesPhase request presentationId) told
      (agent.importAccount request password) := by
  apply meets_ite
  · intro hempty
    exact leavesPhase_error h
  intro hpassword
  apply meets_lift_bind _ fun e _ => leavesPhase_error h
  intro privateKeyFile _
  apply meets_ask_bind (proceeds_of_shown h rfl)
  intro data
  have hread : phaseOf (told ++ [⟨.readToString privateKeyFile, data⟩]) =
      .shown request presentationId := by
    rw [phaseOf_snoc, h]
    rfl
  apply meets_lift_bind _ fun e _ => leavesPhase_error hread
  intro privateKeyData _
  apply meets_lift_bind _ fun e _ => leavesPhase_error hread
  rintro ⟨expected, privateKey⟩ _
  apply meets_ask_bind (proceeds_of_shown hread rfl)
  intro imported
  cases imported with
  | error e =>
    apply leavesPhase_error
    rw [phaseOf_snoc, hread]
    rfl
  | ok address =>
    have hacted : phaseOf (told ++ [⟨.readToString privateKeyFile, data⟩] ++
        [⟨.importAccount expected privateKey password, .ok address⟩]) =
          .acted request presentationId := by
      rw [phaseOf_snoc, hread]
      rfl
    apply (meets_storedAccount hacted).bind
    · intro d account hd
      exact ⟨.inr hd, by rw [hkind]; rfl⟩
    · intro d e hd
      exact hd

theorem meets_exportAccount {address : AccountAddress} {password : Option String}
    (hkind : request.kind = .exportAccount) (h : phaseOf told = .shown request presentationId) :
    Meets agent.Proceeds (LeavesPhase request presentationId) told
      (agent.exportAccount request address password) := by
  apply meets_lift_bind _ fun e _ => leavesPhase_error h
  intro password _
  apply meets_lift_bind _ fun e _ => leavesPhase_error h
  intro outputFile _
  apply meets_ask_bind (proceeds_of_shown h rfl)
  intro exported
  have hread : phaseOf (told ++ [⟨.exportAccount address password, exported⟩]) =
      .shown request presentationId := by
    rw [phaseOf_snoc, h]
    rfl
  apply meets_lift_bind _ fun e _ => leavesPhase_error hread
  intro bytes _
  apply meets_ite
  · intro hempty
    exact leavesPhase_error hread
  intro hbytes
  apply meets_lift_bind _ fun e _ => leavesPhase_error hread
  intro privateKey _
  apply meets_lift_bind _ fun e _ => leavesPhase_error hread
  intro encoded _
  apply meets_ask_bind (proceeds_of_shown hread rfl)
  intro written
  cases written with
  | error rejection =>
    apply leavesPhase_error
    rw [phaseOf_snoc, hread]
    rfl
  | ok u =>
    refine ⟨.inr ?_, by rw [hkind]; rfl⟩
    rw [phaseOf_snoc, hread]
    rfl

/-- A closure that signs leaves the request shown. -/
theorem meets_signing {p : RequestProg RequestResult} (hp : Asks isSteady p)
    (hreturns : Returns (fun result => result.resultKind = request.kind.expectedResultKind) p)
    (h : phaseOf told = .shown request presentationId) :
    Meets agent.Proceeds (LeavesPhase request presentationId) told p := by
  have hsteady : Meets agent.Proceeds (fun told _ => phaseOf told = .shown request presentationId)
      told p := meets_steady hp rfl h
  apply (hsteady.returns hreturns).imp_post
  rintro d r ⟨hphase, hkind⟩
  cases r with
  | ok result => exact ⟨.inl hphase, hkind result rfl⟩
  | error e => exact leavesPhase_error hphase

theorem meets_fulfillRequest_phase {address : AccountAddress} {info : LocalAccount}
    {capabilities : List WalletCapability} {password : Option String}
    (h : phaseOf told = .shown request presentationId) :
    Meets agent.Proceeds (LeavesPhase request presentationId) told
      (agent.fulfillRequest request address info capabilities password) := by
  apply (meets_steady steady_unlockAccount rfl h).bind
  · intro d u hd
    cases hkind : request.kind with
    | signTransaction =>
      apply meets_signing steady_signTransaction _ hd
      rw [hkind]
      exact returns_signTransaction
    | signMessage =>
      apply meets_signing steady_signMessage _ hd
      rw [hkind]
      exact returns_signMessage
    | exportAccount => exact meets_exportAccount hkind hd
    | createAccount => exact leavesPhase_error hd
    | importAccount => exact leavesPhase_error hd
  · intro d e hd
    exact leavesPhase_error hd

/-! ## The handlers -/

/-- The outcome of a closure is a value, whatever the closure ended in. -/
theorem meets_outcome_returns {closure : RequestProg RequestResult}
    {Q : Told → Except String (Except RequestRejection RequestResult) → Prop}
    (h : Meets agent.Proceeds Q told (closure.outcome : AgentProg _)) :
    Meets agent.Proceeds (fun told r => Q told r ∧ ∀ e, r ≠ .error e) told
      (closure.outcome : AgentProg _) := by
  rw [meets_outcome] at *
  exact h.imp_post fun d r hr => ⟨hr, fun e he => nomatch he⟩

theorem meets_presentRequest_phase (h : phaseOf told = .pulled request) :
    Meets agent.Proceeds (fun told r => match r with
      | .ok presentationId => phaseOf told = .shown request presentationId
      | .error _ => (phaseOf told).isActed = false) told (agent.presentRequest request) := by
  have hid : Asks isSteady (LocalAccountAgent.presentationIdFor request) := by
    unfold LocalAccountAgent.presentationIdFor
    split
    · exact asks_pure
    · exact asks_ask rfl
  have hquiet : ∀ told' : Told, phaseOf told' = .pulled request → (phaseOf told').isActed = false := by
    intro told' htold
    rw [htold]
    rfl
  apply (meets_steady hid rfl h).bind
  · intro d presentationId hd
    apply meets_ask_bind
    · apply proceeds_of_not_acted (hquiet _ hd)
      · exact fun heffect => nomatch heffect
      · rintro w ⟨⟩
    intro reply
    cases reply with
    | error e =>
      apply hquiet
      rw [phaseOf_snoc, hd]
      rfl
    | ok u =>
      generalize hshown : told ++ d ++ _ = told'
      have hphase : phaseOf told' = .shown request presentationId := by
        rw [← hshown, phaseOf_snoc, hd]
        rfl
      apply meets_ask_bind (proceeds_of_shown hphase rfl)
      intro u'
      show phaseOf _ = _
      rw [phaseOf_snoc, hphase]
      rfl
  · intro d e hd
    exact hquiet _ hd

theorem meets_concludeRequest {r : Except RequestRejection RequestResult}
    (h : LeavesPhase request presentationId told r) :
    Meets agent.Proceeds (fun told _ => (phaseOf told).isActed = false) told
      (agent.concludeRequest request presentationId r) := by
  have hidle : ∀ {o : AgentOp} (x : o.Answer), isReply o = true →
      (phaseOf (told ++ [⟨o, x⟩])).isActed = false := by
    intro o x ho
    rw [phaseOf_snoc, next_of_reply x ho]
    rfl
  cases r with
  | ok result =>
    obtain ⟨hphase, hkind⟩ := h
    apply meets_ask_bind
    · refine ⟨?_, ?_, ?_⟩
      · intro heffect
        cases heffect
      · rintro w ⟨⟩
      · intro request' presentationId' hacted
        right
        rcases hphase with hphase | hphase
        · rw [hphase] at hacted
          cases hacted
        · rw [hphase] at hacted
          cases hacted
          exact ⟨result, rfl, hkind⟩
    · intro reply
      exact meets_lift.mpr (hidle reply rfl)
  | error rejection =>
    apply meets_ask_bind
    · apply proceeds_of_not_acted h
      · exact fun heffect => nomatch heffect
      · rintro w ⟨⟩
    · intro reply
      exact meets_lift.mpr (hidle reply rfl)

theorem leavesPhase_pop {r : Except RequestRejection RequestResult} {u : Unit}
    (h : LeavesPhase request presentationId told r) :
    LeavesPhase request presentationId (told ++ [⟨.popPresentedRequest request.requestId, u⟩]) r := by
  unfold LeavesPhase at *
  rw [phaseOf_snoc]
  exact h

theorem meets_withPresentation_phase {closure : RequestProg RequestResult}
    (h : phaseOf told = .pulled request)
    (hclosure : ∀ presentationId told, phaseOf told = .shown request presentationId →
      Meets agent.Proceeds (LeavesPhase request presentationId) told closure) :
    Meets agent.Proceeds (fun told _ => (phaseOf told).isActed = false) told
      (agent.withPresentation request closure) := by
  apply (meets_presentRequest_phase h).bind
  · intro d presentationId hshown
    have houtcome : Meets agent.Proceeds (fun told r => ∀ outcome, r = .ok outcome →
        LeavesPhase request presentationId told outcome) (told ++ d)
        (closure.outcome : AgentProg (Except RequestRejection RequestResult)) := by
      apply meets_outcome.mpr
      apply (hclosure presentationId _ hshown).imp_post
      intro d' r hr outcome heq
      cases heq
      exact hr
    apply (meets_outcome_returns houtcome).bind
    · rintro d' r ⟨hleaves, -⟩
      apply meets_ask_bind (proceeds_of_aftermath rfl)
      intro u
      exact meets_concludeRequest (leavesPhase_pop (hleaves r rfl))
    · rintro d' e ⟨-, he⟩
      exact absurd rfl (he e)
  · intro d e hd
    exact hd

theorem meets_approvedWithPassword_phase {approval : PromptApproval} {rejected missing : String}
    {act : String → RequestProg RequestResult} (h : phaseOf told = .shown request presentationId)
    (hact : ∀ password, Meets agent.Proceeds (LeavesPhase request presentationId) told (act password)) :
    Meets agent.Proceeds (LeavesPhase request presentationId) told
      (LocalAccountAgent.approvedWithPassword approval rejected missing act) := by
  apply meets_ite
  · intro hrejected
    exact leavesPhase_error h
  · intro happroved
    apply meets_lift_bind _ fun e _ => leavesPhase_error h
    intro password _
    exact hact password

/-- The question to the user leaves the request shown. -/
theorem meets_prompt_phase {o : AgentOp} {f : o.Answer → RequestProg RequestResult}
    (ho : isSteady o = true) (h : phaseOf told = .shown request presentationId)
    (hf : ∀ x told, phaseOf told = .shown request presentationId →
      Meets agent.Proceeds (LeavesPhase request presentationId) told (f x)) :
    Meets agent.Proceeds (LeavesPhase request presentationId) told (ask o >>= f) := by
  have hquiet : (Phase.shown request presentationId).isActed = false := rfl
  apply meets_ask_bind
  · apply proceeds_of_shown h
    rw [ho, Bool.or_true]
  · intro x
    apply hf
    rw [phaseOf_snoc, h, next_of_steady x ho hquiet]

theorem meets_handleCreateAccountRequest {snapshot : Snapshot} (hkind : request.kind = .createAccount)
    (h : phaseOf told = .pulled request) :
    Meets agent.Proceeds (fun told _ => (phaseOf told).isActed = false) told
      (agent.handleCreateAccountRequest request snapshot) := by
  apply meets_withPresentation_phase h
  intro presentationId told hshown
  apply meets_prompt_phase rfl hshown
  intro x told hshown
  apply meets_lift_bind _ fun e _ => leavesPhase_error hshown
  intro approval _
  apply meets_approvedWithPassword_phase hshown
  intro password
  exact meets_createAccount hkind hshown

theorem meets_handleImportAccountRequest {snapshot : Snapshot} (hkind : request.kind = .importAccount)
    (h : phaseOf told = .pulled request) :
    Meets agent.Proceeds (fun told _ => (phaseOf told).isActed = false) told
      (agent.handleImportAccountRequest request snapshot) := by
  apply meets_withPresentation_phase h
  intro presentationId told hshown
  apply meets_prompt_phase rfl hshown
  intro x told hshown
  apply meets_lift_bind _ fun e _ => leavesPhase_error hshown
  intro approval _
  apply meets_approvedWithPassword_phase hshown
  intro password
  exact meets_importAccount hkind hshown

theorem meets_signingClosure_phase {snapshot : Snapshot} {address : AccountAddress} {info : LocalAccount}
    (h : phaseOf told = .shown request presentationId) :
    Meets agent.Proceeds (LeavesPhase request presentationId) told
      (agent.signingClosure request snapshot address info) := by
  apply meets_prompt_phase rfl h
  intro x told hshown
  apply meets_lift_bind _ fun e _ => leavesPhase_error hshown
  intro approval _
  apply meets_ite
  · intro happroved
    apply (meets_steady steady_loadSigningAccountInfo rfl hshown).bind
    · intro d info' hd
      exact meets_fulfillRequest_phase hd
    · intro d e hd
      exact leavesPhase_error hd
  · intro hrejected
    exact leavesPhase_error hshown

theorem meets_handleSigningRequest_phase {snapshot : Snapshot} (h : phaseOf told = .pulled request) :
    Meets agent.Proceeds (fun told _ => (phaseOf told).isActed = false) told
      (agent.handleSigningRequest request snapshot) := by
  have hquiet : ∀ {told' : Told}, phaseOf told' = .pulled request → (phaseOf told').isActed = false := by
    intro told' htold
    rw [htold]
    rfl
  apply meets_lift_bind _ fun e _ => hquiet h
  intro address _
  have hload : Meets agent.Proceeds (fun told _ => phaseOf told = .pulled request) told
      ((LocalAccountAgent.loadSigningAccountInfo address).outcome :
        AgentProg (Except RequestRejection LocalAccount)) :=
    meets_outcome.mpr (meets_steady steady_loadSigningAccountInfo rfl h)
  apply hload.bind
  · intro d info hd
    cases info with
    | error rejection =>
      apply meets_ask_bind
      · apply proceeds_of_not_acted (hquiet hd)
        · exact fun heffect => nomatch heffect
        · rintro w ⟨⟩
      · intro reply
        apply meets_lift.mpr
        rw [phaseOf_snoc]
        rfl
    | ok info =>
      apply meets_withPresentation_phase hd
      intro presentationId told hshown
      exact meets_signingClosure_phase hshown
  · intro d e hd
    exact hquiet hd

theorem meets_handleRequest_phase {snapshot : Snapshot} (h : phaseOf told = .pulled request) :
    Meets agent.Proceeds (fun told _ => (phaseOf told).isActed = false) told
      (agent.handleRequest request snapshot) := by
  unfold LocalAccountAgent.handleRequest
  cases hkind : request.kind with
  | createAccount => exact meets_handleCreateAccountRequest hkind h
  | importAccount => exact meets_handleImportAccountRequest hkind h
  | signTransaction | signMessage | exportAccount => exact meets_handleSigningRequest_phase h

/-! ## The main loop -/

theorem steady_snapshot : Asks isSteady agent.snapshot :=
  (asks_ask rfl).bind fun _ => asks_lift.bind fun _ => (asks_ask rfl).bind fun _ => asks_pure

theorem steady_registerBackend : Asks isSteady agent.registerBackend :=
  steady_snapshot.bind fun _ => (asks_ask rfl).bind fun _ => asks_lift.bind fun _ =>
    asks_ite asks_throw asks_pure

theorem steady_syncSnapshot {current : Snapshot} : Asks isSteady (agent.syncSnapshot current) :=
  steady_snapshot.bind fun _ => asks_ite asks_pure ((asks_ask rfl).bind fun _ =>
    asks_lift.bind fun _ => asks_pure)

/-- Steady work before or between requests. -/
theorem meets_between {α : Type} {p : AgentProg α} (hp : Asks isSteady p)
    (h : (phaseOf told).isActed = false) :
    Meets agent.Proceeds (fun told _ => (phaseOf told).isActed = false) told p := by
  apply (meets_steady hp h rfl).imp_post
  intro d r hd
  rw [hd]
  exact h

theorem meets_rounds_phase (n : ℕ) : ∀ {current : Snapshot} {told : Told},
    (phaseOf told).isActed = false →
      Meets agent.Proceeds (fun told _ => (phaseOf told).isActed = false) told
        (agent.rounds n current) := by
  induction n with
  | zero => exact fun _ => trivial
  | succ n ih =>
    intro current told h
    apply (meets_between steady_syncSnapshot h).bind _ fun d e hd => hd
    intro d current hd
    apply meets_ask_bind
    · apply proceeds_of_not_acted hd
      · exact fun heffect => nomatch heffect
      · rintro w ⟨⟩
        rfl
    intro pulled
    have hsleep : (phaseOf (told ++ d ++ [⟨.requestPullNext agent.walletInstanceId, pulled⟩])).isActed =
        false → Meets agent.Proceeds (fun told _ => (phaseOf told).isActed = false)
          (told ++ d ++ [⟨.requestPullNext agent.walletInstanceId, pulled⟩])
          (ask .sleep >>= fun _ => agent.rounds n current) := by
      intro hquiet
      apply meets_ask_bind (proceeds_of_steady hquiet rfl)
      intro u
      apply ih
      rw [phaseOf_snoc]
      exact hquiet
    match pulled with
    | .error e =>
      apply hsleep
      rw [phaseOf_snoc]
      exact hd
    | .ok none =>
      apply hsleep
      rw [phaseOf_snoc]
      exact hd
    | .ok (some request) =>
      have hpulled : phaseOf (told ++ d ++
          [⟨.requestPullNext agent.walletInstanceId, .ok (some request)⟩]) = .pulled request := by
        rw [phaseOf_snoc]
        rfl
      apply (meets_handleRequest_phase hpulled).bind _ fun d e hd => hd
      intro d' _ hd'
      apply (meets_between steady_syncSnapshot hd').bind _ fun d e hd => hd
      intro d'' current hd''
      exact ih hd''

theorem meets_run_phase (agent : LocalAccountAgent) (n : ℕ) :
    Meets agent.Proceeds (fun told _ => (phaseOf told).isActed = false) [] (agent.run n) := by
  apply (meets_between steady_registerBackend rfl).bind _ fun d e hd => hd
  intro d current hd
  exact meets_rounds_phase n hd

end Proceeds

end StarcoinMcp.Agent
