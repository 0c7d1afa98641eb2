import StarcoinMcp.Starmask.StoreLemmas

/-! Everything one command can do to one stored request. `Edit` lists the ways, each
with the guards that were passed and the record it leaves; `Creation` is the only
way a new row appears. All invariants of runs are read off these two. -/

namespace StarcoinMcp.Starmask

open Coordinator

/-- The wallet and the request ids of a heartbeat, whichever of the two commands carries it. -/
def CoordinatorCommand.heartbeat? : CoordinatorCommand → Option (WalletInstanceId × List RequestId)
  | .heartbeatExtension h => some (h.walletInstanceId, h.presentedRequestIds)
  | .heartbeatBackend h => some (h.walletInstanceId, h.presentedRequestIds)
  | _ => none

/-- The arguments of `create_request`, for the five commands that reach it. -/
def CoordinatorCommand.createArgs : CoordinatorCommand → Option CreateRequestArgs
  | .createAccount command => some (createAccountArgs command)
  | .createExportAccount command => some (exportAccountArgs command)
  | .createImportAccount command => some (importAccountArgs command)
  | .createSignTransaction command => some (signTransactionArgs command)
  | .createSignMessage command => some (signMessageArgs command)
  | _ => none

def RequestRecord.claimed (r : RequestRecord) (lease : DeliveryLease) (now : TimestampMs) : RequestRecord :=
  { r with status := .dispatched, updatedAt := now, deliveryLease := some lease }

def RequestRecord.extended (r : RequestRecord) (p : PresentationLease) (expiresAt now : TimestampMs) :
    RequestRecord :=
  { r with presentation := some { p with presentationExpiresAt := expiresAt }, updatedAt := now }

def RequestRecord.presented (r : RequestRecord) (p : PresentationLease) (now : TimestampMs) :
    RequestRecord :=
  { r with status := .pendingUserApproval, updatedAt := now, presentation := some p, deliveryLease := none }

def RequestRecord.resolved (r : RequestRecord) (result : RequestResult) (now : TimestampMs)
    (resultExpiresAt : Option TimestampMs) : RequestRecord :=
  { r with
    status := .approved
    updatedAt := now
    approvedAt := some now
    resultExpiresAt := resultExpiresAt
    result := some result
    lastErrorCode := none
    lastErrorMessage := none
    rejectReasonCode := none
    deliveryLease := none
    presentation := none }

def RequestRecord.rejected (r : RequestRecord) (command : RejectRequestCommand) (now : TimestampMs) :
    RequestRecord :=
  { r with
    status := (mapRejectReason command.reasonCode).1
    updatedAt := now
    approvedAt := none
    rejectedAt := if (mapRejectReason command.reasonCode).1 = .rejected then some now else none
    failedAt := if (mapRejectReason command.reasonCode).1 = .failed then some now else none
    rejectReasonCode := some command.reasonCode
    lastErrorCode := some (mapRejectReason command.reasonCode).2.1
    lastErrorMessage := some (command.message.getD (mapRejectReason command.reasonCode).2.2)
    deliveryLease := none
    presentation := none }

def RequestRecord.cancelled (r : RequestRecord) (now later : TimestampMs) : RequestRecord :=
  { r with
    status := .cancelled
    updatedAt := now
    cancelledAt := some later
    lastErrorCode := some .requestCancelled
    lastErrorMessage := some "Request cancelled by caller"
    deliveryLease := none
    presentation := none }

def RequestRecord.expired (r : RequestRecord) (now : TimestampMs) : RequestRecord :=
  { r with
    status := .expired
    updatedAt := now
    lastErrorCode := some .requestExpired
    lastErrorMessage := some "Request reached its TTL"
    deliveryLease := none
    presentation := none }

def RequestRecord.released (r : RequestRecord) (now : TimestampMs) : RequestRecord :=
  { r with status := .created, updatedAt := now, deliveryLease := none, presentation := none }

def RequestRecord.evicted (r : RequestRecord) : RequestRecord :=
  { r with result := none, resultExpiresAt := none }

inductive Edit (c : Coordinator) (env : Env) (s : Store) :
    CoordinatorCommand → CoreResult CoordinatorResponse → RequestRecord → RequestRecord → Prop
  | claim {w : WalletInstanceId} {r : RequestRecord} {lease : DeliveryLease}
      (hregistered : s.getWalletInstance w ≠ none)
      (hresume : findResumableRequest env w s = none)
      (hnext : s.nextCreatedRequest env.requestScan w = some r)
      (hwallet : r.walletInstanceId = w) (hstatus : r.status = .created)
      (hlease : env.newDeliveryLeaseId = .ok lease.deliveryLeaseId)
      (hexpires : checkedAddSeconds (env.now 2) c.config.deliveryLeaseTtl =
        some lease.deliveryLeaseExpiresAt) :
      Edit c env s (.pullNextRequest w)
        (.ok (.pullNextRequest ⟨w, some (projectPulledRequest (r.claimed lease (env.now 0)) false)⟩))
        r (r.claimed lease (env.now 0))
  | resume {w : WalletInstanceId} {r : RequestRecord} {p : PresentationLease} {t : TimestampMs}
      (hregistered : s.getWalletInstance w ≠ none)
      (hfind : findResumableRequest env w s = some r)
      (hwallet : r.walletInstanceId = w) (hstatus : r.status = .pendingUserApproval)
      (hp : r.presentation = some p) (hlive : env.now 1 < p.presentationExpiresAt)
      (hexpires : checkedAddSeconds (env.now 0) c.config.presentationLeaseTtl = some t) :
      Edit c env s (.pullNextRequest w)
        (.ok (.pullNextRequest ⟨w, some (projectPulledRequest (r.extended p t (env.now 0)) true)⟩))
        r (r.extended p t (env.now 0))
  | present {command : MarkRequestPresentedCommand} {r : RequestRecord} {lease : DeliveryLease}
      {t : TimestampMs} (hid : r.requestId = command.requestId)
      (hwallet : r.walletInstanceId = command.walletInstanceId) (hstatus : r.status = .dispatched)
      (hlease : r.deliveryLease = some lease)
      (hmatch : command.deliveryLeaseId = some lease.deliveryLeaseId)
      (hlive : env.now 0 < lease.deliveryLeaseExpiresAt)
      (hexpires : checkedAddSeconds (env.now 0) c.config.presentationLeaseTtl = some t) :
      Edit c env s (.markRequestPresented command)
        (.ok (.requestPresented ⟨r.requestId, .pendingUserApproval⟩))
        r (r.presented ⟨command.presentationId, t⟩ (env.now 0))
  | represent {command : MarkRequestPresentedCommand} {r : RequestRecord} {p : PresentationLease}
      {t : TimestampMs} (hid : r.requestId = command.requestId)
      (hwallet : r.walletInstanceId = command.walletInstanceId)
      (hstatus : r.status = .pendingUserApproval) (hp : r.presentation = some p)
      (hnone : command.deliveryLeaseId = none) (hmatch : p.presentationId = command.presentationId)
      (hlive : env.now 0 < p.presentationExpiresAt)
      (hexpires : checkedAddSeconds (env.now 0) c.config.presentationLeaseTtl = some t) :
      Edit c env s (.markRequestPresented command)
        (.ok (.requestPresented ⟨r.requestId, .pendingUserApproval⟩))
        r (r.extended p t (env.now 0))
  | heartbeat {command : CoordinatorCommand} {w : WalletInstanceId} {ids : List RequestId}
      {r : RequestRecord} {p : PresentationLease} {t : TimestampMs}
      (hcommand : command.heartbeat? = some (w, ids))
      (hregistered : s.getWalletInstance w ≠ none) (hid : r.requestId ∈ ids)
      (hwallet : r.walletInstanceId = w) (hstatus : r.status = .pendingUserApproval)
      (hp : r.presentation = some p)
      (hexpires : checkedAddSeconds (env.now 0) c.config.presentationLeaseTtl = some t) :
      Edit c env s command (.ok .ack) r (r.extended p t (env.now 0))
  | resolve {command : ResolveRequestCommand} {r : RequestRecord} {p : PresentationLease}
      (hid : r.requestId = command.requestId)
      (hwallet : r.walletInstanceId = command.walletInstanceId)
      (hstatus : r.status = .pendingUserApproval) (hp : r.presentation = some p)
      (hmatch : p.presentationId = command.presentationId)
      (hlive : env.now 0 < p.presentationExpiresAt)
      (hkind : r.kind.expectedResultKind = command.result.resultKind) :
      Edit c env s (.resolveRequest command)
        (.ok (.requestResolved ⟨r.requestId, .approved, command.result.resultKind,
          checkedAddSeconds (env.now 0) c.config.resultRetention⟩))
        r (r.resolved command.result (env.now 0)
          (checkedAddSeconds (env.now 0) c.config.resultRetention))
  | reject {command : RejectRequestCommand} {r : RequestRecord}
      (hid : r.requestId = command.requestId)
      (hwallet : r.walletInstanceId = command.walletInstanceId)
      (hcheck : validateReject env command r = .ok ())
      (hedge : r.status.canTransitionTo (mapRejectReason command.reasonCode).1 = true) :
      Edit c env s (.rejectRequest command)
        (.ok (.requestRejected ⟨r.requestId, (mapRejectReason command.reasonCode).1,
          (mapRejectReason command.reasonCode).2.1⟩))
        r (r.rejected command (env.now 0))
  | cancel {r : RequestRecord} (hlive : r.status.isTerminal = false) :
      Edit c env s (.cancelRequest r.requestId)
        (.ok (.requestCancelled ⟨r.requestId, .cancelled, some .requestCancelled⟩))
        r (r.cancelled (env.now 0) (env.now 1))
  | expire {r : RequestRecord} {reply : CoreResult CoordinatorResponse}
      (hlive : r.status.isTerminal = false) (hdue : r.expiresAt ≤ env.now 0) :
      Edit c env s .tickMaintenance reply r (r.expired (env.now 0))
  | release {r : RequestRecord} {reply : CoreResult CoordinatorResponse}
      (hlive : env.now 0 < r.expiresAt)
      (hdue : deliveryLeaseExpired (env.now 0) r = true ∨ presentationExpired (env.now 0) r = true) :
      Edit c env s .tickMaintenance reply r (r.released (env.now 0))
  | evict {r : RequestRecord} {t : TimestampMs} {reply : CoreResult CoordinatorResponse}
      (hstatus : r.status = .approved) (hresult : r.result.isSome = true)
      (hexpires : r.resultExpiresAt = some t) (hdue : t ≤ env.now 0) :
      Edit c env s .tickMaintenance reply r r.evicted

/-- A create command that found its client request id free and stored a new row. -/
structure Creation (c : Coordinator) (env : Env) (s : Store) (command : CoordinatorCommand)
    (reply : CoreResult CoordinatorResponse) (args : CreateRequestArgs) (r : RequestRecord) : Prop where
  command_args : command.createArgs = some args
  fresh : s.getRequestByClientRequestId args.clientRequestId = none
  routed : resolveWalletForRequest args.kind args.accountAddress args.walletInstanceId s =
    .ok r.walletInstanceId
  record : r = newRequest args (calculatePayloadHash c.sha256 args.payload) r.requestId
    r.walletInstanceId (env.now 0) r.expiresAt
  expires : checkedAddSeconds (env.now 0) (c.clampTtl args.ttlSeconds) = some r.expiresAt
  reply_eq : reply = .ok (.requestCreated (projectRequestSummary r))

/-- What one command makes of the row under one request id. -/
inductive Change (c : Coordinator) (env : Env) (s : Store) (command : CoordinatorCommand)
    (reply : CoreResult CoordinatorResponse) : Option RequestRecord → Option RequestRecord → Prop
  | same (x : Option RequestRecord) : Change c env s command reply x x
  | creation {args : CreateRequestArgs} {r : RequestRecord} (h : Creation c env s command reply args r) :
      Change c env s command reply none (some r)
  | edit {r r' : RequestRecord} (h : Edit c env s command reply r r') :
      Change c env s command reply (some r) (some r')

/-! ## The fields no command touches -/

/-- The fields that are fixed when a request is created. -/
def RequestRecord.identity (r : RequestRecord) :=
  (r.requestId, r.clientRequestId, r.kind, r.walletInstanceId, r.accountAddress, r.payload,
    r.payloadHash, r.createdAt, r.expiresAt)

theorem Edit.identity_eq {c : Coordinator} {env : Env} {s : Store} {command : CoordinatorCommand}
    {reply : CoreResult CoordinatorResponse} {r r' : RequestRecord}
    (h : Edit c env s command reply r r') : r'.identity = r.identity := by
  cases h <;> rfl

theorem requestId_of_identity {r r' : RequestRecord} (h : r'.identity = r.identity) :
    r'.requestId = r.requestId := congrArg (·.1) h

theorem clientRequestId_of_identity {r r' : RequestRecord} (h : r'.identity = r.identity) :
    r'.clientRequestId = r.clientRequestId := congrArg (·.2.1) h

theorem walletInstanceId_of_identity {r r' : RequestRecord} (h : r'.identity = r.identity) :
    r'.walletInstanceId = r.walletInstanceId := congrArg (·.2.2.2.1) h

/-! ## The record each method computes -/

theorem transitionRequest_ok {r r' : RequestRecord} {next : RequestStatus} {now : TimestampMs}
    (hne : r.status ≠ next) (h : transitionRequest r next now = .ok r') :
    r.status.canTransitionTo next = true ∧ r' = { r with status := next, updatedAt := now } := by
  unfold transitionRequest at h
  rw [if_neg hne] at h
  split_ifs at h with hcan
  cases h
  exact ⟨by simpa using hcan, rfl⟩

theorem transitionRequest_of_edge {r : RequestRecord} {next : RequestStatus} (now : TimestampMs)
    (h : r.status.canTransitionTo next = true) :
    transitionRequest r next now = .ok { r with status := next, updatedAt := now } := by
  have hne : r.status ≠ next := by
    intro e
    rw [e] at h
    revert h
    cases next <;> decide
  simp [transitionRequest, hne, h]

theorem addLease_ok {now t : TimestampMs} {ttl : DurationSeconds} {m : String}
    (h : addLease now ttl m = .ok t) : checkedAddSeconds now ttl = some t := by
  unfold addLease at h
  split at h
  · rename_i t' ht'
    cases h
    exact ht'
  · cases h

theorem addLease_error {now : TimestampMs} {ttl : DurationSeconds} {m : String} {e : CoreError}
    (h : addLease now ttl m = .error e) : checkedAddSeconds now ttl = none := by
  unfold addLease at h
  split at h
  · cases h
  · assumption

theorem validateDeliveryLease_ok {r : RequestRecord} {id : DeliveryLeaseId} {now : TimestampMs}
    {u : Unit} (h : validateDeliveryLease r id now = .ok u) :
    ∃ lease, r.deliveryLease = some lease ∧ lease.deliveryLeaseId = id ∧
      now < lease.deliveryLeaseExpiresAt := by
  unfold validateDeliveryLease at h
  split at h
  · cases h
  · rename_i lease hlease
    split_ifs at h with hid hexp
    exact ⟨lease, hlease, not_not.mp hid, not_le.mp hexp⟩

theorem validateDeliveryLease_of_live {r : RequestRecord} {lease : DeliveryLease} {now : TimestampMs}
    (hlease : r.deliveryLease = some lease) (hlive : now < lease.deliveryLeaseExpiresAt) :
    validateDeliveryLease r lease.deliveryLeaseId now = .ok () := by
  unfold validateDeliveryLease
  rw [hlease]
  simp [not_le.mpr hlive]

theorem validatePresentation_of_live {r : RequestRecord} {p : PresentationLease} {now : TimestampMs}
    (hstatus : r.status = .pendingUserApproval) (hp : r.presentation = some p)
    (hlive : now < p.presentationExpiresAt) : validatePresentation r p.presentationId now = .ok () := by
  unfold validatePresentation
  rw [hp]
  simp [hstatus, not_le.mpr hlive]

theorem validatePresentation_ok {r : RequestRecord} {id : PresentationId} {now : TimestampMs}
    {u : Unit} (h : validatePresentation r id now = .ok u) :
    r.status = .pendingUserApproval ∧ ∃ p, r.presentation = some p ∧ p.presentationId = id ∧
      now < p.presentationExpiresAt := by
  unfold validatePresentation at h
  split_ifs at h with hstatus
  split at h
  · cases h
  · rename_i p hp
    split_ifs at h with hid hexp
    exact ⟨not_not.mp hstatus, p, hp, not_not.mp hid, not_le.mp hexp⟩

theorem resumedRecord_ok {c : Coordinator} {env : Env} {r r' : RequestRecord} {p : PresentationLease}
    (hp : r.presentation = some p) (h : c.resumedRecord env r = .ok r') :
    ∃ t, checkedAddSeconds (env.now 0) c.config.presentationLeaseTtl = some t ∧
      r' = r.extended p t (env.now 0) := by
  unfold resumedRecord at h
  rw [hp] at h
  obtain ⟨t, ht, hr⟩ := bind_eq_ok h
  exact ⟨t, addLease_ok ht, (Except.ok.inj hr).symm⟩

section Records

variable {c : Coordinator} {env : Env} {s : Store} {r r' : RequestRecord}

theorem edit_of_presentedRecord {command : MarkRequestPresentedCommand}
    (hid : r.requestId = command.requestId) (hwallet : r.walletInstanceId = command.walletInstanceId)
    (h : c.presentedRecord env command r = .ok r') :
    Edit c env s (.markRequestPresented command)
      (.ok (.requestPresented ⟨r'.requestId, r'.status⟩)) r r' := by
  unfold presentedRecord at h
  split at h
  · rename_i hstatus
    split at h
    · cases h
    · rename_i lid hlid
      obtain ⟨u, hv, h₁⟩ := bind_eq_ok h
      obtain ⟨r₁, ht, h₂⟩ := bind_eq_ok h₁
      obtain ⟨t, hadd, h₃⟩ := bind_eq_ok h₂
      obtain ⟨lease, hlease, hmatch, hlive⟩ := validateDeliveryLease_ok hv
      obtain ⟨hedge, rfl⟩ := transitionRequest_ok (by rw [hstatus]; decide) ht
      obtain rfl := Except.ok.inj h₃
      exact .present hid hwallet hstatus hlease (by rw [hlid, hmatch]) hlive (addLease_ok hadd)
  · split_ifs at h with hsome
    obtain ⟨u, hv, h₁⟩ := bind_eq_ok h
    obtain ⟨hstatus, p, hp, hmatch, hlive⟩ := validatePresentation_ok hv
    obtain ⟨t, ht, rfl⟩ := resumedRecord_ok hp h₁
    have hreply : (r.extended p t (env.now 0)).status = .pendingUserApproval := hstatus
    rw [hreply]
    exact .represent hid hwallet hstatus hp (by simpa using hsome) hmatch hlive ht
  · cases h

theorem edit_of_resolvedRecord {command : ResolveRequestCommand}
    (hid : r.requestId = command.requestId) (hwallet : r.walletInstanceId = command.walletInstanceId)
    (h : c.resolvedRecord env command r = .ok r') :
    Edit c env s (.resolveRequest command)
      (.ok (.requestResolved ⟨r'.requestId, r'.status, command.result.resultKind,
        r'.resultExpiresAt⟩)) r r' := by
  obtain ⟨u, hresult, h₁⟩ := bind_eq_ok h
  obtain ⟨u', hv, h₂⟩ := bind_eq_ok h₁
  obtain ⟨r₁, ht, h₃⟩ := bind_eq_ok h₂
  obtain ⟨hstatus, p, hp, hmatch, hlive⟩ := validatePresentation_ok hv
  obtain ⟨hedge, rfl⟩ := transitionRequest_ok (by rw [hstatus]; decide) ht
  have hkind : r.kind.expectedResultKind = command.result.resultKind := by
    unfold validateRequestResult at hresult
    split_ifs at hresult with hk
    exact not_not.mp hk
  obtain rfl := Except.ok.inj h₃
  exact .resolve hid hwallet hstatus hp hmatch hlive hkind

theorem validateReject_status {command : RejectRequestCommand} {u : Unit}
    (h : validateReject env command r = .ok u) :
    r.status = .pendingUserApproval ∨ r.status = .dispatched := by
  unfold validateReject at h
  split at h
  · rename_i hstatus
    exact .inl hstatus
  · rename_i hstatus
    exact .inr hstatus
  · cases h

theorem edit_of_rejectedRecord {command : RejectRequestCommand}
    (hid : r.requestId = command.requestId) (hwallet : r.walletInstanceId = command.walletInstanceId)
    (h : rejectedRecord env command r = .ok r') :
    Edit c env s (.rejectRequest command)
      (.ok (.requestRejected ⟨r'.requestId, r'.status, (mapRejectReason command.reasonCode).2.1⟩))
        r r' := by
  obtain ⟨u, hcheck, h₁⟩ := bind_eq_ok h
  obtain ⟨r₁, ht, h₂⟩ := bind_eq_ok h₁
  have hne : r.status ≠ (mapRejectReason command.reasonCode).1 := by
    rcases validateReject_status hcheck with hs | hs <;> rw [hs] <;>
      cases command.reasonCode <;> decide
  obtain ⟨hedge, rfl⟩ := transitionRequest_ok hne ht
  obtain rfl := Except.ok.inj h₂
  exact .reject hid hwallet hcheck hedge

theorem canTransitionTo_cancelled {a : RequestStatus} (h : a.isTerminal = false) :
    a.canTransitionTo .cancelled = true := by
  cases a <;> first | rfl | exact absurd h (by decide)

theorem canTransitionTo_expired {a : RequestStatus} (h : a.isTerminal = false) :
    a.canTransitionTo .expired = true := by
  cases a <;> first | rfl | exact absurd h (by decide)

theorem cancelledRecord_eq (hlive : r.status.isTerminal = false) :
    cancelledRecord env r = .ok (r.cancelled (env.now 0) (env.now 1)) := by
  unfold cancelledRecord
  rw [transitionRequest_of_edge _ (canTransitionTo_cancelled hlive)]
  rfl

theorem expiredRecord_eq {now : TimestampMs} (hlive : r.status.isTerminal = false) :
    expiredRecord now r = .ok (r.expired now) := by
  unfold expiredRecord
  rw [transitionRequest_of_edge _ (canTransitionTo_expired hlive)]
  rfl

theorem releasedRecord_eq {now : TimestampMs}
    (h : r.status = .dispatched ∨ r.status = .pendingUserApproval) :
    releasedRecord now r = .ok (r.released now) := by
  have hedge : r.status.canTransitionTo .created = true := by
    rcases h with h | h <;> rw [h] <;> rfl
  unfold releasedRecord
  rw [transitionRequest_of_edge _ hedge]
  rfl

end Records

end StarcoinMcp.Starmask
