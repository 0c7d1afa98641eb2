import StarcoinMcp.Lib.Trace
import StarcoinMcp.Starmask.Dispatch

/-! Runs of the coordinator. Every reachable request record is well formed; no request
is ever lost, its identity never changes, its status moves along the edges of the
lifecycle, and a terminal record only ever loses its retained result. -/

namespace StarcoinMcp.Starmask

/-- One call of `dispatch`, with the surroundings it ran in. -/
structure Step where
  env : Env
  command : CoordinatorCommand

namespace Coordinator

def step (c : Coordinator) (s : Store) (x : Step) : Store := (c.dispatch x.env x.command s).2

def reply (c : Coordinator) (s : Store) (x : Step) : CoreResult CoordinatorResponse :=
  (c.dispatch x.env x.command s).1

/-- The store after the commands `steps`, from an empty one. -/
def run (c : Coordinator) (steps : List Step) : Store := Trace.run c.step Store.empty steps

theorem run_snoc (c : Coordinator) (steps : List Step) (x : Step) :
    c.run (steps ++ [x]) = c.step (c.run steps) x := Trace.run_snoc

end Coordinator

/-! ## Well-formed records -/

structure RequestRecord.WellFormed (r : RequestRecord) : Prop where
  created : r.status = .created → r.deliveryLease = none ∧ r.presentation = none
  dispatched : r.status = .dispatched → r.deliveryLease.isSome = true ∧ r.presentation = none
  pendingUserApproval :
    r.status = .pendingUserApproval → r.deliveryLease = none ∧ r.presentation.isSome = true
  terminal : r.status.isTerminal = true → r.deliveryLease = none ∧ r.presentation = none
  result : ∀ x, r.result = some x →
    r.status = .approved ∧ x.resultKind = r.kind.expectedResultKind
  resultExpiresAt : r.resultExpiresAt.isSome = true → r.result.isSome = true
  approvedAt : r.approvedAt.isSome = true ↔ r.status = .approved
  rejectedAt : r.rejectedAt.isSome = true ↔ r.status = .rejected
  cancelledAt : r.cancelledAt.isSome = true ↔ r.status = .cancelled
  failedAt : r.failedAt.isSome = true ↔ r.status = .failed
  rejectReasonCode : r.rejectReasonCode.isSome = true →
    r.status = .rejected ∨ r.status = .failed ∨ r.status = .expired
  payload : r.payload.kind = r.kind

/-- The outcome fields of a record that is not terminal are all empty. -/
structure RequestRecord.Undecided (r : RequestRecord) : Prop where
  result : r.result = none
  resultExpiresAt : r.resultExpiresAt = none
  approvedAt : r.approvedAt = none
  rejectedAt : r.rejectedAt = none
  cancelledAt : r.cancelledAt = none
  failedAt : r.failedAt = none
  rejectReasonCode : r.rejectReasonCode = none

section WellFormed

variable {r r' : RequestRecord}

theorem eq_none_of_not_isSome {α : Type} {x : Option α} (h : x.isSome = true → False) : x = none :=
  Option.not_isSome_iff_eq_none.mp h

theorem RequestRecord.WellFormed.undecided (h : r.WellFormed) (hlive : r.status.isTerminal = false) :
    r.Undecided := by
  have hne : ∀ a : RequestStatus, a.isTerminal = true → r.status ≠ a := by
    intro a ha he
    rw [he, ha] at hlive
    cases hlive
  have hresult : r.result = none := by
    cases hr : r.result with
    | none => rfl
    | some x => exact absurd (h.result x hr).1 (hne _ rfl)
  refine ⟨hresult, eq_none_of_not_isSome fun hs => ?_, eq_none_of_not_isSome fun hs => ?_,
    eq_none_of_not_isSome fun hs => ?_, eq_none_of_not_isSome fun hs => ?_,
    eq_none_of_not_isSome fun hs => ?_, eq_none_of_not_isSome fun hs => ?_⟩
  · have := h.resultExpiresAt hs
    rw [hresult] at this
    cases this
  · exact hne _ rfl (h.approvedAt.mp hs)
  · exact hne _ rfl (h.rejectedAt.mp hs)
  · exact hne _ rfl (h.cancelledAt.mp hs)
  · exact hne _ rfl (h.failedAt.mp hs)
  · rcases h.rejectReasonCode hs with he | he | he <;> exact hne _ rfl he

theorem wellFormed_newRequest {args : Coordinator.CreateRequestArgs} {hash : PayloadHash} {id : RequestId}
    {w : WalletInstanceId} {now t : TimestampMs} (hkind : args.payload.kind = args.kind) :
    (Coordinator.newRequest args hash id w now t).WellFormed := by
  constructor <;> simp [Coordinator.newRequest, RequestStatus.isTerminal, hkind]

theorem wellFormed_claimed {lease : DeliveryLease} {now : TimestampMs} (h : r.WellFormed)
    (hs : r.status = .created) : (r.claimed lease now).WellFormed := by
  have hu := h.undecided (by rw [hs]; rfl)
  constructor <;> simp [RequestRecord.claimed, RequestStatus.isTerminal, hu.result, hu.resultExpiresAt,
    hu.approvedAt, hu.rejectedAt, hu.cancelledAt, hu.failedAt, hu.rejectReasonCode, h.payload,
    (h.created hs).2]

theorem wellFormed_extended {p : PresentationLease} {t now : TimestampMs} (h : r.WellFormed)
    (hs : r.status = .pendingUserApproval) : (r.extended p t now).WellFormed := by
  have hu := h.undecided (by rw [hs]; rfl)
  constructor <;> simp [RequestRecord.extended, hs, RequestStatus.isTerminal, hu.result,
    hu.resultExpiresAt, hu.approvedAt, hu.rejectedAt, hu.cancelledAt, hu.failedAt, hu.rejectReasonCode,
    h.payload, (h.pendingUserApproval hs).1]

theorem wellFormed_presented {p : PresentationLease} {now : TimestampMs} (h : r.WellFormed)
    (hs : r.status = .dispatched) : (r.presented p now).WellFormed := by
  have hu := h.undecided (by rw [hs]; rfl)
  constructor <;> simp [RequestRecord.presented, RequestStatus.isTerminal, hu.result, hu.resultExpiresAt,
    hu.approvedAt, hu.rejectedAt, hu.cancelledAt, hu.failedAt, hu.rejectReasonCode, h.payload]

theorem wellFormed_resolved {x : RequestResult} {now : TimestampMs} {t : Option TimestampMs}
    (h : r.WellFormed) (hs : r.status = .pendingUserApproval)
    (hkind : r.kind.expectedResultKind = x.resultKind) : (r.resolved x now t).WellFormed := by
  have hu := h.undecided (by rw [hs]; rfl)
  constructor <;> simp [RequestRecord.resolved, hu.rejectedAt, hu.cancelledAt, hu.failedAt, h.payload,
    hkind]

theorem wellFormed_rejected {command : RejectRequestCommand} {now : TimestampMs} (h : r.WellFormed)
    (hlive : r.status.isTerminal = false) : (r.rejected command now).WellFormed := by
  have hu := h.undecided hlive
  constructor <;> cases hreason : command.reasonCode <;>
    simp [RequestRecord.rejected, hreason, mapRejectReason, RequestStatus.isTerminal, hu.result,
      hu.resultExpiresAt, hu.cancelledAt, h.payload]

theorem wellFormed_cancelled {now later : TimestampMs} (h : r.WellFormed)
    (hlive : r.status.isTerminal = false) : (r.cancelled now later).WellFormed := by
  have hu := h.undecided hlive
  constructor <;> simp [RequestRecord.cancelled, hu.result, hu.resultExpiresAt, hu.approvedAt,
    hu.rejectedAt, hu.failedAt, hu.rejectReasonCode, h.payload]

theorem wellFormed_expired {now : TimestampMs} (h : r.WellFormed)
    (hlive : r.status.isTerminal = false) : (r.expired now).WellFormed := by
  have hu := h.undecided hlive
  constructor <;> simp [RequestRecord.expired, hu.result, hu.resultExpiresAt, hu.approvedAt,
    hu.rejectedAt, hu.cancelledAt, hu.failedAt, h.payload]

theorem wellFormed_released {now : TimestampMs} (h : r.WellFormed)
    (hlive : r.status.isTerminal = false) : (r.released now).WellFormed := by
  have hu := h.undecided hlive
  constructor <;> simp [RequestRecord.released, RequestStatus.isTerminal, hu.result, hu.resultExpiresAt,
    hu.approvedAt, hu.rejectedAt, hu.cancelledAt, hu.failedAt, hu.rejectReasonCode, h.payload]

theorem wellFormed_evicted (h : r.WellFormed) : r.evicted.WellFormed :=
  ⟨h.created, h.dispatched, h.pendingUserApproval, h.terminal, fun _ hx => (nomatch hx),
    fun hx => (nomatch hx), h.approvedAt, h.rejectedAt, h.cancelledAt, h.failedAt, h.rejectReasonCode,
    h.payload⟩

end WellFormed

section Steps

variable {c : Coordinator} {env : Env} {s : Store} {command : CoordinatorCommand}
  {answer : CoreResult CoordinatorResponse} {r r' : RequestRecord}

/-- An edit that is not the eviction starts from a record that is not terminal. -/
theorem Edit.live_or_evicted (h : Edit c env s command answer r r') :
    r.status.isTerminal = false ∨ (command = .tickMaintenance ∧ r.status = .approved ∧
      r.result.isSome = true ∧ (∃ t, r.resultExpiresAt = some t ∧ t ≤ env.now 0) ∧ r' = r.evicted) := by
  cases h with
  | claim _ _ _ _ hs => exact .inl (by rw [hs]; rfl)
  | resume _ _ _ hs => exact .inl (by rw [hs]; rfl)
  | present _ _ hs => exact .inl (by rw [hs]; rfl)
  | represent _ _ hs => exact .inl (by rw [hs]; rfl)
  | heartbeat _ _ _ _ hs => exact .inl (by rw [hs]; rfl)
  | resolve _ _ hs => exact .inl (by rw [hs]; rfl)
  | reject _ _ hcheck =>
    exact .inl (by rcases validateReject_status hcheck with hs | hs <;> rw [hs] <;> rfl)
  | cancel hlive => exact .inl hlive
  | expire hlive => exact .inl hlive
  | release _ hdue =>
    rcases hdue with hd | hd
    · exact .inl (by rw [deliveryLeaseExpired_status hd]; rfl)
    · exact .inl (by rw [presentationExpired_status hd]; rfl)
  | evict hs hres hexp hdue => exact .inr ⟨rfl, hs, hres, ⟨_, hexp, hdue⟩, rfl⟩

theorem Edit.wellFormed (h : Edit c env s command answer r r') (hr : r.WellFormed) : r'.WellFormed := by
  rcases h.live_or_evicted with hlive | ⟨-, -, -, -, rfl⟩
  · cases h with
    | claim _ _ _ _ hs => exact wellFormed_claimed hr hs
    | resume _ _ _ hs => exact wellFormed_extended hr hs
    | present _ _ hs => exact wellFormed_presented hr hs
    | represent _ _ hs => exact wellFormed_extended hr hs
    | heartbeat _ _ _ _ hs => exact wellFormed_extended hr hs
    | resolve _ _ hs _ _ _ hkind => exact wellFormed_resolved hr hs hkind
    | reject => exact wellFormed_rejected hr hlive
    | cancel => exact wellFormed_cancelled hr hlive
    | expire => exact wellFormed_expired hr hlive
    | release => exact wellFormed_released hr hlive
    | evict => exact wellFormed_evicted hr
  · exact wellFormed_evicted hr

theorem createArgs_kind {args : Coordinator.CreateRequestArgs} (h : command.createArgs = some args) :
    args.payload.kind = args.kind := by
  cases command <;> simp only [CoordinatorCommand.createArgs, reduceCtorEq, Option.some.injEq] at h <;>
    subst h <;> rfl

theorem Creation.wellFormed {args : Coordinator.CreateRequestArgs}
    (h : Creation c env s command answer args r) : r.WellFormed := by
  rw [h.record]
  exact wellFormed_newRequest (createArgs_kind h.command_args)

end Steps

/-- Every stored record is well formed. -/
def Store.WellFormed (s : Store) : Prop := ∀ id r, s.getRequest id = some r → r.WellFormed

theorem Store.WellFormed.resultsApproved {s : Store} (h : s.WellFormed) : ResultsApproved s := by
  intro r hr hres
  obtain ⟨x, hx⟩ := Option.isSome_iff_exists.mp hres
  exact ((h _ r (Store.mem_requests_iff.mp hr)).result x hx).1

namespace Coordinator

theorem step_changes {c : Coordinator} {s : Store} (hs : s.WellFormed) (x : Step) :
    Changes c x.env s x.command (c.reply s x) (c.step s x) :=
  dispatch_changes c x.env x.command hs.resultsApproved

theorem step_wellFormed {c : Coordinator} {s : Store} (x : Step) (hs : s.WellFormed) :
    (c.step s x).WellFormed := by
  intro id r' hr'
  have hchange := step_changes (c := c) hs x id
  rw [hr'] at hchange
  generalize hr : s.getRequest id = before at hchange
  cases hchange with
  | same => exact hs id r' hr
  | creation h => exact h.wellFormed
  | edit h => exact h.wellFormed (hs id _ hr)

theorem run_wellFormed (c : Coordinator) (steps : List Step) : (c.run steps).WellFormed := by
  have hempty : Store.empty.WellFormed := by
    intro id r h
    cases h
  have hstep : ∀ s x, Store.WellFormed s → (c.step s x).WellFormed := fun _ x hs => step_wellFormed x hs
  exact Trace.run_invariant hstep hempty steps

/-- What the last step of a run does to a request. -/
theorem run_change (c : Coordinator) (steps : List Step) (x : Step) (id : RequestId) :
    Change c x.env (c.run steps) x.command (c.reply (c.run steps) x)
      ((c.run steps).getRequest id) ((c.run (steps ++ [x])).getRequest id) := by
  rw [run_snoc]
  exact step_changes (run_wellFormed c steps) x id

/-- Every request record a run of commands can reach is well formed. -/
theorem run_records_wellFormed (c : Coordinator) (steps : List Step) :
    ∀ r ∈ (c.run steps).requests.rows, r.WellFormed :=
  fun r hr => run_wellFormed c steps _ r (Store.mem_requests_iff.mp hr)

end Coordinator

/-! ## One request through a run -/

theorem Edit.status_edge {c : Coordinator} {env : Env} {s : Store} {command : CoordinatorCommand}
    {answer : CoreResult CoordinatorResponse} {r r' : RequestRecord}
    (h : Edit c env s command answer r r') :
    r'.status = r.status ∨ r.status.canTransitionTo r'.status = true := by
  cases h with
  | claim _ _ _ _ hs => exact .inr (by rw [hs]; rfl)
  | resume | represent | heartbeat | evict => exact .inl rfl
  | present _ _ hs => exact .inr (by rw [hs]; rfl)
  | resolve _ _ hs => exact .inr (by rw [hs]; rfl)
  | reject _ _ _ hedge => exact .inr hedge
  | cancel hlive => exact .inr (canTransitionTo_cancelled hlive)
  | expire hlive => exact .inr (canTransitionTo_expired hlive)
  | release _ hdue =>
    rcases hdue with hd | hd
    · exact .inr (by rw [deliveryLeaseExpired_status hd]; rfl)
    · exact .inr (by rw [presentationExpired_status hd]; rfl)

namespace Coordinator

variable {c : Coordinator} {id : RequestId} {r : RequestRecord}

/-- A stored request stays stored; what one command does to it is at most one edit. -/
theorem step_request {s : Store} (hs : s.WellFormed) (hr : s.getRequest id = some r) (x : Step) :
    ∃ r', (c.step s x).getRequest id = some r' ∧
      (r' = r ∨ Edit c x.env s x.command (c.reply s x) r r') := by
  have hchange := step_changes (c := c) hs x id
  rw [hr] at hchange
  generalize hr' : (c.step s x).getRequest id = after at hchange
  cases hchange with
  | same => exact ⟨r, rfl, .inl rfl⟩
  | edit h => exact ⟨_, rfl, .inr h⟩

theorem run_request (steps : List Step) (hr : (c.run steps).getRequest id = some r) (x : Step) :
    ∃ r', (c.run (steps ++ [x])).getRequest id = some r' ∧
      (r' = r ∨ Edit c x.env (c.run steps) x.command (c.reply (c.run steps) x) r r') := by
  rw [run_snoc]
  exact step_request (run_wellFormed c steps) hr x

theorem run_identity (before after : List Step) (hr : (c.run before).getRequest id = some r) :
    ∃ r', (c.run (before ++ after)).getRequest id = some r' ∧ r'.identity = r.identity := by
  induction after using List.reverseRecOn with
  | nil => exact ⟨r, by rwa [List.append_nil], rfl⟩
  | append_singleton after x ih =>
    obtain ⟨r₁, hr₁, hid₁⟩ := ih
    obtain ⟨r₂, hr₂, hstep⟩ := run_request (before ++ after) hr₁ x
    refine ⟨r₂, by rwa [← List.append_assoc], ?_⟩
    rcases hstep with rfl | hedit
    · exact hid₁
    · exact hedit.identity_eq.trans hid₁

/-- The record of `id` is `r` at this point of the run. -/
def Stores (c : Coordinator) (id : RequestId) (r : RequestRecord) (steps : List Step) : Prop :=
  (c.run steps).getRequest id = some r

theorem stores_evicted_snoc {steps : List Step} (hterm : r.status.isTerminal = true)
    (h : c.Stores id r.evicted steps) (x : Step) : c.Stores id r.evicted (steps ++ [x]) := by
  obtain ⟨r', hr', hstep⟩ := run_request steps h x
  rcases hstep with rfl | hedit
  · exact hr'
  · rcases hedit.live_or_evicted with hlive | ⟨-, -, hres, -⟩
    · rw [show r.evicted.status = r.status from rfl, hterm] at hlive
      cases hlive
    · cases hres

/-- A terminal record keeps every field until one tick, at or after `result_expires_at`, drops
its result; after that it never changes again. -/
theorem terminal_frozen (before after : List Step) (hr : c.Stores id r before)
    (hterm : r.status.isTerminal = true) :
    Trace.Throughout (c.Stores id r) before after ∨
      ∃ m x rest t, after = m ++ x :: rest ∧ Trace.Throughout (c.Stores id r) before m ∧
        x.command = .tickMaintenance ∧ r.resultExpiresAt = some t ∧ t ≤ x.env.now 0 ∧
        Trace.Throughout (c.Stores id r.evicted) (before ++ m ++ [x]) rest := by
  induction after using List.reverseRecOn with
  | nil => exact .inl (Trace.throughout_nil hr)
  | append_singleton after x ih =>
    rcases ih with hkept | ⟨m, y, rest, t, rfl, hkept, hy, ht, hdue, hevicted⟩
    · obtain ⟨r', hr', hstep⟩ := run_request (before ++ after) hkept.last x
      rcases hstep with rfl | hedit
      · exact .inl (hkept.snoc (by rwa [← List.append_assoc]))
      · rcases hedit.live_or_evicted with hlive | ⟨hx, -, -, ⟨t, ht, hdue⟩, rfl⟩
        · rw [hterm] at hlive
          cases hlive
        · exact .inr ⟨after, x, [], t, rfl, hkept, hx, ht, hdue, Trace.throughout_nil hr'⟩
    · refine .inr ⟨m, y, rest ++ [x], t, by simp, hkept, hy, ht, hdue, hevicted.snoc ?_⟩
      have hnext := stores_evicted_snoc hterm hevicted.last x
      rwa [List.append_assoc] at hnext

/-- Between any two points of a run a request is never lost, its identity never changes, its
status moves along edges of the lifecycle only, and once terminal it is frozen up to the single
eviction of its result. -/
theorem request_history (before after : List Step) (hr : (c.run before).getRequest id = some r) :
    (∃ r', (c.run (before ++ after)).getRequest id = some r' ∧ r'.identity = r.identity) ∧
    (∀ m x rest r₁ r₂, after = m ++ x :: rest → (c.run (before ++ m)).getRequest id = some r₁ →
      (c.run (before ++ m ++ [x])).getRequest id = some r₂ →
      r₂.status = r₁.status ∨ r₁.status.canTransitionTo r₂.status = true) ∧
    (r.status.isTerminal = true →
      Trace.Throughout (c.Stores id r) before after ∨
        ∃ m x rest t, after = m ++ x :: rest ∧ Trace.Throughout (c.Stores id r) before m ∧
          x.command = .tickMaintenance ∧ r.resultExpiresAt = some t ∧ t ≤ x.env.now 0 ∧
          Trace.Throughout (c.Stores id r.evicted) (before ++ m ++ [x]) rest) := by
  refine ⟨run_identity before after hr, ?_, terminal_frozen before after hr⟩
  intro m x rest r₁ r₂ _ hr₁ hr₂
  obtain ⟨r₂', hr₂', hstep⟩ := run_request (before ++ m) hr₁ x
  obtain rfl : r₂' = r₂ := Option.some.inj (hr₂'.symm.trans hr₂)
  rcases hstep with rfl | hedit
  · exact .inl rfl
  · exact hedit.status_edge

end Coordinator

/-! ## A session

One local wallet and one account-creation request, as the inputs of concrete runs. -/

namespace Session

def wallet : WalletInstanceId := ⟨"wallet-1", .refl false⟩
def request : RequestId := ⟨"request-1", .refl false⟩
def lease₁ : DeliveryLeaseId := ⟨"lease-1", .refl false⟩
def lease₂ : DeliveryLeaseId := ⟨"lease-2", .refl false⟩
def presentation : PresentationId := ⟨"presentation-1", .refl false⟩
def result : RequestResult := .createdAccount "0x1" "0x2" .ed25519 true false

def coordinator : Coordinator := ⟨.default "0.1.0", allowAllPolicy, fun _ => ⟨"digest", .refl false⟩⟩

/-- Surroundings in which the clock stands still. -/
def env (t : TimestampMs) (leaseId : DeliveryLeaseId) : Env where
  now _ := t
  monotone _ _ _ := le_refl t
  newRequestId := .ok request
  newDeliveryLeaseId := .ok leaseId
  requestScan := Scan.rowid
  instanceScan := Scan.rowid
  currentTimestampMs := t

def register (t : TimestampMs) : Step where
  env := env t lease₁
  command := .registerBackend
    { walletInstanceId := wallet
      backendKind := .localAccountDir
      transportKind := .localSocket
      approvalSurface := .ttyPrompt
      instanceLabel := "local"
      extensionId := ""
      extensionVersion := ""
      protocolVersion := 2
      capabilities := [.createAccount]
      backendMetadata := ⟨"null"⟩
      profileHint := none
      lockState := .unlocked
      accounts := [] }

def create (t : TimestampMs) : Step :=
  ⟨env t lease₁, .createAccount ⟨⟨"client-1", .refl false⟩, wallet, none, none, some 60⟩⟩

def pull (t : TimestampMs) (leaseId : DeliveryLeaseId) : Step := ⟨env t leaseId, .pullNextRequest wallet⟩

def present (t : TimestampMs) (leaseId : DeliveryLeaseId) : Step :=
  ⟨env t lease₁, .markRequestPresented ⟨request, wallet, some leaseId, presentation⟩⟩

def heartbeat (t : TimestampMs) : Step := ⟨env t lease₁, .heartbeatBackend ⟨wallet, [request], none⟩⟩

def resolve (t : TimestampMs) : Step :=
  ⟨env t lease₁, .resolveRequest ⟨request, wallet, presentation, result⟩⟩

def tick (t : TimestampMs) : Step := ⟨env t lease₁, .tickMaintenance⟩

/-- A session that ends in approval; its result is retained until 603000. -/
def approving : List Step := [register 0, create 0, pull 1000 lease₁, present 2000 lease₁, resolve 3000]

end Session

open Session in
theorem run_records_wellFormed_of_approval :
    ∃ r ∈ (coordinator.run approving).requests.rows, r.status = .approved ∧ r.WellFormed := by
  have hstatus : ((coordinator.run approving).getRequest request).map RequestRecord.status =
      some .approved := by decide +kernel
  obtain ⟨r, hr, happroved⟩ := Option.map_eq_some_iff.mp hstatus
  have hmem := Store.mem_of_getRequest hr
  exact ⟨r, hmem, happroved, Coordinator.run_records_wellFormed coordinator approving r hmem⟩

open Session in
theorem request_history_of_approval : ∃ r, (coordinator.run approving).getRequest request = some r ∧
    r.status.isTerminal = true ∧
    ∃ r', (coordinator.run (approving ++ [tick 603000])).getRequest request = some r' ∧
      r'.identity = r.identity := by
  obtain ⟨r, hr⟩ : ∃ r, (coordinator.run approving).getRequest request = some r :=
    Option.isSome_iff_exists.mp (by decide +kernel)
  have hterm : ((coordinator.run approving).getRequest request).map (·.status.isTerminal) = some true := by
    decide +kernel
  rw [hr] at hterm
  exact ⟨r, hr, Option.some.inj hterm, (Coordinator.request_history approving [tick 603000] hr).1⟩

end StarcoinMcp.Starmask
