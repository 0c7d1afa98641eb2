import StarcoinMcp.Starmask.Availability

/-! `request.pullNext` as one queue. A request that is being shown comes before one
that waits, and within each kind the oldest comes first; the reply is the stored
record and nothing else changes. A delivery lease is granted to a record that holds
none, and a request goes back to the queue only once its lease has run out. -/

namespace StarcoinMcp.Starmask

open Coordinator

/-- `r` is stored, has `P`, and no stored request with `P` was created before it. -/
def Store.Oldest (s : Store) (P : RequestRecord → Prop) (r : RequestRecord) : Prop :=
  r ∈ s.requests.rows ∧ P r ∧ ∀ x ∈ s.requests.rows, P x → r.createdAt ≤ x.createdAt

/-- The reply has the fields of this payload, and leaves those of the other kinds empty. -/
def PulledRequest.Carries (p : PulledRequest) : RequestPayload → Prop
  | .signTransaction t => p.kind = .signTransaction ∧ p.rawTxnBcsHex = some t.rawTxnBcsHex ∧
      p.message = none ∧ p.messageFormat = none ∧ p.outputFile = none ∧ p.force = false ∧
      p.privateKeyFile = none ∧ p.displayHint = t.displayHint ∧ p.clientContext = t.clientContext
  | .signMessage m => p.kind = .signMessage ∧ p.rawTxnBcsHex = none ∧ p.message = some m.message ∧
      p.messageFormat = some m.format ∧ p.outputFile = none ∧ p.force = false ∧
      p.privateKeyFile = none ∧ p.displayHint = m.displayHint ∧ p.clientContext = m.clientContext
  | .createAccount a => p.kind = .createAccount ∧ p.rawTxnBcsHex = none ∧ p.message = none ∧
      p.messageFormat = none ∧ p.outputFile = none ∧ p.force = false ∧ p.privateKeyFile = none ∧
      p.displayHint = a.displayHint ∧ p.clientContext = a.clientContext
  | .exportAccount a => p.kind = .exportAccount ∧ p.rawTxnBcsHex = none ∧ p.message = none ∧
      p.messageFormat = none ∧ p.outputFile = some a.outputFile ∧ p.force = a.force ∧
      p.privateKeyFile = none ∧ p.displayHint = a.displayHint ∧ p.clientContext = a.clientContext
  | .importAccount a => p.kind = .importAccount ∧ p.rawTxnBcsHex = none ∧ p.message = none ∧
      p.messageFormat = none ∧ p.outputFile = none ∧ p.force = false ∧
      p.privateKeyFile = some a.privateKeyFile ∧ p.displayHint = a.displayHint ∧
      p.clientContext = a.clientContext

/-- The reply names the request `r` and carries its payload. -/
structure PulledRequest.Delivers (p : PulledRequest) (r : RequestRecord) : Prop where
  requestId : p.requestId = r.requestId
  clientRequestId : p.clientRequestId = r.clientRequestId
  accountAddress : p.accountAddress = r.accountAddress
  payloadHash : p.payloadHash = r.payloadHash
  payload : p.Carries r.payload

/-- `s'` is `s` with the record of one request replaced by `r'`. -/
structure Store.OnlyChanged (s s' : Store) (r' : RequestRecord) : Prop where
  changed : s'.getRequest r'.requestId = some r'
  others : ∀ id, id ≠ r'.requestId → s'.getRequest id = s.getRequest id
  wallets : s.SameWallets s'

section Selection

variable {env : Env} {s : Store} {w : WalletInstanceId} {r : RequestRecord}

/-- The first row of a sorted list that passes a test is no younger than any other that passes it. -/
theorem head_filter_le {rows : List RequestRecord} {p : RequestRecord → Bool}
    (hsorted : rows.Pairwise fun a b => a.createdAt ≤ b.createdAt) (h : (rows.filter p).head? = some r) :
    ∀ x ∈ rows, p x = true → r.createdAt ≤ x.createdAt := by
  intro x hx hpx
  have hsub : (rows.filter p).Pairwise fun a b => a.createdAt ≤ b.createdAt :=
    hsorted.sublist List.filter_sublist
  obtain ⟨rest, hrest⟩ : ∃ rest, rows.filter p = r :: rest := List.head?_eq_some_iff.mp h
  have hmem : x ∈ rows.filter p := List.mem_filter.mpr ⟨hx, hpx⟩
  rw [hrest] at hsub hmem
  rcases List.mem_cons.mp hmem with rfl | hlater
  · exact le_refl _
  · exact (List.pairwise_cons.mp hsub).1 x hlater

theorem findResumableRequest_oldest (h : findResumableRequest env w s = some r) :
    s.Oldest (fun x => resumable w (env.now 1) x = true) r := by
  obtain ⟨hmem, hw, hs, hp⟩ := findResumableRequest_spec h
  refine ⟨hmem, resumable_iff.mpr ⟨hw, hs, hp⟩, fun x hx hres => ?_⟩
  have hlive : x ∈ s.listNonTerminalRequests env.requestScan := by
    refine mem_listNonTerminalRequests.mpr ⟨hx, ?_⟩
    rw [(resumable_iff.mp hres).2.1]
    rfl
  exact head_filter_le orderBy_pairwise h x hlive hres

theorem nextCreatedRequest_oldest (h : s.nextCreatedRequest env.requestScan w = some r) :
    s.Oldest (fun x => x.walletInstanceId = w ∧ x.status = .created) r := by
  obtain ⟨hmem, hw, hs⟩ := nextCreatedRequest_spec h
  refine ⟨hmem, ⟨hw, hs⟩, fun x hx hwait => ?_⟩
  have hlisted : x ∈ env.requestScan.orderBy RequestRecord.createdAt (s.requests.rows.filter fun r =>
      r.walletInstanceId = w ∧ r.status = .created) :=
    Scan.mem_orderBy.mpr (List.mem_filter.mpr ⟨hx, by simpa using hwait⟩)
  refine head_filter_le (p := fun _ => true) orderBy_pairwise ?_ x hlisted rfl
  rwa [List.filter_true]

theorem projectPulledRequest_delivers (hr : r.payload.kind = r.kind) (resumeRequired : Bool) :
    (projectPulledRequest r resumeRequired).Delivers r := by
  refine ⟨rfl, rfl, rfl, rfl, ?_⟩
  unfold projectPulledRequest PulledRequest.Carries
  cases hp : r.payload with
  | _ p =>
    rw [hp] at hr
    exact ⟨hr.symm, rfl, rfl, rfl, rfl, rfl, rfl, rfl, rfl⟩

theorem onlyChanged_writeRequest {r' : RequestRecord} (hr : r ∈ s.requests.rows)
    (hid : r'.requestId = r.requestId) (hc : r'.clientRequestId = r.clientRequestId) :
    s.OnlyChanged (s.writeRequest r') r' := by
  have hwrite := rewritable_of_getRequest (Store.mem_requests_iff.mp hr) hid hc
  refine ⟨?_, fun id hne => ?_, s.sameWallets_writeRequest r'⟩
  · rw [Store.getRequest_writeRequest hwrite, if_pos rfl]
  · rw [Store.getRequest_writeRequest hwrite, if_neg hne]

end Selection

/-! ## Delivery leases through a run -/

section Leases

variable {c : Coordinator} {id : RequestId} {lease : DeliveryLease}

/-- A lease is never exchanged for another. It is kept, or given up; then the request is shown or
decided, or the lease has run out and the request is back in the queue. -/
theorem Edit.deliveryLease {env : Env} {s : Store} {command : CoordinatorCommand}
    {answer : CoreResult CoordinatorResponse} {r r' : RequestRecord}
    (h : Edit c env s command answer r r') (hr : r.WellFormed) (hlease : r.deliveryLease = some lease) :
    r'.deliveryLease = none ∧ (r'.status ≠ .created ∨ lease.deliveryLeaseExpiresAt ≤ env.now 0) := by
  -- only a dispatched record holds a lease
  have hnot : ∀ {P : Prop}, r.deliveryLease = none → P := by
    intro P hnone
    rw [hlease] at hnone
    cases hnone
  cases h with
  | claim _ _ _ _ hs => exact hnot (hr.created hs).1
  | resume _ _ _ hs => exact hnot (hr.pendingUserApproval hs).1
  | present => exact ⟨rfl, .inl nofun⟩
  | represent _ _ hs => exact hnot (hr.pendingUserApproval hs).1
  | heartbeat _ _ _ _ hs => exact hnot (hr.pendingUserApproval hs).1
  | resolve _ _ hs => exact hnot (hr.pendingUserApproval hs).1
  | @reject command =>
    refine ⟨rfl, .inl ?_⟩
    show (mapRejectReason command.reasonCode).1 ≠ .created
    cases command.reasonCode <;> decide
  | cancel => exact ⟨rfl, .inl nofun⟩
  | expire => exact ⟨rfl, .inl nofun⟩
  | release _ hdue =>
    rcases hdue with hd | hp
    · refine ⟨rfl, .inr ?_⟩
      unfold deliveryLeaseExpired at hd
      simpa [hlease] using (of_decide_eq_true hd).2
    · exact hnot (hr.pendingUserApproval (presentationExpired_status hp)).1
  | evict hs => exact hnot (hr.terminal (by rw [hs]; rfl)).1

/-- At this point of the run the request is under the lease. -/
def Coordinator.HoldsLease (c : Coordinator) (id : RequestId) (lease : DeliveryLease)
    (steps : List Step) : Prop :=
  ∃ r, (c.run steps).getRequest id = some r ∧ r.deliveryLease = some lease

/-- After this input the lease is given up, and the request is queued again only if it has run out. -/
def Coordinator.GivesUpLease (c : Coordinator) (id : RequestId) (lease : DeliveryLease)
    (steps : List Step) (x : Step) : Prop :=
  ∃ r, (c.run (steps ++ [x])).getRequest id = some r ∧ r.deliveryLease = none ∧
    (r.status ≠ .created ∨ lease.deliveryLeaseExpiresAt ≤ x.env.now 0)

theorem lease_step (steps : List Step) (h : c.HoldsLease id lease steps) (x : Step) :
    c.HoldsLease id lease (steps ++ [x]) ∨ c.GivesUpLease id lease steps x := by
  obtain ⟨r, hr, hlease⟩ := h
  obtain ⟨r', hr', hstep⟩ := run_request steps hr x
  rcases hstep with rfl | hedit
  · exact .inl ⟨r', hr', hlease⟩
  · exact .inr ⟨r', hr', hedit.deliveryLease (run_wellFormed c steps id r hr) hlease⟩

theorem lease_history (before after : List Step) (h : c.HoldsLease id lease before) :
    Trace.Throughout (c.HoldsLease id lease) before after ∨
      ∃ m x rest, after = m ++ x :: rest ∧ Trace.Throughout (c.HoldsLease id lease) before m ∧
        c.GivesUpLease id lease (before ++ m) x := by
  induction after using List.reverseRecOn with
  | nil => exact .inl (Trace.throughout_nil h)
  | append_singleton after x ih =>
    rcases ih with hheld | ⟨m, y, rest, rfl, hheld, hgiven⟩
    · rcases lease_step (before ++ after) hheld.last x with hkept | hgiven
      · exact .inl (hheld.snoc (by rwa [← List.append_assoc]))
      · exact .inr ⟨after, x, [], rfl, hheld, hgiven⟩
    · exact .inr ⟨m, y, rest ++ [x], by simp, hheld, hgiven⟩

/-- Between two different leases of one request lies a point at which the first was given up. -/
theorem lease_given_up (before after : List Step) (h : c.HoldsLease id lease before)
    {lease' : DeliveryLease} (h' : c.HoldsLease id lease' (before ++ after)) (hne : lease' ≠ lease) :
    ∃ m x rest, after = m ++ x :: rest ∧ Trace.Throughout (c.HoldsLease id lease) before m ∧
      c.GivesUpLease id lease (before ++ m) x := by
  rcases lease_history before after h with hheld | hgiven
  · obtain ⟨r, hr, hlease⟩ := hheld.last
    obtain ⟨r', hr', hlease'⟩ := h'
    rw [hr] at hr'
    cases hr'
    rw [hlease] at hlease'
    exact absurd (Option.some.inj hlease').symm hne
  · exact hgiven

end Leases

/-! ## The queue -/

/-- The pull found a request being shown, renewed its presentation and delivered it. -/
def Resumes (c : Coordinator) (env : Env) (w : WalletInstanceId) (s s' : Store)
    (delivered : Option PulledRequest) : Prop :=
  ∃ r p t pulled, s.Oldest (fun x => resumable w (env.now 1) x = true) r ∧ r.presentation = some p ∧
    t = env.now 0 + c.config.presentationLeaseTtl * 1000 ∧ r.deliveryLease = none ∧
    s.OnlyChanged s' { r with
      presentation := some ⟨p.presentationId, t⟩
      updatedAt := env.now 0 } ∧
    delivered = some pulled ∧ pulled.Delivers r ∧ pulled.resumeRequired = true ∧
    pulled.presentationId = some p.presentationId ∧ pulled.presentationExpiresAt = some t ∧
    pulled.deliveryLeaseId = none ∧ pulled.leaseExpiresAt = none

/-- Nothing is being shown; the pull put the oldest waiting request under a new lease. -/
def Claims (c : Coordinator) (env : Env) (w : WalletInstanceId) (s s' : Store)
    (delivered : Option PulledRequest) : Prop :=
  (∀ x ∈ s.requests.rows, ¬ resumable w (env.now 1) x = true) ∧
  ∃ r leaseId t pulled, s.Oldest (fun x => x.walletInstanceId = w ∧ x.status = .created) r ∧
    r.deliveryLease = none ∧ r.presentation = none ∧ env.newDeliveryLeaseId = .ok leaseId ∧
    t = env.now 2 + c.config.deliveryLeaseTtl * 1000 ∧
    s.OnlyChanged s' { r with
      status := .dispatched
      deliveryLease := some ⟨leaseId, t⟩
      updatedAt := env.now 0 } ∧
    delivered = some pulled ∧ pulled.Delivers r ∧ pulled.resumeRequired = false ∧
    pulled.deliveryLeaseId = some leaseId ∧ pulled.leaseExpiresAt = some t ∧
    pulled.presentationId = none ∧ pulled.presentationExpiresAt = none

/-- There is nothing to deliver. -/
def Idle (env : Env) (w : WalletInstanceId) (s s' : Store) (delivered : Option PulledRequest) : Prop :=
  (∀ x ∈ s.requests.rows, ¬ resumable w (env.now 1) x = true) ∧
  (∀ x ∈ s.requests.rows, ¬ (x.walletInstanceId = w ∧ x.status = .created)) ∧
  delivered = none ∧ s' = s

section Queue

variable {c : Coordinator} {env : Env} {s : Store} {w : WalletInstanceId} {r : RequestRecord}

theorem no_resumable (h : findResumableRequest env w s = none) :
    ∀ x ∈ s.requests.rows, ¬ resumable w (env.now 1) x = true := by
  intro x hx hres
  obtain ⟨r, hr⟩ := shown_iff.mp ⟨x, hx, resumable_iff.mp hres⟩
  rw [h] at hr
  cases hr

theorem resumes_of_find {p : PresentationLease} {t : TimestampMs} (hs : s.WellFormed)
    (hfind : findResumableRequest env w s = some r) (hp : r.presentation = some p)
    (hexp : checkedAddSeconds (env.now 0) c.config.presentationLeaseTtl = some t) :
    Resumes c env w s (s.writeRequest (r.extended p t (env.now 0)))
      (some (projectPulledRequest (r.extended p t (env.now 0)) true)) := by
  have holdest := findResumableRequest_oldest hfind
  have hr := hs _ r (Store.mem_requests_iff.mp holdest.1)
  have hstatus := (resumable_iff.mp holdest.2.1).2.1
  have hdelivers := projectPulledRequest_delivers
    (r := r.extended p t (env.now 0)) hr.payload true
  exact ⟨r, p, t, _, holdest, hp, checkedAddSeconds_eq_some hexp, (hr.pendingUserApproval hstatus).1,
    onlyChanged_writeRequest holdest.1 rfl rfl, rfl,
    ⟨hdelivers.requestId, hdelivers.clientRequestId, hdelivers.accountAddress, hdelivers.payloadHash,
      hdelivers.payload⟩, rfl, rfl, rfl, rfl, rfl⟩

theorem claims_of_next {lease : DeliveryLease} (hs : s.WellFormed)
    (hfind : findResumableRequest env w s = none)
    (hnext : s.nextCreatedRequest env.requestScan w = some r)
    (hid : env.newDeliveryLeaseId = .ok lease.deliveryLeaseId)
    (hexp : checkedAddSeconds (env.now 2) c.config.deliveryLeaseTtl = some lease.deliveryLeaseExpiresAt) :
    Claims c env w s (s.writeRequest (r.claimed lease (env.now 0)))
      (some (projectPulledRequest (r.claimed lease (env.now 0)) false)) := by
  have holdest := nextCreatedRequest_oldest hnext
  have hr := hs _ r (Store.mem_requests_iff.mp holdest.1)
  obtain ⟨hnolease, hnopres⟩ := hr.created holdest.2.1.2
  have hdelivers := projectPulledRequest_delivers (r := r.claimed lease (env.now 0)) hr.payload false
  exact ⟨no_resumable hfind, r, lease.deliveryLeaseId, lease.deliveryLeaseExpiresAt, _, holdest, hnolease,
    hnopres, hid, checkedAddSeconds_eq_some hexp, onlyChanged_writeRequest holdest.1 rfl rfl, rfl,
    ⟨hdelivers.requestId, hdelivers.clientRequestId, hdelivers.accountAddress, hdelivers.payloadHash,
      hdelivers.payload⟩, rfl, rfl, rfl, rfl, rfl⟩

theorem idle_of_none (hfind : findResumableRequest env w s = none)
    (hnext : s.nextCreatedRequest env.requestScan w = none) : Idle env w s s none := by
  refine ⟨no_resumable hfind, fun x hx hwait => ?_, rfl, rfl⟩
  obtain ⟨r, hr⟩ := waiting_iff.mp ⟨x, hx, hwait⟩
  rw [hnext] at hr
  cases hr

/-- A pull that succeeds resumes, claims or is idle. -/
theorem pull_outcome {result : PullNextRequestResult} {s' : Store} (hs : s.WellFormed)
    (h : c.pullNextRequest env w s = (.ok result, s')) :
    result.walletInstanceId = w ∧ (Resumes c env w s s' result.request ∨
      Claims c env w s s' result.request ∨ Idle env w s s' result.request) := by
  rcases pullNextRequest_cases c env s w with ⟨e, hrun⟩ | ⟨hfind, hnext, hrun⟩ |
    ⟨r, p, t, -, hfind, hp, hexp, hrun⟩ | ⟨r, lease, -, hfind, hnext, hid, hexp, hrun⟩
  · cases hrun.symm.trans h
  · cases hrun.symm.trans h
    exact ⟨rfl, .inr (.inr (idle_of_none hfind hnext))⟩
  · cases hrun.symm.trans h
    exact ⟨rfl, .inl (resumes_of_find hs hfind hp hexp)⟩
  · cases hrun.symm.trans h
    exact ⟨rfl, .inr (.inl (claims_of_next hs hfind hnext hid hexp))⟩

end Queue

/-- On every reachable store a successful pull delivers the oldest request being shown, else the
oldest waiting one, else none, and changes that record only; and no run puts a request under a new
lease before the lease it was under is given up. -/
theorem pull_delivers_oldest (c : Coordinator) :
    (∀ steps env w result s',
      c.dispatch env (.pullNextRequest w) (c.run steps) = (.ok (.pullNextRequest result), s') →
      result.walletInstanceId = w ∧ (Resumes c env w (c.run steps) s' result.request ∨
        Claims c env w (c.run steps) s' result.request ∨ Idle env w (c.run steps) s' result.request)) ∧
    (∀ before after id lease lease', c.HoldsLease id lease before →
      c.HoldsLease id lease' (before ++ after) → lease' ≠ lease →
      ∃ m x rest, after = m ++ x :: rest ∧ Trace.Throughout (c.HoldsLease id lease) before m ∧
        c.GivesUpLease id lease (before ++ m) x) := by
  refine ⟨fun steps env w result s' h => ?_, fun before after id lease lease' hold hnew hne =>
    lease_given_up before after hold hnew hne⟩
  simp only [dispatch, FailState.map_apply] at h
  generalize hrun : c.pullNextRequest env w (c.run steps) = out at h
  obtain ⟨answer, after⟩ := out
  cases answer with
  | error e => cases h
  | ok found =>
    cases h
    exact pull_outcome (run_wellFormed c steps) hrun

/-- The session's request is delivered, and not for a second time. -/
def Session.deliversAnew : CoreResult CoordinatorResponse → Bool
  | .ok (.pullNextRequest ⟨_, some p⟩) => p.requestId = Session.request ∧ p.resumeRequired = false
  | _ => false

open Session in
/-- The lease taken at 1000 runs out at 31000; the tick requeues the request and it is claimed again. -/
theorem pull_delivers_oldest_twice :
    (∃ pulled : PulledRequest, pulled.requestId = request ∧
      ∃ s', Claims coordinator (env 33000 lease₂) wallet
        (coordinator.run [register 0, create 0, pull 1000 lease₁, tick 32000]) s' (some pulled)) ∧
    ∃ m x rest, [tick 32000, pull 33000 lease₂] = m ++ x :: rest ∧
      coordinator.GivesUpLease request ⟨lease₁, 31000⟩
        ([register 0, create 0, pull 1000 lease₁] ++ m) x := by
  obtain ⟨hpull, hlease⟩ := pull_delivers_oldest coordinator
  constructor
  · have hreply : deliversAnew (coordinator.dispatch (env 33000 lease₂) (.pullNextRequest wallet)
        (coordinator.run [register 0, create 0, pull 1000 lease₁, tick 32000])).1 = true := by
          decide +kernel
    generalize hout : coordinator.dispatch (env 33000 lease₂) (.pullNextRequest wallet)
      (coordinator.run [register 0, create 0, pull 1000 lease₁, tick 32000]) = out at hreply
    obtain ⟨answer, s'⟩ := out
    unfold deliversAnew at hreply
    split at hreply
    · rename_i w pulled hok
      obtain ⟨hid, hfirst⟩ := of_decide_eq_true hreply
      cases hok
      refine ⟨pulled, hid, s', ?_⟩
      rcases (hpull _ _ _ _ s' hout).2 with hres | hclaim | hidle
      · obtain ⟨r, p, t, q, -, -, -, -, -, he, -, hflag, -⟩ := hres
        rw [← Option.some.inj he, hfirst] at hflag
        cases hflag
      · exact hclaim
      · cases hidle.2.2.1
    · cases hreply
  · have hheld : ∀ steps leaseId t,
        ((coordinator.run steps).getRequest request).map RequestRecord.deliveryLease =
          some (some ⟨leaseId, t⟩) → coordinator.HoldsLease request ⟨leaseId, t⟩ steps := by
      intro steps leaseId t h
      obtain ⟨r, hr, hl⟩ := Option.map_eq_some_iff.mp h
      exact ⟨r, hr, hl⟩
    obtain ⟨m, x, rest, hsplit, -, hgiven⟩ := hlease [register 0, create 0, pull 1000 lease₁]
      [tick 32000, pull 33000 lease₂] request ⟨lease₁, 31000⟩ ⟨lease₂, 63000⟩
      (hheld _ _ _ (by decide +kernel)) (hheld _ _ _ (by decide +kernel)) (by decide)
    exact ⟨m, x, rest, hsplit, hgiven⟩

end StarcoinMcp.Starmask
