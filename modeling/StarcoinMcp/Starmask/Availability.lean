import StarcoinMcp.Starmask.Runs

/-! `request.hasAvailable` against `request.pullNext`. The first looks at the status of the
requests only, the second also at their presentation leases, and it can still fail on a
deadline out of range or on the id generator. Whatever is delivered was announced; the
converse fails while a presentation lease is over and no tick has requeued the request. -/

namespace StarcoinMcp.Starmask

open Coordinator

/-- A request of the wallet that is being shown, under a lease that still runs at `t`. -/
def Shown (s : Store) (w : WalletInstanceId) (t : TimestampMs) : Prop :=
  ∃ r ∈ s.requests.rows, r.walletInstanceId = w ∧ r.status = .pendingUserApproval ∧
    ∃ p, r.presentation = some p ∧ t < p.presentationExpiresAt

/-- A request of the wallet that waits for delivery. -/
def Waiting (s : Store) (w : WalletInstanceId) : Prop :=
  ∃ r ∈ s.requests.rows, r.walletInstanceId = w ∧ r.status = .created

/-- A request of the wallet that was shown, whatever became of its lease. -/
def Pending (s : Store) (w : WalletInstanceId) : Prop :=
  ∃ r ∈ s.requests.rows, r.walletInstanceId = w ∧ r.status = .pendingUserApproval

section Store

variable {c : Coordinator} {env : Env} {s : Store} {w : WalletInstanceId} {t : TimestampMs}

theorem Shown.pending (h : Shown s w t) : Pending s w := by
  obtain ⟨r, hr, hw, hs, -⟩ := h
  exact ⟨r, hr, hw, hs⟩

theorem resumable_iff {r : RequestRecord} : resumable w t r = true ↔ r.walletInstanceId = w ∧
    r.status = .pendingUserApproval ∧ ∃ p, r.presentation = some p ∧ t < p.presentationExpiresAt := by
  simp [resumable, Option.any_eq_true]

theorem shown_iff : Shown s w (env.now 1) ↔ ∃ r, findResumableRequest env w s = some r := by
  constructor
  · rintro ⟨r, hr, hw, hs, hp⟩
    have hlive : r ∈ s.listNonTerminalRequests env.requestScan :=
      mem_listNonTerminalRequests.mpr ⟨hr, by rw [hs]; rfl⟩
    have hmem := List.mem_filter.mpr ⟨hlive, resumable_iff.mpr ⟨hw, hs, hp⟩⟩
    exact Option.isSome_iff_exists.mp (List.isSome_head?.mpr (List.ne_nil_of_mem hmem))
  · rintro ⟨r, hr⟩
    exact ⟨r, findResumableRequest_spec hr⟩

theorem waiting_iff {scan : Scan RequestRecord} :
    Waiting s w ↔ ∃ r, s.nextCreatedRequest scan w = some r := by
  constructor
  · rintro ⟨r, hr, hw, hs⟩
    have hfilter : r ∈ s.requests.rows.filter fun r => r.walletInstanceId = w ∧ r.status = .created :=
      List.mem_filter.mpr ⟨hr, by simp [hw, hs]⟩
    have hmem : r ∈ scan.orderBy RequestRecord.createdAt
        (s.requests.rows.filter fun r => r.walletInstanceId = w ∧ r.status = .created) :=
      Scan.mem_orderBy.mpr hfilter
    exact Option.isSome_iff_exists.mp (List.isSome_head?.mpr (List.ne_nil_of_mem hmem))
  · rintro ⟨r, hr⟩
    exact ⟨r, nextCreatedRequest_spec hr⟩

theorem requestHasAvailable_iff :
    (requestHasAvailable env w s).available = true ↔ Waiting s w ∨ Pending s w := by
  simp only [requestHasAvailable, List.any_eq_true, decide_eq_true_eq]
  constructor
  · rintro ⟨r, hr, hw, hs | hs⟩
    · exact .inl ⟨r, (mem_listNonTerminalRequests.mp hr).1, hw, hs⟩
    · exact .inr ⟨r, (mem_listNonTerminalRequests.mp hr).1, hw, hs⟩
  · rintro (⟨r, hr, hw, hs⟩ | ⟨r, hr, hw, hs⟩)
    · exact ⟨r, mem_listNonTerminalRequests.mpr ⟨hr, by rw [hs]; rfl⟩, hw, .inl hs⟩
    · exact ⟨r, mem_listNonTerminalRequests.mpr ⟨hr, by rw [hs]; rfl⟩, hw, .inr hs⟩

/-- The claim of a waiting request gets its lease. -/
def CanLease (c : Coordinator) (env : Env) (t : TimestampMs) : Prop :=
  (∃ id, env.newDeliveryLeaseId = .ok id) ∧ checkedAddSeconds t c.config.deliveryLeaseTtl ≠ none

/-- When a registered wallet gets a request: one being shown goes first, and its lease is renewed. -/
theorem pullNextRequest_some_iff (hw : s.getWalletInstance w ≠ none) :
    (∃ p, (c.pullNextRequest env w s).1 = .ok ⟨w, some p⟩) ↔
      (Shown s w (env.now 1) ∧ checkedAddSeconds (env.now 0) c.config.presentationLeaseTtl ≠ none) ∨
      (¬ Shown s w (env.now 1) ∧ Waiting s w ∧ CanLease c env (env.now 2)) := by
  constructor
  · rintro ⟨p, hp⟩
    rcases pullNextRequest_cases c env s w with ⟨e, hrun⟩ | ⟨-, -, hrun⟩ | ⟨r, q, t, -, hfind, -, hexp, -⟩ |
      ⟨r, lease, -, hfind, hnext, hid, hexp, -⟩
    · rw [hrun] at hp
      cases hp
    · rw [hrun] at hp
      cases hp
    · exact .inl ⟨shown_iff.mpr ⟨r, hfind⟩, by simp [hexp]⟩
    · refine .inr ⟨fun hshown => ?_, waiting_iff.mpr ⟨r, hnext⟩, ⟨_, hid⟩, by simp [hexp]⟩
      obtain ⟨r', hr'⟩ := shown_iff.mp hshown
      rw [hfind] at hr'
      cases hr'
  · rintro (⟨hshown, hexp⟩ | ⟨hshown, hwaiting, ⟨leaseId, hid⟩, hexp⟩)
    · obtain ⟨r, hfind⟩ := shown_iff.mp hshown
      obtain ⟨-, -, -, p, hp, -⟩ := findResumableRequest_spec hfind
      obtain ⟨t, ht⟩ := Option.ne_none_iff_exists'.mp hexp
      exact ⟨_, congrArg Prod.fst (pullNextRequest_resume c env s hw hfind hp ht)⟩
    · obtain ⟨r, hnext⟩ := waiting_iff.mp hwaiting
      obtain ⟨t, ht⟩ := Option.ne_none_iff_exists'.mp hexp
      have hfind : findResumableRequest env w s = none :=
        Option.eq_none_iff_forall_not_mem.mpr fun r hr => hshown (shown_iff.mpr ⟨r, hr⟩)
      let lease : DeliveryLease := ⟨leaseId, t⟩
      have hid' : env.newDeliveryLeaseId = .ok lease.deliveryLeaseId := hid
      exact ⟨_, congrArg Prod.fst (pullNextRequest_claim c env s hw hfind hnext hid' ht)⟩

end Store

/-! ## The two commands, one after the other -/

def Announces (c : Coordinator) (env : Env) (w : WalletInstanceId) (s : Store) : Prop :=
  c.reply s ⟨env, .requestHasAvailable w⟩ = .ok (.requestHasAvailable ⟨w, true⟩)

def Delivers (c : Coordinator) (env : Env) (w : WalletInstanceId) (s : Store) : Prop :=
  ∃ p, c.reply s ⟨env, .pullNextRequest w⟩ = .ok (.pullNextRequest ⟨w, some p⟩)

/-- Nothing keeps back what the statuses promise: what is shown can be shown for longer, what waits
can be leased, and no request hangs between a presentation lease that is over and its requeuing. -/
structure Unobstructed (c : Coordinator) (env : Env) (w : WalletInstanceId) (t : TimestampMs)
    (s : Store) : Prop where
  shown : Shown s w t → checkedAddSeconds t c.config.presentationLeaseTtl ≠ none
  waiting : ¬ Shown s w t → Waiting s w → CanLease c env t
  lapsed : ¬ Shown s w t → Pending s w → Waiting s w

section Commands

variable {c : Coordinator} {env : Env} {w : WalletInstanceId} {s : Store}

theorem announces_iff : Announces c env w s ↔ Waiting s w ∨ Pending s w := by
  have hanswer : (requestHasAvailable env w s).available = true ↔ Waiting s w ∨ Pending s w :=
    requestHasAvailable_iff
  rw [← hanswer]
  constructor
  · intro h
    have hresult : requestHasAvailable env w s = ⟨w, true⟩ := by simpa using Except.ok.inj h
    rw [hresult]
  · intro h
    refine congrArg (fun a => Except.ok (CoordinatorResponse.requestHasAvailable a)) ?_
    show RequestHasAvailableResult.mk w _ = _
    exact congrArg _ h

theorem delivers_iff (hw : s.getWalletInstance w ≠ none) : Delivers c env w s ↔
    (Shown s w (env.now 1) ∧ checkedAddSeconds (env.now 0) c.config.presentationLeaseTtl ≠ none) ∨
    (¬ Shown s w (env.now 1) ∧ Waiting s w ∧ CanLease c env (env.now 2)) := by
  rw [← pullNextRequest_some_iff hw]
  refine exists_congr fun p => ?_
  have hreply : c.reply s ⟨env, .pullNextRequest w⟩ =
      (c.pullNextRequest env w s).1.map CoordinatorResponse.pullNextRequest := by
    simp [Coordinator.reply, dispatch]
  rw [hreply]
  cases (c.pullNextRequest env w s).1 with
  | error e => simp [Except.map]
  | ok x => simp [Except.map]

end Commands

/-- A registered wallet is told that a request is available exactly when a pull right afterwards,
the clock standing still, returns one; unless something obstructs the delivery. -/
theorem availability_agrees_with_delivery_iff (c : Coordinator) (s : Store) (w : WalletInstanceId)
    (t : TimestampMs) (asked pulled : Env) (hw : s.getWalletInstance w ≠ none)
    (hclock : ∀ i, pulled.now i = t) :
    (Announces c asked w s ↔ Delivers c pulled w (c.step s ⟨asked, .requestHasAvailable w⟩)) ↔
      Unobstructed c pulled w t s := by
  have hsame : c.step s ⟨asked, .requestHasAvailable w⟩ = s := rfl
  rw [hsame, announces_iff, delivers_iff hw, hclock 0, hclock 1, hclock 2]
  by_cases hshown : Shown s w t
  · have hpending := hshown.pending
    constructor
    · intro h
      have hexp := (h.mp (.inr hpending)).resolve_right fun hcase => hcase.1 hshown
      exact ⟨fun _ => hexp.2, fun hnot => absurd hshown hnot, fun hnot => absurd hshown hnot⟩
    · intro h
      exact ⟨fun _ => .inl ⟨hshown, h.shown hshown⟩, fun _ => .inr hpending⟩
  · constructor
    · intro h
      -- without a request being shown, only a waiting one can have been delivered
      have hdelivered : Waiting s w ∨ Pending s w → Waiting s w ∧ CanLease c pulled t := fun havail =>
        ((h.mp havail).resolve_left fun hcase => hshown hcase.1).2
      exact ⟨fun hyes => absurd hyes hshown, fun _ hwait => (hdelivered (.inl hwait)).2,
        fun _ hpend => (hdelivered (.inr hpend)).1⟩
    · intro h
      constructor
      · rintro (hwait | hpend)
        · exact .inr ⟨hshown, hwait, h.waiting hshown hwait⟩
        · have hwait := h.lapsed hshown hpend
          exact .inr ⟨hshown, hwait, h.waiting hshown hwait⟩
      · rintro (⟨hyes, -⟩ | ⟨-, hwait, -⟩)
        · exact absurd hyes hshown
        · exact .inl hwait

namespace Session

/-- The request is presented at 2000 and nothing is heard of it until its lease is over at 47000. -/
def presenting : List Step := [register 0, create 0, pull 1000 lease₁, present 2000 lease₁]

theorem presenting_pending : Pending (coordinator.run presenting) wallet := by
  have hrow : (coordinator.run presenting).requests.rows.any (fun r =>
      decide (r.walletInstanceId = wallet ∧ r.status = .pendingUserApproval)) = true := by decide +kernel
  obtain ⟨r, hr, h⟩ := List.any_eq_true.mp hrow
  exact ⟨r, hr, of_decide_eq_true h⟩

theorem presenting_not_delivered : ¬ Delivers coordinator (env 47000 lease₂) wallet
    (coordinator.run presenting) := by
  rintro ⟨p, hp⟩
  have hreply : coordinator.reply (coordinator.run presenting) ⟨env 47000 lease₂, .pullNextRequest wallet⟩ =
      .ok (.pullNextRequest ⟨wallet, none⟩) := by decide +kernel
  rw [hreply] at hp
  cases hp

end Session

open Session in
/-- While the lease of the presentation runs the two agree. -/
theorem availability_agrees_while_shown :
    (Announces coordinator (env 3000 lease₂) wallet (coordinator.run presenting) ↔
      Delivers coordinator (env 3000 lease₂) wallet (coordinator.step (coordinator.run presenting)
        ⟨env 3000 lease₂, .requestHasAvailable wallet⟩)) := by
  refine (availability_agrees_with_delivery_iff coordinator (coordinator.run presenting) wallet 3000
    (env 3000 lease₂) (env 3000 lease₂) (by decide +kernel) (fun _ => rfl)).mpr ?_
  have hshown : Shown (coordinator.run presenting) wallet 3000 := by
    have hfind : (findResumableRequest (env 3000 lease₂) wallet (coordinator.run presenting)).isSome =
        true := by decide +kernel
    obtain ⟨r, hr⟩ := Option.isSome_iff_exists.mp hfind
    exact ⟨r, findResumableRequest_spec hr⟩
  exact ⟨fun _ => by decide, fun h => absurd hshown h, fun h => absurd hshown h⟩

open Session in
/-- The lease of the presentation is over and no tick came: the request is announced but not
delivered. -/
theorem announced_but_not_delivered :
    ¬ ∀ (c : Coordinator) (steps : List Step) (w : WalletInstanceId) (t : TimestampMs) (asked pulled : Env),
      (c.run steps).getWalletInstance w ≠ none → (∀ i, pulled.now i = t) →
        (Announces c asked w (c.run steps) ↔
          Delivers c pulled w (c.step (c.run steps) ⟨asked, .requestHasAvailable w⟩)) := by
  intro h
  have hsession := h coordinator presenting wallet 47000 (env 47000 lease₂) (env 47000 lease₂)
    (by decide +kernel) (fun _ => rfl)
  exact presenting_not_delivered (hsession.mp (announces_iff.mpr (.inr presenting_pending)))

end StarcoinMcp.Starmask
