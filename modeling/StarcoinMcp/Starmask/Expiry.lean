import StarcoinMcp.Starmask.Runs

/-! The two deadlines of a request. Nothing but the tick looks at `expires_at`, and a
heartbeat never looks at `presentation_expires_at`: which runs respect the deadlines
is characterised exactly, by a condition on each command and the store it meets. -/

namespace StarcoinMcp.Starmask

open Coordinator

/-! ## The time to live -/

/-- From its `expires_at` on, a request keeps its status or ends without approval. -/
def TtlRespected (c : Coordinator) (s : Store) (x : Step) : Prop :=
  ∀ id r r', s.getRequest id = some r → (c.step s x).getRequest id = some r' →
    r.expiresAt ≤ x.env.now 0 →
    r'.status = r.status ∨ r'.status = .expired ∨ r'.status = .cancelled ∨ r'.status = .rejected ∨
      r'.status = .failed

/-- A command that claims, presents or resolves a request finds it before its `expires_at`. -/
def InTime (c : Coordinator) (env : Env) (s : Store) : CoordinatorCommand → Prop
  | .pullNextRequest w => ∀ r leaseId t, s.getWalletInstance w ≠ none →
      findResumableRequest env w s = none → s.nextCreatedRequest env.requestScan w = some r →
      env.newDeliveryLeaseId = .ok leaseId →
      checkedAddSeconds (env.now 2) c.config.deliveryLeaseTtl = some t → env.now 0 < r.expiresAt
  | .markRequestPresented m => ∀ r leaseId t,
      requireOwnedRequest m.requestId m.walletInstanceId s = .ok r → r.status = .dispatched →
      m.deliveryLeaseId = some leaseId → validateDeliveryLease r leaseId (env.now 0) = .ok () →
      checkedAddSeconds (env.now 0) c.config.presentationLeaseTtl = some t → env.now 0 < r.expiresAt
  | .resolveRequest m => ∀ r, requireOwnedRequest m.requestId m.walletInstanceId s = .ok r →
      validateRequestResult r m.result = .ok () →
      validatePresentation r m.presentationId (env.now 0) = .ok () → env.now 0 < r.expiresAt
  | _ => True

section Ttl

variable {c : Coordinator} {s : Store}

theorem getRequest_writeRequest_self {r r' : RequestRecord} (hr : s.getRequest r.requestId = some r)
    (hid : r'.requestId = r.requestId) (hc : r'.clientRequestId = r.clientRequestId) :
    (s.writeRequest r').getRequest r.requestId = some r' := by
  rw [Store.getRequest_writeRequest (rewritable_of_getRequest hr hid hc), if_pos hid.symm]

theorem presentedRecord_of_dispatched {env : Env} {m : MarkRequestPresentedCommand} {r : RequestRecord}
    {leaseId : DeliveryLeaseId} {t : TimestampMs} (hstatus : r.status = .dispatched)
    (hlease : m.deliveryLeaseId = some leaseId)
    (hvalid : validateDeliveryLease r leaseId (env.now 0) = .ok ())
    (hexp : checkedAddSeconds (env.now 0) c.config.presentationLeaseTtl = some t) :
    c.presentedRecord env m r = .ok (r.presented ⟨m.presentationId, t⟩ (env.now 0)) := by
  have hedge : r.status.canTransitionTo .pendingUserApproval = true := by
    rw [hstatus]
    rfl
  unfold presentedRecord addLease
  rw [hstatus, hlease, hexp]
  dsimp only
  rw [hvalid, transitionRequest_of_edge _ hedge]
  rfl

theorem resolvedRecord_of_valid {env : Env} {m : ResolveRequestCommand} {r : RequestRecord}
    (hresult : validateRequestResult r m.result = .ok ())
    (hvalid : validatePresentation r m.presentationId (env.now 0) = .ok ()) :
    c.resolvedRecord env m r = .ok (r.resolved m.result (env.now 0)
      (checkedAddSeconds (env.now 0) c.config.resultRetention)) := by
  have hedge : r.status.canTransitionTo .approved = true := by
    rw [(validatePresentation_ok hvalid).1]
    rfl
  unfold resolvedRecord
  rw [hresult, hvalid, transitionRequest_of_edge _ hedge]
  rfl

theorem validateRequestResult_of_kind {r : RequestRecord} {x : RequestResult}
    (h : r.kind.expectedResultKind = x.resultKind) : validateRequestResult r x = .ok () := by
  unfold validateRequestResult
  rw [if_neg (not_not.mpr h)]

theorem rejected_status (r : RequestRecord) (command : RejectRequestCommand) (now : TimestampMs) :
    (r.rejected command now).status = .expired ∨ (r.rejected command now).status = .cancelled ∨
      (r.rejected command now).status = .rejected ∨ (r.rejected command now).status = .failed := by
  cases h : command.reasonCode <;> simp [RequestRecord.rejected, h, mapRejectReason]

theorem ttlRespected_of_inTime {x : Step} (hs : s.WellFormed) (h : InTime c x.env s x.command) :
    TtlRespected c s x := by
  intro id r r' hr hr' hdue
  obtain ⟨r₁, hr₁, hstep⟩ := step_request (c := c) hs hr x
  obtain rfl : r₁ = r' := Option.some.inj (hr₁.symm.trans hr')
  rcases hstep with rfl | hedit
  · exact .inl rfl
  · obtain ⟨env, command⟩ := x
    dsimp only at h hedit hdue
    generalize c.reply s ⟨env, command⟩ = answer at hedit
    cases hedit with
    | claim hreg hres hnext hw hs hid hexp =>
      exact absurd hdue (not_le.mpr (h r _ _ hreg hres hnext hid hexp))
    | present hid hw hst hl hm hlive hexp =>
      exact absurd hdue (not_le.mpr (h r _ _ (requireOwnedRequest_of_owned hr hid hw) hst hm
        (validateDeliveryLease_of_live hl hlive) hexp))
    | resolve hid hw hst hp hm hlive hk =>
      have hresult := validateRequestResult_of_kind hk
      have hvalid := validatePresentation_of_live hst hp hlive
      rw [hm] at hvalid
      exact absurd hdue (not_le.mpr (h r (requireOwnedRequest_of_owned hr hid hw) hresult hvalid))
    | resume | represent | heartbeat | evict => exact .inl rfl
    | reject => exact .inr (rejected_status ..)
    | cancel => exact .inr (.inr (.inl rfl))
    | expire => exact .inr (.inl rfl)
    | release hlive => exact absurd hdue (not_le.mpr hlive)

theorem step_pull_claim {env : Env} {w : WalletInstanceId} {r : RequestRecord} {lease : DeliveryLease}
    (hwallet : s.getWalletInstance w ≠ none) (hfind : findResumableRequest env w s = none)
    (hnext : s.nextCreatedRequest env.requestScan w = some r)
    (hid : env.newDeliveryLeaseId = .ok lease.deliveryLeaseId)
    (hexp : checkedAddSeconds (env.now 2) c.config.deliveryLeaseTtl = some lease.deliveryLeaseExpiresAt) :
    (c.step s ⟨env, .pullNextRequest w⟩).getRequest r.requestId = some (r.claimed lease (env.now 0)) := by
  have hr := Store.mem_requests_iff.mp (nextCreatedRequest_spec hnext).1
  unfold step
  simp only [dispatch, FailState.map_apply]
  rw [pullNextRequest_claim c env s hwallet hfind hnext hid hexp]
  exact getRequest_writeRequest_self hr rfl rfl

theorem step_present {env : Env} {m : MarkRequestPresentedCommand} {r : RequestRecord}
    {leaseId : DeliveryLeaseId} {t : TimestampMs}
    (hown : requireOwnedRequest m.requestId m.walletInstanceId s = .ok r)
    (hstatus : r.status = .dispatched) (hlease : m.deliveryLeaseId = some leaseId)
    (hvalid : validateDeliveryLease r leaseId (env.now 0) = .ok ())
    (hexp : checkedAddSeconds (env.now 0) c.config.presentationLeaseTtl = some t) :
    (c.step s ⟨env, .markRequestPresented m⟩).getRequest r.requestId =
      some (r.presented ⟨m.presentationId, t⟩ (env.now 0)) := by
  have hr := (requireOwnedRequest_eq_ok hown).1
  rw [← Store.getRequest_requestId hr] at hr
  unfold step
  simp only [dispatch, FailState.map_apply]
  rw [markRequestPresented_eq,
    rewriteOwned_ok hown (presentedRecord_of_dispatched hstatus hlease hvalid hexp) rfl rfl]
  exact getRequest_writeRequest_self hr rfl rfl

theorem step_resolve {env : Env} {m : ResolveRequestCommand} {r : RequestRecord}
    (hown : requireOwnedRequest m.requestId m.walletInstanceId s = .ok r)
    (hresult : validateRequestResult r m.result = .ok ())
    (hvalid : validatePresentation r m.presentationId (env.now 0) = .ok ()) :
    (c.step s ⟨env, .resolveRequest m⟩).getRequest r.requestId = some (r.resolved m.result (env.now 0)
      (checkedAddSeconds (env.now 0) c.config.resultRetention)) := by
  have hr := (requireOwnedRequest_eq_ok hown).1
  rw [← Store.getRequest_requestId hr] at hr
  unfold step
  simp only [dispatch, FailState.map_apply]
  rw [resolveRequest_eq, rewriteOwned_ok hown (resolvedRecord_of_valid hresult hvalid) rfl rfl]
  exact getRequest_writeRequest_self hr rfl rfl

/-- Each of the three commands that look past the deadline does move the request. -/
theorem inTime_of_ttlRespected {x : Step} (h : TtlRespected c s x) : InTime c x.env s x.command := by
  obtain ⟨env, command⟩ := x
  cases command with
  | pullNextRequest w =>
    intro r leaseId t hreg hres hnext hid hexp
    have hr := Store.mem_requests_iff.mp (nextCreatedRequest_spec hnext).1
    have hcreated := (nextCreatedRequest_spec hnext).2.2
    have hstep : (c.step s ⟨env, .pullNextRequest w⟩).getRequest r.requestId =
        some (r.claimed ⟨leaseId, t⟩ (env.now 0)) := step_pull_claim hreg hres hnext hid hexp
    by_contra hlate
    have hbad := h _ r _ hr hstep (not_lt.mp hlate)
    simp [RequestRecord.claimed, hcreated] at hbad
  | markRequestPresented m =>
    intro r leaseId t hown hstatus hlease hvalid hexp
    have hr := (requireOwnedRequest_eq_ok hown).1
    rw [← Store.getRequest_requestId hr] at hr
    have hstep := step_present (c := c) hown hstatus hlease hvalid hexp
    by_contra hlate
    have hbad := h _ r _ hr hstep (not_lt.mp hlate)
    simp [RequestRecord.presented, hstatus] at hbad
  | resolveRequest m =>
    intro r hown hresult hvalid
    have hr := (requireOwnedRequest_eq_ok hown).1
    rw [← Store.getRequest_requestId hr] at hr
    have hpending := (validatePresentation_ok hvalid).1
    have hstep := step_resolve (c := c) hown hresult hvalid
    by_contra hlate
    have hbad := h _ r _ hr hstep (not_lt.mp hlate)
    simp [RequestRecord.resolved, hpending] at hbad
  | _ => trivial

/-- A run respects the time to live of every request exactly when all of its claims,
presentations and resolutions come in time. -/
theorem run_ttlRespected_iff (c : Coordinator) (steps : List Step) :
    Trace.Along c.step (TtlRespected c) Store.empty steps ↔
      Trace.Along c.step (fun s x => InTime c x.env s x.command) Store.empty steps := by
  constructor
  · intro h
    exact Trace.along_of_split fun ys x zs e => inTime_of_ttlRespected (e ▸ h).at_split
  · intro h
    refine Trace.along_of_split fun ys x zs e => ?_
    exact ttlRespected_of_inTime (run_wellFormed c ys) (e ▸ h).at_split

open Session in
/-- No tick came between the deadline and the pull, and the request is delivered at its deadline. -/
theorem pull_claims_expired_request :
    ¬ Trace.Along coordinator.step (TtlRespected coordinator) Store.empty
      [register 0, create 0, pull 60000 lease₁] := by
  intro h
  have hlast : TtlRespected coordinator (coordinator.run [register 0, create 0]) (pull 60000 lease₁) :=
    h.2.2.1
  have hbefore : ((coordinator.run [register 0, create 0]).getRequest request).map
      (fun r => (r.status, r.expiresAt)) = some (.created, 60000) := by decide +kernel
  have hafter : ((coordinator.step (coordinator.run [register 0, create 0])
      (pull 60000 lease₁)).getRequest request).map RequestRecord.status = some .dispatched := by
    decide +kernel
  obtain ⟨r, hr, hfields⟩ := Option.map_eq_some_iff.mp hbefore
  obtain ⟨r', hr', hstatus⟩ := Option.map_eq_some_iff.mp hafter
  obtain ⟨hcreated, hexpires⟩ := Prod.mk.inj hfields
  have hbad := hlast request r r' hr hr' (le_of_eq hexpires)
  simp [hstatus, hcreated] at hbad

end Ttl

/-! ## The presentation lease -/

/-- The expiry of a presentation only ever moves on while it has not been reached. -/
def ExtendsLiveOnly (c : Coordinator) (s : Store) (x : Step) : Prop :=
  ∀ id r r' p p', s.getRequest id = some r → r.status = .pendingUserApproval →
    r.presentation = some p → (c.step s x).getRequest id = some r' → r'.presentation = some p' →
    p'.presentationId = p.presentationId → p.presentationExpiresAt < p'.presentationExpiresAt →
    x.env.now 0 < p.presentationExpiresAt

/-- A heartbeat names no presentation of its wallet that has run out, unless it would not extend it. -/
def HeartbeatsLive (c : Coordinator) (env : Env) (s : Store) (command : CoordinatorCommand) : Prop :=
  ∀ w ids t, command.heartbeat? = some (w, ids) → s.getWalletInstance w ≠ none →
    checkedAddSeconds (env.now 0) c.config.presentationLeaseTtl = some t →
    ∀ id ∈ ids, ∀ r p, s.getRequest id = some r → r.walletInstanceId = w →
      r.status = .pendingUserApproval → r.presentation = some p → p.presentationExpiresAt < t →
      env.now 0 < p.presentationExpiresAt

section Presentation

variable {c : Coordinator} {s : Store}

theorem extendsLiveOnly_of_heartbeatsLive {x : Step} (hs : s.WellFormed)
    (h : HeartbeatsLive c x.env s x.command) : ExtendsLiveOnly c s x := by
  intro id r r' p p' hr hpending hp hr' hp' _ hlt
  obtain ⟨r₁, hr₁, hstep⟩ := step_request (c := c) hs hr x
  obtain rfl : r₁ = r' := Option.some.inj (hr₁.symm.trans hr')
  obtain ⟨env, command⟩ := x
  dsimp only at h hstep ⊢
  generalize c.reply s ⟨env, command⟩ = answer at hstep
  rcases hstep with rfl | hedit
  · obtain rfl : p = p' := Option.some.inj (hp.symm.trans hp')
    exact absurd hlt (lt_irrefl _)
  · cases hedit with
    | resume _ _ _ _ hq hlive =>
      obtain rfl := Option.some.inj (hp.symm.trans hq)
      exact lt_of_le_of_lt (env.monotone (Nat.zero_le 1)) hlive
    | represent _ _ _ hq _ _ hlive =>
      obtain rfl := Option.some.inj (hp.symm.trans hq)
      exact hlive
    | heartbeat hcommand hreg hid hw _ hq hexp =>
      obtain rfl := Option.some.inj hp'
      obtain rfl := Option.some.inj (hp.symm.trans hq)
      rw [Store.getRequest_requestId hr] at hid
      exact h _ _ _ hcommand hreg hexp id hid r p hr hw hpending hp hlt
    | claim _ _ _ _ hst => exact absurd (hpending.symm.trans hst) (by decide)
    | present _ _ hst => exact absurd (hpending.symm.trans hst) (by decide)
    | evict hst => exact absurd (hpending.symm.trans hst) (by decide)
    | resolve | reject | cancel | expire | release => cases hp'

/-- The loop of a heartbeat that finds its wallet registered. -/
theorem step_heartbeat {env : Env} {command : CoordinatorCommand} {w : WalletInstanceId}
    {ids : List RequestId} {t : TimestampMs} (hcommand : command.heartbeat? = some (w, ids))
    (hreg : s.getWalletInstance w ≠ none)
    (ht : checkedAddSeconds (env.now 0) c.config.presentationLeaseTtl = some t) {id : RequestId}
    (hid : id ∈ ids) {r : RequestRecord} (hr : s.getRequest id = some r) :
    (c.step s ⟨env, command⟩).getRequest id = some (r.heartbeaten w (env.now 0) t) := by
  obtain ⟨h, hh, hstep⟩ : ∃ h : HeartbeatBackendCommand,
      (h.walletInstanceId, h.presentedRequestIds) = (w, ids) ∧
      c.step s ⟨env, command⟩ = (c.heartbeatBackend env h s).2 := by
    unfold step
    cases command <;> simp only [CoordinatorCommand.heartbeat?, reduceCtorEq, Option.some.injEq] at hcommand
    case heartbeatExtension h =>
      exact ⟨⟨h.walletInstanceId, h.presentedRequestIds, none⟩, hcommand,
        by simp only [dispatch, FailState.map_apply, heartbeatExtension]⟩
    case heartbeatBackend h =>
      exact ⟨h, hcommand, by simp only [dispatch, FailState.map_apply]⟩
  obtain ⟨rfl, rfl⟩ := Prod.mk.inj hh
  rw [hstep]
  rcases heartbeatBackend_cases c env s h with ⟨hreason, -⟩ |
    ⟨t', s₁, s', -, ht', hs₁, hrun, hrw⟩
  · rcases hreason with hnone | hempty | hover
    · exact absurd hnone hreg
    · rw [hempty] at hid
      cases hid
    · rw [ht] at hover
      cases hover
  · obtain rfl : t' = t := Option.some.inj (ht'.symm.trans ht)
    have hget : s₁.getRequest id = some r := by
      unfold Store.getRequest at hr ⊢
      rw [hs₁, hr]
    rw [hrun, hrw.requests, hget, Option.map_some, Store.getRequest_requestId hr, if_pos hid]

theorem heartbeatsLive_of_extendsLiveOnly {x : Step} (h : ExtendsLiveOnly c s x) :
    HeartbeatsLive c x.env s x.command := by
  obtain ⟨env, command⟩ := x
  intro w ids t hcommand hreg ht id hid r p hr hw hpending hp hlt
  have hstep := step_heartbeat (c := c) hcommand hreg ht hid hr
  have hbeat : r.heartbeaten w (env.now 0) t = r.extended p t (env.now 0) := by
    simp [RequestRecord.heartbeaten, hw, hpending, hp]
  rw [hbeat] at hstep
  exact h id r _ p ⟨p.presentationId, t⟩ hr hpending hp hstep rfl rfl hlt

/-- The request is not back in the queue at this point of the run. -/
def NotCreated (c : Coordinator) (id : RequestId) (steps : List Step) : Prop :=
  ∀ r, (c.run steps).getRequest id = some r → r.status ≠ .created

/-- A presentation that has run out by `now` is not valid again later, unless the request goes back
to the queue first. -/
def StaysExpired (c : Coordinator) (steps : List Step) : Prop :=
  ∀ before after now id r p, steps = before ++ after → (c.run before).getRequest id = some r →
    r.status = .pendingUserApproval → r.presentation = some p → p.presentationExpiresAt ≤ now →
    (∀ x ∈ after, now ≤ x.env.now 0) → Trace.Throughout (NotCreated c id) before after →
    ∀ r' p', (c.run steps).getRequest id = some r' → r'.presentation = some p' →
      p'.presentationExpiresAt ≤ now

/-- Decided, or presented by a presentation that has run out. -/
def PresentationOver (now : TimestampMs) (r : RequestRecord) : Prop :=
  r.status.isTerminal = true ∨ (r.status = .pendingUserApproval ∧
    ∃ p, r.presentation = some p ∧ p.presentationExpiresAt ≤ now)

/-- An extension of a presentation that is over leaves it over. -/
theorem presentationOver_extended {x : Step} {id : RequestId} {r : RequestRecord} {now t : TimestampMs}
    {p q : PresentationLease} (hext : ExtendsLiveOnly c s x) (hclock : now ≤ x.env.now 0)
    (hr : s.getRequest id = some r) (hpending : r.status = .pendingUserApproval)
    (hp : r.presentation = some p) (hover : p.presentationExpiresAt ≤ now) (hq : r.presentation = some q)
    (hr' : (c.step s x).getRequest id = some (r.extended q t (x.env.now 0))) :
    PresentationOver now (r.extended q t (x.env.now 0)) := by
  obtain rfl : p = q := Option.some.inj (hp.symm.trans hq)
  refine .inr ⟨hpending, ⟨p.presentationId, t⟩, rfl, ?_⟩
  by_contra hlate
  have hlt : p.presentationExpiresAt < t := lt_of_le_of_lt hover (not_le.mp hlate)
  have hlive := hext id r _ p ⟨p.presentationId, t⟩ hr hpending hp hr' rfl rfl hlt
  exact absurd (lt_of_lt_of_le hlive hover) (not_lt.mpr hclock)

theorem presentationOver_step {x : Step} {id : RequestId} {r r' : RequestRecord} {now : TimestampMs}
    (hs : s.WellFormed) (hext : ExtendsLiveOnly c s x) (hclock : now ≤ x.env.now 0)
    (hr : s.getRequest id = some r) (hover : PresentationOver now r)
    (hr' : (c.step s x).getRequest id = some r') (hqueue : r'.status ≠ .created) :
    PresentationOver now r' := by
  obtain ⟨r₁, hr₁, hstep⟩ := step_request (c := c) hs hr x
  obtain rfl : r₁ = r' := Option.some.inj (hr₁.symm.trans hr')
  rcases hstep with rfl | hedit
  · exact hover
  · rcases hover with hterm | ⟨hpending, p, hp, hdue⟩
    · rcases hedit.live_or_evicted with hlive | ⟨-, -, -, -, rfl⟩
      · rw [hterm] at hlive
        cases hlive
      · exact .inl hterm
    · obtain ⟨env, command⟩ := x
      have hextended : ∀ q t, r.presentation = some q →
          (c.step s ⟨env, command⟩).getRequest id = some (r.extended q t (env.now 0)) →
          PresentationOver now (r.extended q t (env.now 0)) := fun q t hq hget =>
        presentationOver_extended (x := ⟨env, command⟩) hext hclock hr hpending hp hdue hq hget
      dsimp only at hedit
      generalize c.reply s ⟨env, command⟩ = answer at hedit
      cases hedit with
      | resume _ _ _ _ hq => exact hextended _ _ hq hr'
      | represent _ _ _ hq => exact hextended _ _ hq hr'
      | heartbeat _ _ _ _ _ hq => exact hextended _ _ hq hr'
      | claim _ _ _ _ hst => exact absurd (hpending.symm.trans hst) (by decide)
      | present _ _ hst => exact absurd (hpending.symm.trans hst) (by decide)
      | evict hst => exact absurd (hpending.symm.trans hst) (by decide)
      | release => exact absurd rfl hqueue
      | reject =>
        rcases rejected_status r _ (env.now 0) with h | h | h | h <;> exact .inl (by rw [h]; rfl)
      | resolve | cancel | expire => exact .inl rfl

theorem presentationOver_run {before : List Step} {id : RequestId} {r : RequestRecord}
    {p : PresentationLease} {now : TimestampMs} (hr : (c.run before).getRequest id = some r)
    (hpending : r.status = .pendingUserApproval) (hp : r.presentation = some p)
    (hdue : p.presentationExpiresAt ≤ now) (after : List Step)
    (h : Trace.Along c.step (ExtendsLiveOnly c) Store.empty (before ++ after))
    (hclock : ∀ x ∈ after, now ≤ x.env.now 0) (hqueue : Trace.Throughout (NotCreated c id) before after) :
    ∀ r', (c.run (before ++ after)).getRequest id = some r' → PresentationOver now r' := by
  induction after using List.reverseRecOn with
  | nil =>
    intro r₁ hr₁
    rw [List.append_nil] at hr₁
    obtain rfl : r = r₁ := Option.some.inj (hr.symm.trans hr₁)
    exact .inr ⟨hpending, p, hp, hdue⟩
  | append_singleton after x ih =>
    intro r₂ hr₂
    rw [← List.append_assoc] at h hr₂
    obtain ⟨r₁, hr₁, -⟩ := run_identity before after hr
    have hover := ih (Trace.along_append.mp h).1 (fun y hy => hclock y (List.mem_append_left _ hy))
      hqueue.init r₁ hr₁
    have hlast := hqueue.last
    rw [← List.append_assoc] at hlast
    have hnot := hlast r₂ hr₂
    rw [run_snoc] at hr₂
    exact presentationOver_step (run_wellFormed c _) h.at_split (hclock x (by simp)) hr₁ hover hr₂ hnot

theorem staysExpired_of_extendsLiveOnly {steps : List Step}
    (h : Trace.Along c.step (ExtendsLiveOnly c) Store.empty steps) : StaysExpired c steps := by
  intro before after now id r p hsteps hr hpending hp hdue hclock hqueue r' p' hr' hp'
  subst hsteps
  rcases presentationOver_run hr hpending hp hdue after h hclock hqueue r' hr' with hterm | ⟨-, q, hq, hle⟩
  · have hnone := ((run_wellFormed c _ id r' hr').terminal hterm).2
    rw [hp'] at hnone
    cases hnone
  · obtain rfl : p' = q := Option.some.inj (hp'.symm.trans hq)
    exact hle

/-- Presentations are extended only while they are live exactly when every heartbeat keeps to live
presentations; and in such a run a presentation that has run out stays so. -/
theorem run_extendsLiveOnly_iff (c : Coordinator) (steps : List Step) :
    (Trace.Along c.step (ExtendsLiveOnly c) Store.empty steps ↔
      Trace.Along c.step (fun s x => HeartbeatsLive c x.env s x.command) Store.empty steps) ∧
    (Trace.Along c.step (fun s x => HeartbeatsLive c x.env s x.command) Store.empty steps →
      StaysExpired c steps) := by
  have hiff : Trace.Along c.step (ExtendsLiveOnly c) Store.empty steps ↔
      Trace.Along c.step (fun s x => HeartbeatsLive c x.env s x.command) Store.empty steps := by
    constructor
    · intro h
      exact Trace.along_of_split fun ys x zs e => heartbeatsLive_of_extendsLiveOnly (e ▸ h).at_split
    · intro h
      refine Trace.along_of_split fun ys x zs e => ?_
      exact extendsLiveOnly_of_heartbeatsLive (run_wellFormed c ys) (e ▸ h).at_split
  exact ⟨hiff, fun h => staysExpired_of_extendsLiveOnly (hiff.mpr h)⟩

open Session in
/-- The presentation ran out at 47000, and a heartbeat at 50000 makes it valid until 95000. -/
theorem heartbeat_revives_presentation :
    ¬ Trace.Along coordinator.step (ExtendsLiveOnly coordinator) Store.empty
      [register 0, create 0, pull 1000 lease₁, present 2000 lease₁, heartbeat 50000] := by
  intro h
  have hlast : ExtendsLiveOnly coordinator
      (coordinator.run [register 0, create 0, pull 1000 lease₁, present 2000 lease₁])
      (heartbeat 50000) := h.2.2.2.2.1
  have hbefore : ((coordinator.run
      [register 0, create 0, pull 1000 lease₁, present 2000 lease₁]).getRequest request).map
      (fun r => (r.status, r.presentation)) =
        some (.pendingUserApproval, some ⟨presentation, 47000⟩) := by decide +kernel
  have hafter : ((coordinator.step (coordinator.run
      [register 0, create 0, pull 1000 lease₁, present 2000 lease₁]) (heartbeat 50000)).getRequest
      request).map RequestRecord.presentation = some (some ⟨presentation, 95000⟩) := by decide +kernel
  obtain ⟨r, hr, hfields⟩ := Option.map_eq_some_iff.mp hbefore
  obtain ⟨r', hr', hp'⟩ := Option.map_eq_some_iff.mp hafter
  obtain ⟨hpending, hp⟩ := Prod.mk.inj hfields
  have hbad := hlast request r r' _ _ hr hpending hp hr' hp' rfl (by decide)
  exact absurd hbad (by decide)

end Presentation

end StarcoinMcp.Starmask
