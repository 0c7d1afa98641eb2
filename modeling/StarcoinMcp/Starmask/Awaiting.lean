import StarcoinMcp.Starmask.Expiry

/-! A request that waits for its user's decision, from the daemon's side: what ends the wait, and
that an approval is for good. -/

namespace StarcoinMcp.Starmask

open Coordinator

/-- The request waits for the decision of its user, under this presentation. -/
structure RequestRecord.Awaits (r : RequestRecord) (presentationId : PresentationId) : Prop where
  status : r.status = .pendingUserApproval
  presentation : r.presentation.map PresentationLease.presentationId = some presentationId

section Edits

variable {c : Coordinator} {env : Env} {s : Store} {command : CoordinatorCommand}
  {answer : CoreResult CoordinatorResponse} {r r' : RequestRecord} {presentationId : PresentationId}

theorem kind_of_identity (h : r'.identity = r.identity) : r'.kind = r.kind := congrArg (·.2.2.1) h

theorem awaits_extended {p : PresentationLease} {t now : TimestampMs} (h : r.Awaits presentationId)
    (hp : r.presentation = some p) : (r.extended p t now).Awaits presentationId := by
  refine ⟨h.status, ?_⟩
  have hid := h.presentation
  rw [hp] at hid
  exact hid

/-- What ends the wait of a request without approving it. -/
inductive GivesUp (env : Env) (r : RequestRecord) : CoordinatorCommand → Prop
  | cancel : GivesUp env r (.cancelRequest r.requestId)
  | reject {m : RejectRequestCommand} (hid : m.requestId = r.requestId)
      (hwallet : m.walletInstanceId = r.walletInstanceId) (hcheck : validateReject env m r = .ok ()) :
      GivesUp env r (.rejectRequest m)
  | expire (hdue : r.expiresAt ≤ env.now 0) : GivesUp env r .tickMaintenance
  | release (hdue : presentationExpired (env.now 0) r = true) : GivesUp env r .tickMaintenance

theorem Edit.of_awaits (h : Edit c env s command answer r r') (hr : r.Awaits presentationId) :
    r'.Awaits presentationId ∨ r'.status = .approved ∨ GivesUp env r command := by
  have hstatus := hr.status
  cases h with
  | claim _ _ _ _ hs =>
    rw [hstatus] at hs
    cases hs
  | resume _ _ _ _ hp => exact .inl (awaits_extended hr hp)
  | present _ _ hs =>
    rw [hstatus] at hs
    cases hs
  | represent _ _ _ hp => exact .inl (awaits_extended hr hp)
  | heartbeat _ _ _ _ _ hp => exact .inl (awaits_extended hr hp)
  | resolve => exact .inr (.inl rfl)
  | reject hid hwallet hcheck => exact .inr (.inr (.reject hid.symm hwallet.symm hcheck))
  | cancel => exact .inr (.inr .cancel)
  | expire _ hdue => exact .inr (.inr (.expire hdue))
  | release _ hdue =>
    rcases hdue with hdue | hdue
    · have hs := deliveryLeaseExpired_status hdue
      rw [hstatus] at hs
      cases hs
    · exact .inr (.inr (.release hdue))
  | evict hs =>
    rw [hstatus] at hs
    cases hs

theorem Edit.of_approved (h : Edit c env s command answer r r') (hr : r.status = .approved) :
    r'.status = .approved := by
  rcases h.live_or_evicted with hlive | ⟨-, -, -, -, rfl⟩
  · rw [hr] at hlive
    cases hlive
  · exact hr

end Edits

namespace Coordinator

variable {c : Coordinator} {s : Store} {id : RequestId} {r : RequestRecord}
  {presentationId : PresentationId}

theorem step_identity (hs : s.WellFormed) (hr : s.getRequest id = some r) (x : Step) :
    ∃ r', (c.step s x).getRequest id = some r' ∧ r'.identity = r.identity := by
  obtain ⟨r', hr', rfl | hedit⟩ := step_request (c := c) hs hr x
  · exact ⟨r', hr', rfl⟩
  · exact ⟨r', hr', hedit.identity_eq⟩

theorem step_approved (hs : s.WellFormed) (hr : s.getRequest id = some r) (hstatus : r.status = .approved)
    (x : Step) : ∃ r', (c.step s x).getRequest id = some r' ∧ r'.identity = r.identity ∧
      r'.status = .approved := by
  obtain ⟨r', hr', rfl | hedit⟩ := step_request (c := c) hs hr x
  · exact ⟨r', hr', rfl, hstatus⟩
  · exact ⟨r', hr', hedit.identity_eq, hedit.of_approved hstatus⟩

theorem step_awaits (hs : s.WellFormed) (hr : s.getRequest id = some r) (hawaits : r.Awaits presentationId)
    (x : Step) (hx : ¬ GivesUp x.env r x.command) :
    ∃ r', (c.step s x).getRequest id = some r' ∧ r'.identity = r.identity ∧
      (r'.Awaits presentationId ∨ r'.status = .approved) := by
  obtain ⟨r', hr', rfl | hedit⟩ := step_request (c := c) hs hr x
  · exact ⟨r', hr', rfl, .inl hawaits⟩
  · refine ⟨r', hr', hedit.identity_eq, ?_⟩
    rcases hedit.of_awaits hawaits with hawaits' | happroved | hgives
    · exact .inl hawaits'
    · exact .inr happroved
    · exact absurd hgives hx

/-- The resolve under the presentation of the request, in time and with a result of its kind. -/
theorem step_resolve_awaiting {env : Env} {m : ResolveRequestCommand} (hr : s.getRequest id = some r)
    (hid : m.requestId = id) (hwallet : m.walletInstanceId = r.walletInstanceId)
    (hawaits : r.Awaits m.presentationId) (hkind : m.result.resultKind = r.kind.expectedResultKind)
    (hlive : presentationExpired (env.now 0) r = false) :
    ∃ r', (c.step s ⟨env, .resolveRequest m⟩).getRequest id = some r' ∧ r'.identity = r.identity ∧
      r'.status = .approved := by
  obtain ⟨p, hp, hpid⟩ := Option.map_eq_some_iff.mp hawaits.presentation
  have hown : requireOwnedRequest m.requestId m.walletInstanceId s = .ok r :=
    requireOwnedRequest_of_owned hr ((Store.getRequest_requestId hr).trans hid.symm) hwallet.symm
  have hvalid : validatePresentation r m.presentationId (env.now 0) = .ok () := by
    rw [← hpid]
    apply validatePresentation_of_live hawaits.status hp
    unfold presentationExpired at hlive
    rw [hp] at hlive
    simpa [hawaits.status] using hlive
  have hstep := step_resolve (c := c) hown (validateRequestResult_of_kind hkind.symm) hvalid
  rw [Store.getRequest_requestId hr] at hstep
  exact ⟨_, hstep, rfl, rfl⟩

/-- The record behind a request that a pull delivers. -/
theorem record_of_pull {env : Env} {w : WalletInstanceId} {result : PullNextRequestResult} {s' : Store}
    {request : PulledRequest}
    (h : c.dispatch env (.pullNextRequest w) s = (.ok (.pullNextRequest result), s'))
    (hrequest : result.request = some request) :
    ∃ r, s.getRequest request.requestId = some r ∧ r.kind = request.kind ∧ r.walletInstanceId = w := by
  simp only [dispatch, FailState.map_apply] at h
  rcases pullNextRequest_cases c env s w with ⟨e, hrun⟩ | ⟨-, -, hrun⟩ | ⟨r, p, t, -, hfind, -, -, hrun⟩ |
    ⟨r, lease, -, -, hnext, -, -, hrun⟩
  · rw [hrun] at h
    cases h
  · rw [hrun] at h
    cases h
    cases hrequest
  · rw [hrun] at h
    cases h
    cases hrequest
    obtain ⟨hmem, hw, -⟩ := findResumableRequest_spec hfind
    exact ⟨r, Store.mem_requests_iff.mp hmem, rfl, hw⟩
  · rw [hrun] at h
    cases h
    cases hrequest
    obtain ⟨hmem, hw, -⟩ := nextCreatedRequest_spec hnext
    exact ⟨r, Store.mem_requests_iff.mp hmem, rfl, hw⟩

end Coordinator

end StarcoinMcp.Starmask
