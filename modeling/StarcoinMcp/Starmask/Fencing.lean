import StarcoinMcp.Starmask.Provenance

/-! A claimant that lost its lease. Its late answers are refused, with one exception
that the protocol leaves open: a rejection before presentation carries no lease, so
anyone who speaks for the wallet may fail a delivered request. -/

namespace StarcoinMcp.Starmask

open Coordinator

/-- The command fails and writes nothing. -/
def Refused (c : Coordinator) (env : Env) (s : Store) (command : CoordinatorCommand) : Prop :=
  (∃ e, (c.dispatch env command s).1 = .error e) ∧ (c.dispatch env command s).2 = s

/-- The three answers of a claimant, for the request `id`. -/
def AnswersFor (id : RequestId) : CoordinatorCommand → Prop
  | .markRequestPresented m => m.requestId = id
  | .resolveRequest m => m.requestId = id
  | .rejectRequest m => m.requestId = id
  | _ => False

/-- An answer built from the lease id `leaseId` and the presentation ids `own` only. -/
def UsesOnly (leaseId : DeliveryLeaseId) (own : PresentationId → Prop) : CoordinatorCommand → Prop
  | .markRequestPresented m =>
    (m.deliveryLeaseId = none ∨ m.deliveryLeaseId = some leaseId) ∧ own m.presentationId
  | .resolveRequest m => own m.presentationId
  | .rejectRequest m => ∀ presentationId, m.presentationId = some presentationId → own presentationId
  | _ => True

/-- A rejection without presentation id that finds the request delivered and not yet presented. -/
def UnpresentedReject (s : Store) : CoordinatorCommand → Prop
  | .rejectRequest m => m.presentationId = none ∧ m.reasonCode ≠ .requestRejected ∧
      ∃ r, s.getRequest m.requestId = some r ∧ r.status = .dispatched
  | _ => False

section Refusal

variable {c : Coordinator} {env : Env} {s : Store}

theorem rewriteOwned_refused {α : Type} {id : RequestId} {w : WalletInstanceId}
    {f : RequestRecord → CoreResult RequestRecord} {g : RequestRecord → α}
    (h : ∀ r r', s.getRequest id = some r → r.walletInstanceId = w → f r ≠ .ok r') :
    ∃ e, rewriteOwned id w f g s = (.error e, s) := by
  rcases rewriteOwned_cases (g := g) (s := s) fun r r' hr hw hf => absurd hf (h r r' hr hw) with
    hrefused | ⟨r, r', hr, hw, hf, -⟩
  · exact hrefused
  · exact absurd hf (h r r' hr hw)

/-- An answer that can make no edit of its request is refused. -/
theorem refused_of_no_edit {id : RequestId} {command : CoordinatorCommand}
    (hanswer : AnswersFor id command)
    (h : ∀ r r' answer, s.getRequest id = some r → ¬ Edit c env s command answer r r') :
    Refused c env s command := by
  have hown : ∀ {r}, s.getRequest id = some r → r.requestId = id := Store.getRequest_requestId
  cases command <;> try exact hanswer.elim
  case markRequestPresented m =>
    obtain rfl : m.requestId = id := hanswer
    obtain ⟨e, he⟩ := rewriteOwned_refused (w := m.walletInstanceId) (f := c.presentedRecord env m)
      (g := fun r => RequestPresentedResult.mk r.requestId r.status) fun r r' hr hw hf =>
        h r r' _ hr (edit_of_presentedRecord (hown hr) hw hf)
    unfold Refused
    simp only [dispatch, FailState.map_apply]
    rw [markRequestPresented_eq, he]
    exact ⟨⟨e, rfl⟩, rfl⟩
  case resolveRequest m =>
    obtain rfl : m.requestId = id := hanswer
    obtain ⟨e, he⟩ := rewriteOwned_refused (w := m.walletInstanceId) (f := c.resolvedRecord env m)
      (g := fun r => RequestResolvedResult.mk r.requestId r.status m.result.resultKind
        r.resultExpiresAt) fun r r' hr hw hf =>
        h r r' _ hr (edit_of_resolvedRecord (hown hr) hw hf)
    unfold Refused
    simp only [dispatch, FailState.map_apply]
    rw [resolveRequest_eq, he]
    exact ⟨⟨e, rfl⟩, rfl⟩
  case rejectRequest m =>
    obtain rfl : m.requestId = id := hanswer
    obtain ⟨e, he⟩ := rewriteOwned_refused (w := m.walletInstanceId) (f := rejectedRecord env m)
      (g := fun r => RequestRejectedResult.mk r.requestId r.status
        (mapRejectReason m.reasonCode).2.1) fun r r' hr hw hf =>
        h r r' _ hr (edit_of_rejectedRecord (hown hr) hw hf)
    unfold Refused
    simp only [dispatch, FailState.map_apply]
    rw [rejectRequest_eq, he]
    exact ⟨⟨e, rfl⟩, rfl⟩

theorem validateReject_ok {m : RejectRequestCommand} {r : RequestRecord} {u : Unit}
    (h : validateReject env m r = .ok u) :
    (r.status = .pendingUserApproval ∧ ∃ p, r.presentation = some p ∧
      m.presentationId = some p.presentationId ∧ env.now 0 < p.presentationExpiresAt) ∨
    (r.status = .dispatched ∧ m.presentationId = none) := by
  unfold validateReject at h
  split at h
  · rename_i hstatus
    split at h
    · cases h
    · rename_i presentationId hid
      obtain ⟨-, p, hp, hmatch, hlive⟩ := validatePresentation_ok h
      exact .inl ⟨hstatus, p, hp, by rw [hid, hmatch], hlive⟩
  · rename_i hstatus
    split_ifs at h with hsome
    exact .inr ⟨hstatus, by simpa using hsome⟩
  · cases h

/-- The exception is the only way to reject a request that is not presented. -/
theorem unpresentedReject_of_edge {m : RejectRequestCommand} {r : RequestRecord}
    (hr : s.getRequest m.requestId = some r) (hstatus : r.status = .dispatched)
    (hnone : m.presentationId = none)
    (hedge : r.status.canTransitionTo (mapRejectReason m.reasonCode).1 = true) :
    UnpresentedReject s (.rejectRequest m) := by
  refine ⟨hnone, fun hreason => ?_, r, hr, hstatus⟩
  rw [hstatus, hreason] at hedge
  exact absurd hedge (by decide)

theorem not_answersFor_heartbeat {id : RequestId} {command : CoordinatorCommand}
    {named : WalletInstanceId × List RequestId} (h : command.heartbeat? = some named) :
    ¬ AnswersFor id command := by
  cases command <;> first | exact fun hanswer => hanswer | cases h

end Refusal

/-! ## A claimant replaced by another -/

/-- The request is out of reach of the claimant with this lease and these presentation ids. -/
def Fenced (leaseId : DeliveryLeaseId) (own : PresentationId → Prop) (r : RequestRecord) : Prop :=
  (∀ lease, r.deliveryLease = some lease → lease.deliveryLeaseId ≠ leaseId) ∧
    ∀ p, r.presentation = some p → ¬ own p.presentationId

/-- Presentations under another lease are given other ids. -/
def OthersPresentElse (id : RequestId) (leaseId : DeliveryLeaseId) (own : PresentationId → Prop)
    (x : Step) : Prop :=
  ∀ m other, x.command = .markRequestPresented m → m.requestId = id →
    m.deliveryLeaseId = some other → other ≠ leaseId → ¬ own m.presentationId

section Fenced

variable {c : Coordinator} {id : RequestId} {leaseId : DeliveryLeaseId} {own : PresentationId → Prop}
  {s : Store} {r r' : RequestRecord}

theorem Fenced.edit {x : Step} {answer : CoreResult CoordinatorResponse} (h : Fenced leaseId own r)
    (hwf : r.WellFormed) (hid : r.requestId = id) (hfresh : x.newLease ≠ some leaseId)
    (hothers : OthersPresentElse id leaseId own x)
    (hedit : Edit c x.env s x.command answer r r') : Fenced leaseId own r' := by
  obtain ⟨env, command⟩ := x
  dsimp only at hedit
  have hextended : ∀ p t, r.presentation = some p → Fenced leaseId own (r.extended p t (env.now 0)) := by
    intro p t hp
    refine ⟨h.1, fun q hq => ?_⟩
    obtain rfl := Option.some.inj hq
    exact h.2 p hp
  cases hedit with
  | claim _ _ _ _ hcreated hlease =>
    refine ⟨fun lease hl he => ?_, fun p hp => ?_⟩
    · obtain rfl := Option.some.inj hl
      rw [he] at hlease
      exact hfresh (by unfold Step.newLease; rw [hlease])
    · have hnone := (hwf.created hcreated).2
      rw [show r.presentation = some p from hp] at hnone
      cases hnone
  | present hreq _ _ hl hm =>
    refine ⟨fun lease hlease => (nomatch hlease), fun q hq => ?_⟩
    obtain rfl := Option.some.inj hq
    exact hothers _ _ rfl (hreq.symm.trans hid) hm (h.1 _ hl)
  | resume _ _ _ _ hp => exact hextended _ _ hp
  | represent _ _ _ hp => exact hextended _ _ hp
  | heartbeat _ _ _ _ _ hp => exact hextended _ _ hp
  | evict => exact h
  | resolve | reject | cancel | expire | release =>
    exact ⟨fun _ hl => (nomatch hl), fun _ hp => (nomatch hp)⟩

theorem fenced_run {before : List Step} (hr : (c.run before).getRequest id = some r)
    (h : Fenced leaseId own r) (after : List Step) (hfresh : ∀ x ∈ after, x.newLease ≠ some leaseId)
    (hothers : ∀ x ∈ after, OthersPresentElse id leaseId own x) :
    ∀ r', (c.run (before ++ after)).getRequest id = some r' → Fenced leaseId own r' := by
  induction after using List.reverseRecOn with
  | nil =>
    intro r' hr'
    rw [List.append_nil] at hr'
    obtain rfl : r = r' := Option.some.inj (hr.symm.trans hr')
    exact h
  | append_singleton after x ih =>
    intro r₂ hr₂
    obtain ⟨r₁, hr₁, -⟩ := run_identity before after hr
    have hfenced := ih (fun y hy => hfresh y (List.mem_append_left _ hy))
      (fun y hy => hothers y (List.mem_append_left _ hy)) r₁ hr₁
    obtain ⟨r', hr', hstep⟩ := run_request (before ++ after) hr₁ x
    rw [← List.append_assoc] at hr₂
    obtain rfl : r' = r₂ := Option.some.inj (hr'.symm.trans hr₂)
    rcases hstep with rfl | hedit
    · exact hfenced
    · exact hfenced.edit (run_wellFormed c _ id r₁ hr₁) (Store.getRequest_requestId hr₁)
        (hfresh x (by simp)) (hothers x (by simp)) hedit

/-- The answers of a claimant that was replaced. -/
theorem refused_of_fenced {env : Env} {command : CoordinatorCommand}
    (hfenced : ∀ r, s.getRequest id = some r → Fenced leaseId own r) (hanswer : AnswersFor id command)
    (huses : UsesOnly leaseId own command) (hexcept : ¬ UnpresentedReject s command) :
    Refused c env s command := by
  refine refused_of_no_edit hanswer fun r r' answer hr hedit => ?_
  have hf := hfenced r hr
  cases hedit with
  | present _ _ _ hl hm =>
    rcases huses.1 with hnone | hsome
    · rw [hnone] at hm
      cases hm
    · exact hf.1 _ hl (Option.some.inj (hm.symm.trans hsome))
  | represent _ _ _ hp _ hm => exact hf.2 _ hp (hm ▸ huses.2)
  | resolve _ _ _ hp hm => exact hf.2 _ hp (hm ▸ huses)
  | reject _ _ hcheck hedge =>
    rcases validateReject_ok hcheck with ⟨-, p, hp, hid, -⟩ | ⟨hstatus, hnone⟩
    · exact hf.2 p hp (huses _ hid)
    · obtain rfl : _ = id := hanswer
      exact hexcept (unpresentedReject_of_edge hr hstatus hnone hedge)
  | heartbeat hcommand => exact not_answersFor_heartbeat hcommand hanswer
  | claim | resume | cancel | expire | release | evict => exact hanswer.elim

/-- The answers of a claimant whose lease has run out, before the tick releases the request. -/
theorem refused_of_expired {env : Env} {command : CoordinatorCommand} (hr : s.getRequest id = some r)
    (hdue : deliveryLeaseExpired (env.now 0) r = true ∨ presentationExpired (env.now 0) r = true)
    (hanswer : AnswersFor id command) (hexcept : ¬ UnpresentedReject s command) :
    Refused c env s command := by
  refine refused_of_no_edit hanswer fun r₁ r' answer hr₁ hedit => ?_
  obtain rfl : r = r₁ := Option.some.inj (hr.symm.trans hr₁)
  have hlease : ∀ lease, r.status = .dispatched → r.deliveryLease = some lease →
      lease.deliveryLeaseExpiresAt ≤ env.now 0 := by
    intro lease hstatus hl
    rcases hdue with hd | hd
    · simpa [deliveryLeaseExpired, hstatus, hl] using hd
    · exact absurd (hstatus.symm.trans (presentationExpired_status hd)) (by decide)
  have hpresentation : ∀ p, r.status = .pendingUserApproval → r.presentation = some p →
      p.presentationExpiresAt ≤ env.now 0 := by
    intro p hstatus hp
    rcases hdue with hd | hd
    · exact absurd (hstatus.symm.trans (deliveryLeaseExpired_status hd)) (by decide)
    · simpa [presentationExpired, hstatus, hp] using hd
  cases hedit with
  | present _ _ hstatus hl _ hlive => exact absurd hlive (not_lt.mpr (hlease _ hstatus hl))
  | represent _ _ hstatus hp _ _ hlive => exact absurd hlive (not_lt.mpr (hpresentation _ hstatus hp))
  | resolve _ _ hstatus hp _ hlive => exact absurd hlive (not_lt.mpr (hpresentation _ hstatus hp))
  | reject _ _ hcheck hedge =>
    rcases validateReject_ok hcheck with ⟨hstatus, p, hp, -, hlive⟩ | ⟨hstatus, hnone⟩
    · exact absurd hlive (not_lt.mpr (hpresentation p hstatus hp))
    · obtain rfl : _ = id := hanswer
      exact hexcept (unpresentedReject_of_edge hr hstatus hnone hedge)
  | heartbeat hcommand => exact not_answersFor_heartbeat hcommand hanswer
  | claim | resume | cancel | expire | release | evict => exact hanswer.elim

/-- A pull that returned the request left it delivered under the lease it returned. -/
theorem Pulled.claimed {w : WalletInstanceId} {lease : DeliveryLease} {steps : List Step} {x : Step}
    (h : Pulled c id w lease steps x) :
    ∃ r, (c.run (steps ++ [x])).getRequest id = some r ∧ r.status = .dispatched ∧
      r.deliveryLease = some lease ∧ r.presentation = none := by
  obtain ⟨hcommand, -, pulled, hreply, hid, hlease, hexpires⟩ := h
  obtain ⟨env, command⟩ := x
  dsimp only at hcommand
  subst hcommand
  rw [run_snoc]
  unfold reply at hreply
  unfold step
  simp only [dispatch, FailState.map_apply] at hreply ⊢
  rcases pullNextRequest_cases c env (c.run steps) w with ⟨e, hrun⟩ | ⟨-, -, hrun⟩ |
    ⟨r, p, t, -, -, -, -, hrun⟩ | ⟨r, lease', -, -, hnext, -, -, hrun⟩
  · rw [hrun] at hreply
    cases hreply
  · rw [hrun] at hreply
    cases hreply
  · rw [hrun] at hreply
    cases hreply
    -- a resumed request comes back without a delivery lease
    cases hlease
  · rw [hrun] at hreply ⊢
    cases hreply
    obtain rfl : lease' = lease := by
      cases lease
      cases lease'
      cases hlease
      cases hexpires
      rfl
    have hrow := (nextCreatedRequest_spec hnext).1
    have hr := Store.mem_requests_iff.mp hrow
    have hcreated := (nextCreatedRequest_spec hnext).2.2
    refine ⟨r.claimed lease' (env.now 0), ?_, rfl, rfl, ?_⟩
    · obtain rfl : r.requestId = id := hid
      exact getRequest_writeRequest_self hr rfl rfl
    · exact ((run_wellFormed c steps _ r hr).created hcreated).2

end Fenced

/-- Stale claimants are fenced. The request was delivered under `lease₁` and later under `lease₂`;
nobody else uses the presentation ids `own`. Then the answers of the first claimant are refused and
change nothing, and so are the answers of any claimant whose lease has run out, in both cases save
for a rejection before presentation. -/
theorem stale_claimant_fenced (c : Coordinator) (a b d : List Step) (x₁ x₂ : Step) {id : RequestId}
    {w : WalletInstanceId} {lease₁ lease₂ : DeliveryLease} (own : PresentationId → Prop)
    (hleases : LeasesDistinct (a ++ x₁ :: b ++ x₂ :: d)) (h₁ : Pulled c id w lease₁ a x₁)
    (h₂ : Pulled c id w lease₂ (a ++ x₁ :: b) x₂)
    (hothers : ∀ x ∈ d, OthersPresentElse id lease₁.deliveryLeaseId own x) :
    (∀ env command, AnswersFor id command → UsesOnly lease₁.deliveryLeaseId own command →
      ¬ UnpresentedReject (c.run (a ++ x₁ :: b ++ x₂ :: d)) command →
      Refused c env (c.run (a ++ x₁ :: b ++ x₂ :: d)) command) ∧
    (∀ steps env command r, (c.run steps).getRequest id = some r →
      deliveryLeaseExpired (env.now 0) r = true ∨ presentationExpired (env.now 0) r = true →
      AnswersFor id command → ¬ UnpresentedReject (c.run steps) command →
      Refused c env (c.run steps) command) := by
  refine ⟨fun env command hanswer huses hexcept => ?_, fun steps env command r hr hdue hanswer hexcept =>
    refused_of_expired hr hdue hanswer hexcept⟩
  obtain ⟨r, hr, -, hlease, hpresentation⟩ := h₂.claimed
  have hsplit : a ++ x₁ :: b ++ x₂ :: d = a ++ x₁ :: b ++ [x₂] ++ d := by simp
  -- the lease of the first pull is not handed out again, by the second pull or after it
  have hfresh : ∀ x ∈ x₂ :: d, x.newLease ≠ some lease₁.deliveryLeaseId := by
    intro x hx hnew
    have hdistinct : LeasesDistinct (a ++ x₁ :: (b ++ x₂ :: d)) := by simpa using hleases
    exact hdistinct.later h₁.2.1 x (List.mem_append_right _ hx) hnew
  have hfenced : Fenced lease₁.deliveryLeaseId own r := by
    refine ⟨fun lease hl he => ?_, fun p hp => ?_⟩
    · obtain rfl : lease₂ = lease := Option.some.inj (hlease.symm.trans hl)
      exact hfresh x₂ (List.mem_cons_self ..) (he ▸ h₂.2.1)
    · rw [hpresentation] at hp
      cases hp
  have hlast := fenced_run hr hfenced d (fun x hx => hfresh x (List.mem_cons_of_mem _ hx)) hothers
  rw [hsplit] at hexcept ⊢
  exact refused_of_fenced hlast hanswer huses hexcept

namespace Session

/-- The request is delivered, released when its lease runs out, and delivered again. -/
def redelivering : List Step :=
  [register 0, create 0] ++ pull 1000 lease₁ :: [tick 31000] ++ pull 32000 lease₂ :: []

theorem redelivering_leases : LeasesDistinct redelivering := by
  unfold LeasesDistinct
  decide +kernel

/-- The ids and the lease of the request a reply hands out. -/
def handedOut : CoreResult CoordinatorResponse →
    Option (WalletInstanceId × RequestId × Option DeliveryLeaseId × Option TimestampMs)
  | .ok (.pullNextRequest ⟨w, some p⟩) => some (w, p.requestId, p.deliveryLeaseId, p.leaseExpiresAt)
  | _ => none

theorem pulled_of_handedOut {c : Coordinator} {steps : List Step} {x : Step} {id : RequestId}
    {w : WalletInstanceId} {lease : DeliveryLease} (hcommand : x.command = .pullNextRequest w)
    (hlease : x.newLease = some lease.deliveryLeaseId)
    (h : handedOut (c.reply (c.run steps) x) =
      some (w, id, some lease.deliveryLeaseId, some lease.deliveryLeaseExpiresAt)) :
    Pulled c id w lease steps x := by
  refine ⟨hcommand, hlease, ?_⟩
  unfold handedOut at h
  split at h
  · rename_i w' p hreply
    simp only [Option.some.injEq, Prod.mk.injEq] at h
    obtain ⟨rfl, hid, hl, ht⟩ := h
    exact ⟨p, hreply, hid, hl, ht⟩
  · cases h

theorem redelivering_first :
    Pulled coordinator request wallet ⟨lease₁, 31000⟩ [register 0, create 0] (pull 1000 lease₁) :=
  pulled_of_handedOut rfl rfl (by decide +kernel)

theorem redelivering_second :
    Pulled coordinator request wallet ⟨lease₂, 62000⟩
      ([register 0, create 0] ++ pull 1000 lease₁ :: [tick 31000]) (pull 32000 lease₂) :=
  pulled_of_handedOut rfl rfl (by decide +kernel)

end Session

open Session in
/-- The first claimant presents too late. -/
theorem stale_claimant_fenced_late_presentation :
    Refused coordinator (env 33000 lease₁) (coordinator.run redelivering)
      (.markRequestPresented ⟨request, wallet, some lease₁, presentation⟩) :=
  (stale_claimant_fenced coordinator [register 0, create 0] [tick 31000] [] (pull 1000 lease₁)
    (pull 32000 lease₂) (· = presentation) redelivering_leases redelivering_first redelivering_second
    (fun _ hx => nomatch hx)).1 (env 33000 lease₁) _ rfl ⟨.inr rfl, rfl⟩ (fun h => h)

open Session in
/-- The first claimant, knowing nothing but the wallet and the request, fails the request while the
second one holds its lease. -/
theorem stale_reject_accepted : LeasesDistinct redelivering ∧
    Pulled coordinator request wallet ⟨lease₁, 31000⟩ [register 0, create 0] (pull 1000 lease₁) ∧
    ((coordinator.run ([register 0, create 0] ++ pull 1000 lease₁ :: [tick 31000])).getRequest
      request).map RequestRecord.status = some .created ∧
    Pulled coordinator request wallet ⟨lease₂, 62000⟩
      ([register 0, create 0] ++ pull 1000 lease₁ :: [tick 31000]) (pull 32000 lease₂) ∧
    AnswersFor request (.rejectRequest ⟨request, wallet, none, .walletLocked, none⟩) ∧
    UsesOnly lease₁ (fun _ => False) (.rejectRequest ⟨request, wallet, none, .walletLocked, none⟩) ∧
    ¬ Refused coordinator (env 33000 lease₁) (coordinator.run redelivering)
      (.rejectRequest ⟨request, wallet, none, .walletLocked, none⟩) := by
  refine ⟨redelivering_leases, redelivering_first, by decide +kernel, redelivering_second, rfl,
    fun _ h => (nomatch h), ?_⟩
  rintro ⟨⟨e, he⟩, -⟩
  have hok : (coordinator.dispatch (env 33000 lease₁)
      (.rejectRequest ⟨request, wallet, none, .walletLocked, none⟩) (coordinator.run redelivering)).1 =
        .ok (.requestRejected ⟨request, .failed, .walletLocked⟩) := by decide +kernel
  rw [hok] at he
  cases he

end StarcoinMcp.Starmask
