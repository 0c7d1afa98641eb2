import StarcoinMcp.Starmask.Expiry

/-! Where an approval comes from. The lease fields of a request always record the last
delivery and the last presentation of the run, and a request is approved only
through them: pulled, presented under the lease of that pull, and resolved under
the presentation, with no return to the queue on the way. -/

namespace StarcoinMcp.Starmask

open Coordinator

/-- The lease id the generator hands to a pull. -/
def Step.newLease (x : Step) : Option DeliveryLeaseId :=
  match x.command, x.env.newDeliveryLeaseId with
  | .pullNextRequest _, .ok leaseId => some leaseId
  | _, _ => none

/-- `new_delivery_lease_id` never repeats a value. -/
def LeasesDistinct (steps : List Step) : Prop := (steps.filterMap Step.newLease).Nodup

section History

variable (c : Coordinator) (id : RequestId) (w : WalletInstanceId)

/-- `x`, given after `steps`, is a pull by `w` that returned the request with a fresh lease. -/
def Pulled (lease : DeliveryLease) (steps : List Step) (x : Step) : Prop :=
  x.command = .pullNextRequest w ∧ x.newLease = some lease.deliveryLeaseId ∧
    ∃ pulled, c.reply (c.run steps) x = .ok (.pullNextRequest ⟨w, some pulled⟩) ∧
      pulled.requestId = id ∧ pulled.deliveryLeaseId = some lease.deliveryLeaseId ∧
      pulled.leaseExpiresAt = some lease.deliveryLeaseExpiresAt

/-- `x` is a successful presentation by `w` under the lease, before its expiry. -/
def PresentedUnder (lease : DeliveryLease) (presentationId : PresentationId) (steps : List Step)
    (x : Step) : Prop :=
  x.command = .markRequestPresented ⟨id, w, some lease.deliveryLeaseId, presentationId⟩ ∧
    c.reply (c.run steps) x = .ok (.requestPresented ⟨id, .pendingUserApproval⟩) ∧
    x.env.now 0 < lease.deliveryLeaseExpiresAt

/-- `x` resolves the request by `w` under the presentation it finds there, before its expiry, and
what it carries is what is stored. -/
def ResolvedUnder (presentationId : PresentationId) (steps : List Step) (x : Step) : Prop :=
  ∃ result r p r', x.command = .resolveRequest ⟨id, w, presentationId, result⟩ ∧
    (c.run steps).getRequest id = some r ∧ r.presentation = some p ∧
    p.presentationId = presentationId ∧ x.env.now 0 < p.presentationExpiresAt ∧
    (c.run (steps ++ [x])).getRequest id = some r' ∧ r'.status = .approved ∧ r'.result = some result

/-- Pulled under the lease, and not back in the queue since. -/
def Delivered (lease : DeliveryLease) : List Step → Prop :=
  Trace.Since (Pulled c id w lease) (NotCreated c id)

/-- Presented under the lease of the delivery before it, and not back in the queue since. -/
def Presented (presentationId : PresentationId) : List Step → Prop :=
  Trace.Since (fun steps x => ∃ lease, Delivered c id w lease steps ∧
    PresentedUnder c id w lease presentationId steps x) (NotCreated c id)

/-- Resolved under the presentation before it. -/
def ResolvedAfter : List Step → Prop :=
  Trace.Since (fun steps x => ∃ presentationId, Presented c id w presentationId steps ∧
    ResolvedUnder c id w presentationId steps x) (NotCreated c id)

/-- What the stored record says about the run that led to it. -/
structure Witnessed (steps : List Step) (r : RequestRecord) : Prop where
  dispatched : r.status = .dispatched →
    ∃ lease, r.deliveryLease = some lease ∧ Delivered c id r.walletInstanceId lease steps
  pendingUserApproval : r.status = .pendingUserApproval →
    ∃ p, r.presentation = some p ∧ Presented c id r.walletInstanceId p.presentationId steps
  approved : r.status = .approved → ResolvedAfter c id r.walletInstanceId steps

end History

section Induction

variable {c : Coordinator} {id : RequestId} {steps : List Step} {r r' : RequestRecord} {x : Step}

theorem notCreated_of_get (hr : (c.run steps).getRequest id = some r) (h : r.status ≠ .created) :
    NotCreated c id steps := by
  intro r₁ hr₁
  obtain rfl : r = r₁ := Option.some.inj (hr.symm.trans hr₁)
  exact h

/-- A request that keeps its status, lease and presentation id keeps its history. -/
theorem Witnessed.snoc (h : Witnessed c id steps r)
    (hr' : (c.run (steps ++ [x])).getRequest id = some r') (hstatus : r'.status = r.status)
    (hwallet : r'.walletInstanceId = r.walletInstanceId) (hlease : r'.deliveryLease = r.deliveryLease)
    (hp : ∀ p, r.presentation = some p → ∃ p', r'.presentation = some p' ∧
      p'.presentationId = p.presentationId) : Witnessed c id (steps ++ [x]) r' := by
  refine ⟨fun hs => ?_, fun hs => ?_, fun hs => ?_⟩
  · have hnot := notCreated_of_get hr' (by rw [hs]; decide)
    obtain ⟨lease, hl, hd⟩ := h.dispatched (hstatus ▸ hs)
    rw [hwallet]
    exact ⟨lease, hlease.trans hl, hd.snoc hnot⟩
  · have hnot := notCreated_of_get hr' (by rw [hs]; decide)
    obtain ⟨p, hpr, hd⟩ := h.pendingUserApproval (hstatus ▸ hs)
    obtain ⟨p', hp', hid⟩ := hp p hpr
    rw [hwallet]
    exact ⟨p', hp', hid ▸ hd.snoc hnot⟩
  · have hnot := notCreated_of_get hr' (by rw [hs]; decide)
    rw [hwallet]
    exact (h.approved (hstatus ▸ hs)).snoc hnot

theorem Witnessed.of_other (status : RequestStatus) (hs : r.status = status)
    (hd : status ≠ .dispatched) (hp : status ≠ .pendingUserApproval) (ha : status ≠ .approved) :
    Witnessed c id steps r :=
  ⟨fun h => absurd (hs.symm.trans h) hd, fun h => absurd (hs.symm.trans h) hp,
    fun h => absurd (hs.symm.trans h) ha⟩

theorem witnessed_claim {env : Env} {lease : DeliveryLease} (hrid : r.requestId = id)
    (hlease : env.newDeliveryLeaseId = .ok lease.deliveryLeaseId)
    (hreply : c.reply (c.run steps) ⟨env, .pullNextRequest r.walletInstanceId⟩ = .ok (.pullNextRequest
      ⟨r.walletInstanceId, some (projectPulledRequest (r.claimed lease (env.now 0)) false)⟩))
    (hnot : NotCreated c id (steps ++ [⟨env, .pullNextRequest r.walletInstanceId⟩])) :
    Witnessed c id (steps ++ [⟨env, .pullNextRequest r.walletInstanceId⟩])
      (r.claimed lease (env.now 0)) := by
  refine ⟨fun _ => ⟨lease, rfl, Trace.since_now ?_ hnot⟩, fun hs => (nomatch hs), fun hs => (nomatch hs)⟩
  refine ⟨rfl, ?_, _, hreply, hrid, rfl, rfl⟩
  unfold Step.newLease
  rw [hlease]

theorem witnessed_present {env : Env} {m : MarkRequestPresentedCommand} {lease : DeliveryLease}
    {t : TimestampMs} (h : Witnessed c id steps r) (hid : m.requestId = id)
    (hw : r.walletInstanceId = m.walletInstanceId) (hstatus : r.status = .dispatched)
    (hlease : r.deliveryLease = some lease) (hm : m.deliveryLeaseId = some lease.deliveryLeaseId)
    (hlive : env.now 0 < lease.deliveryLeaseExpiresAt)
    (hreply : c.reply (c.run steps) ⟨env, .markRequestPresented m⟩ =
      .ok (.requestPresented ⟨id, .pendingUserApproval⟩))
    (hnot : NotCreated c id (steps ++ [⟨env, .markRequestPresented m⟩])) :
    Witnessed c id (steps ++ [⟨env, .markRequestPresented m⟩])
      (r.presented ⟨m.presentationId, t⟩ (env.now 0)) := by
  obtain ⟨lease', hlease', hdelivered⟩ := h.dispatched hstatus
  obtain rfl : lease = lease' := Option.some.inj (hlease.symm.trans hlease')
  refine ⟨fun hs => (nomatch hs), fun _ => ⟨_, rfl, Trace.since_now ?_ hnot⟩, fun hs => (nomatch hs)⟩
  obtain ⟨requestId, walletInstanceId, deliveryLeaseId, presentationId⟩ := m
  dsimp only at hid hw hm
  subst hid hw hm
  exact ⟨lease, hdelivered, rfl, hreply, hlive⟩

theorem witnessed_resolve {env : Env} {m : ResolveRequestCommand} {p : PresentationLease}
    {t : Option TimestampMs} (hr : (c.run steps).getRequest id = some r) (h : Witnessed c id steps r)
    (hid : m.requestId = id) (hw : r.walletInstanceId = m.walletInstanceId)
    (hstatus : r.status = .pendingUserApproval) (hp : r.presentation = some p)
    (hm : p.presentationId = m.presentationId) (hlive : env.now 0 < p.presentationExpiresAt)
    (hr' : (c.run (steps ++ [⟨env, .resolveRequest m⟩])).getRequest id =
      some (r.resolved m.result (env.now 0) t))
    (hnot : NotCreated c id (steps ++ [⟨env, .resolveRequest m⟩])) :
    Witnessed c id (steps ++ [⟨env, .resolveRequest m⟩]) (r.resolved m.result (env.now 0) t) := by
  obtain ⟨q, hq, hpresented⟩ := h.pendingUserApproval hstatus
  obtain rfl : p = q := Option.some.inj (hp.symm.trans hq)
  refine ⟨fun hs => (nomatch hs), fun hs => (nomatch hs), fun _ => Trace.since_now ?_ hnot⟩
  obtain ⟨requestId, walletInstanceId, presentationId, result⟩ := m
  dsimp only at hid hw hm
  subst hid hw hm
  exact ⟨p.presentationId, hpresented, result, r, p, _, rfl, hr, hp, rfl, hlive, hr', rfl, rfl⟩

theorem Witnessed.extended {p : PresentationLease} {t now : TimestampMs} (h : Witnessed c id steps r)
    (hp : r.presentation = some p)
    (hr' : (c.run (steps ++ [x])).getRequest id = some (r.extended p t now)) :
    Witnessed c id (steps ++ [x]) (r.extended p t now) := by
  refine h.snoc hr' rfl rfl rfl fun q hq => ?_
  obtain rfl : p = q := Option.some.inj (hp.symm.trans hq)
  exact ⟨_, rfl, rfl⟩

/-- One command: the record it leaves is witnessed by the run up to and including it. -/
theorem witnessed_edit (hr : (c.run steps).getRequest id = some r) (h : Witnessed c id steps r)
    (hedit : Edit c x.env (c.run steps) x.command (c.reply (c.run steps) x) r r')
    (hr' : (c.run (steps ++ [x])).getRequest id = some r') : Witnessed c id (steps ++ [x]) r' := by
  have hrid := Store.getRequest_requestId hr
  have hnot : r'.status ≠ .created → NotCreated c id (steps ++ [x]) := notCreated_of_get hr'
  obtain ⟨env, command⟩ := x
  dsimp only at hedit
  generalize hreply : c.reply (c.run steps) ⟨env, command⟩ = answer at hedit
  cases hedit with
  | claim _ _ _ hw _ hlease =>
    subst hw
    exact witnessed_claim hrid hlease hreply (hnot RequestStatus.noConfusion)
  | present hid hw hs hl hm hlive =>
    rw [hrid] at hid hreply
    exact witnessed_present h hid.symm hw hs hl hm hlive hreply (hnot RequestStatus.noConfusion)
  | resolve hid hw hs hp hm hlive =>
    rw [hrid] at hid
    exact witnessed_resolve hr h hid.symm hw hs hp hm hlive hr' (hnot RequestStatus.noConfusion)
  | resume _ _ _ _ hp => exact h.extended hp hr'
  | represent _ _ _ hp => exact h.extended hp hr'
  | heartbeat _ _ _ _ _ hp => exact h.extended hp hr'
  | reject =>
    rcases rejected_status r _ (env.now 0) with hs | hs | hs | hs <;>
      exact .of_other _ hs (by decide) (by decide) (by decide)
  | cancel => exact .of_other .cancelled rfl (by decide) (by decide) (by decide)
  | expire => exact .of_other .expired rfl (by decide) (by decide) (by decide)
  | release => exact .of_other .created rfl (by decide) (by decide) (by decide)
  | evict => exact h.snoc hr' rfl rfl rfl fun q hq => ⟨q, hq, rfl⟩

/-- Every record a run reaches is witnessed by the run. -/
theorem run_witnessed (c : Coordinator) (steps : List Step) :
    ∀ id r, (c.run steps).getRequest id = some r → Witnessed c id steps r := by
  induction steps using List.reverseRecOn with
  | nil =>
    intro id r hr
    cases hr
  | append_singleton steps x ih =>
    intro id r' hr'
    have hchange := run_change c steps x id
    rw [hr'] at hchange
    generalize hr : (c.run steps).getRequest id = before at hchange
    cases hchange with
    | same => exact (ih id r' hr).snoc hr' rfl rfl rfl fun p hp => ⟨p, hp, rfl⟩
    | creation h =>
      refine .of_other .created ?_ (by decide) (by decide) (by decide)
      rw [h.record]
      rfl
    | edit h => exact witnessed_edit hr (ih id _ hr) h hr'

end Induction

/-- A lease id handed out at some point was not handed out before. -/
theorem LeasesDistinct.fresh {a b : List Step} {x : Step} {leaseId : DeliveryLeaseId}
    (h : LeasesDistinct (a ++ x :: b)) (hx : x.newLease = some leaseId) :
    ∀ y ∈ a, y.newLease ≠ some leaseId := by
  intro y hy hlease
  unfold LeasesDistinct at h
  rw [List.filterMap_append, List.filterMap_cons_some hx] at h
  exact (List.nodup_append.mp h).2.2 leaseId (List.mem_filterMap.mpr ⟨y, hy, hlease⟩) leaseId
    (List.mem_cons_self ..) rfl

theorem LeasesDistinct.later {a b : List Step} {x : Step} {leaseId : DeliveryLeaseId}
    (h : LeasesDistinct (a ++ x :: b)) (hx : x.newLease = some leaseId) :
    ∀ y ∈ b, y.newLease ≠ some leaseId := by
  intro y hy hlease
  unfold LeasesDistinct at h
  rw [List.filterMap_append, List.filterMap_cons_some hx] at h
  exact (List.nodup_cons.mp (List.nodup_append.mp h).2.1).1 (List.mem_filterMap.mpr ⟨y, hy, hlease⟩)

/-- Approval provenance. The run up to an approved request contains a pull that returned it with a
fresh lease, its presentation under that lease and its resolution under that presentation, each in
time and in this order; from the pull on the request is never back in the queue, and no earlier
pull was given the same lease id. -/
theorem approval_provenance (c : Coordinator) (steps : List Step) (hleases : LeasesDistinct steps)
    {id : RequestId} {r : RequestRecord} (hr : (c.run steps).getRequest id = some r)
    (happroved : r.status = .approved) :
    ∃ a x₁ b x₂ d x₃ e lease presentationId, steps = a ++ x₁ :: b ++ x₂ :: d ++ x₃ :: e ∧
      Pulled c id r.walletInstanceId lease a x₁ ∧
      PresentedUnder c id r.walletInstanceId lease presentationId (a ++ x₁ :: b) x₂ ∧
      ResolvedUnder c id r.walletInstanceId presentationId (a ++ x₁ :: b ++ x₂ :: d) x₃ ∧
      Trace.Throughout (NotCreated c id) (a ++ [x₁]) (b ++ x₂ :: d ++ x₃ :: e) ∧
      ∀ y ∈ a, y.newLease ≠ some lease.deliveryLeaseId := by
  obtain ⟨l₃, x₃, e, hsteps, ⟨presentationId, hpresented, hresolved⟩, hN₃⟩ :=
    (run_witnessed c steps id r hr).approved happroved
  obtain ⟨l₂, x₂, d, rfl, ⟨lease, hdelivered, hunder⟩, hN₂⟩ := hpresented
  obtain ⟨a, x₁, b, rfl, hpulled, hN₁⟩ := hdelivered
  refine ⟨a, x₁, b, x₂, d, x₃, e, lease, presentationId, hsteps, hpulled, hunder, hresolved, ?_, ?_⟩
  · have hfirst : Trace.Throughout (NotCreated c id) (a ++ [x₁]) (b ++ x₂ :: d) :=
      hN₁.append (.cons hN₁.last (by simpa using hN₂))
    exact hfirst.append (.cons hfirst.last (by simpa using hN₃))
  · have hsplit : steps = a ++ x₁ :: (b ++ x₂ :: d ++ x₃ :: e) := by
      rw [hsteps]
      simp
    rw [hsplit] at hleases
    exact hleases.fresh hpulled.2.1

open Session in
theorem approval_provenance_of_session : ∃ r, (coordinator.run approving).getRequest request = some r ∧
    r.status = .approved ∧
    ∃ a x₁ b x₂ d x₃ e lease presentationId, approving = a ++ x₁ :: b ++ x₂ :: d ++ x₃ :: e ∧
      Pulled coordinator request r.walletInstanceId lease a x₁ ∧
      PresentedUnder coordinator request r.walletInstanceId lease presentationId (a ++ x₁ :: b) x₂ ∧
      ResolvedUnder coordinator request r.walletInstanceId presentationId
        (a ++ x₁ :: b ++ x₂ :: d) x₃ := by
  have hstatus : ((coordinator.run approving).getRequest request).map RequestRecord.status =
      some .approved := by decide +kernel
  obtain ⟨r, hr, happroved⟩ := Option.map_eq_some_iff.mp hstatus
  have hleases : LeasesDistinct approving := List.nodup_singleton lease₁
  obtain ⟨a, x₁, b, x₂, d, x₃, e, lease, presentationId, hsplit, hpull, hpresent, hresolve, -⟩ :=
    approval_provenance coordinator approving hleases hr happroved
  exact ⟨r, hr, happroved, a, x₁, b, x₂, d, x₃, e, lease, presentationId, hsplit, hpull, hpresent,
    hresolve⟩

end StarcoinMcp.Starmask
