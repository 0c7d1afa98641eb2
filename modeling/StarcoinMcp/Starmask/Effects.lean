import StarcoinMcp.Starmask.Edits

/-! One spec for each method that writes: which answer it gives and which requests
it rewrites. Put together, every command changes every stored request by at most one
`Edit`, and adds at most one request by a `Creation`. -/

namespace StarcoinMcp.Starmask

open Coordinator

/-- What a command did to the requests: row by row, one `Change`. -/
def Changes (c : Coordinator) (env : Env) (s : Store) (command : CoordinatorCommand)
    (reply : CoreResult CoordinatorResponse) (s' : Store) : Prop :=
  ∀ id, Change c env s command reply (s.getRequest id) (s'.getRequest id)

/-- Results are only kept on approved requests; the eviction loop relies on it. -/
def ResultsApproved (s : Store) : Prop :=
  ∀ r ∈ s.requests.rows, r.result.isSome = true → r.status = .approved

section Changes

variable {c : Coordinator} {env : Env} {s s' : Store} {command : CoordinatorCommand}
  {reply : CoreResult CoordinatorResponse}

theorem changes_of_requests_eq (h : s'.requests = s.requests) : Changes c env s command reply s' := by
  intro id
  unfold Store.getRequest
  rw [h]
  exact .same _

theorem changes_of_rewritten {f : RequestRecord → RequestRecord}
    (h : ∀ id, s'.getRequest id = (s.getRequest id).map f)
    (hf : ∀ r ∈ s.requests.rows, f r = r ∨ Edit c env s command reply r (f r)) :
    Changes c env s command reply s' := by
  intro id
  rw [h id]
  cases hr : s.getRequest id with
  | none => exact .same none
  | some r =>
    rw [Option.map_some]
    rcases hf r (Store.mem_of_getRequest hr) with he | he
    · rw [he]
      exact .same _
    · exact .edit he

theorem changes_of_write {id : RequestId} {r r' : RequestRecord} (hr : s.getRequest id = some r)
    (h : Rewritten (fun x => if x.requestId = id then r' else x) s s')
    (he : Edit c env s command reply r r') : Changes c env s command reply s' := by
  refine changes_of_rewritten h.requests fun x hx => ?_
  by_cases hid : x.requestId = id
  · have hxr : some x = some r := by
      rw [← hr, ← hid]
      exact (Store.mem_requests_iff.mp hx).symm
    rw [if_pos hid, Option.some.inj hxr]
    exact .inr he
  · exact .inl (if_neg hid)

end Changes

/-! ## Commands that write wallet tables only -/

section Wallets

open FailState

theorem keeps_storeCall {α τ : Type} {part : Store → τ} {f : Store → Except RepositoryError (α × Store)}
    (hf : ∀ s a s', f s = .ok (a, s') → part s' = part s) : Keeps part (storeCall f) := by
  refine Keeps.call fun s a s' h => ?_
  cases hs : f s with
  | error e =>
    rw [hs] at h
    cases h
  | ok x =>
    rw [hs] at h
    cases h
    exact hf s a s' hs

theorem keepsRequests_upsertWalletInstance (w : WalletInstanceRecord) :
    Keeps Store.requests (upsertWalletInstance w) := fun _ => rfl

theorem upsertWalletInstance_apply (w : WalletInstanceRecord) (s : Store) :
    upsertWalletInstance w s = (.ok (), s.upsertWalletInstance w) := rfl

theorem labelAccounts_requests {w : WalletInstanceId} {known : List String} {updatedAt : Int} :
    ∀ {accounts : List WalletAccountRecord} {n : Int} {s s' : Store},
      Store.labelAccounts w known updatedAt accounts n s = .ok s' → s'.requests = s.requests
  | [], n, s, s', h => by
    cases h
    rfl
  | a :: accounts, n, s, s', h => by
    unfold Store.labelAccounts at h
    split_ifs at h with hknown
    · exact labelAccounts_requests h
    · obtain ⟨label, -, hrest⟩ := bind_eq_ok h
      exact (labelAccounts_requests hrest).trans rfl

theorem insertWalletAccounts_requests :
    ∀ {accounts : List WalletAccountRecord} {s s' : Store},
      Store.insertWalletAccounts accounts s = .ok s' → s'.requests = s.requests
  | [], s, s', h => by
    cases h
    rfl
  | a :: accounts, s, s', h => by
    unfold Store.insertWalletAccounts at h
    split at h
    · cases h
    · cases h
    · exact (insertWalletAccounts_requests h).trans rfl

theorem replaceWalletAccounts_requests {s s' : Store} {w : WalletInstanceId}
    {accounts : List WalletAccountRecord} {t : Int}
    (h : s.replaceWalletAccounts w accounts t = .ok s') : s'.requests = s.requests := by
  obtain ⟨isLocal, -, h₁⟩ := bind_eq_ok h
  cases isLocal with
  | true =>
    obtain ⟨labelled, hlabel, h₂⟩ := bind_eq_ok h₁
    have hrequests : labelled.requests = s.requests := labelAccounts_requests hlabel
    exact (insertWalletAccounts_requests h₂).trans hrequests
  | false => exact (insertWalletAccounts_requests h₁).trans rfl

theorem keepsRequests_replaceWalletAccounts (env : Env) (w : WalletInstanceId)
    (accounts : List WalletAccountRecord) :
    Keeps Store.requests (replaceWalletAccounts env w accounts) := by
  refine keeps_storeCall fun s a s' h => ?_
  cases hr : s.replaceWalletAccounts w accounts env.currentTimestampMs with
  | error e => simp [hr, Except.map] at h
  | ok s₁ =>
    have hs : s₁ = s' := by simpa [hr, Except.map] using h
    exact hs ▸ replaceWalletAccounts_requests hr

theorem keepsRequests_registerBackend (env : Env) (command : RegisterBackendCommand) :
    Keeps Store.requests (registerBackend env command) := by
  refine Keeps.bind (fun _ => rfl) fun _ => ?_
  exact (keepsRequests_upsertWalletInstance _).bind fun _ =>
    keepsRequests_replaceWalletAccounts env _ _

theorem keepsRequests_updateBackendAccounts (env : Env) (command : UpdateBackendAccountsCommand) :
    Keeps Store.requests (updateBackendAccounts env command) := by
  refine Keeps.bind (fun _ => rfl) fun _ => ?_
  exact (keepsRequests_upsertWalletInstance _).bind fun _ =>
    keepsRequests_replaceWalletAccounts env _ _

theorem setWalletAccountLabel_requests {s s' : Store} {w : WalletInstanceId} {address label : String}
    {t : Int} {a : WalletAccountRecord} (h : s.setWalletAccountLabel w address label t = .ok (a, s')) :
    s'.requests = s.requests := by
  obtain ⟨isLocal, -, h₁⟩ := bind_eq_ok h
  cases isLocal with
  | false => cases h₁
  | true =>
    simp only [Bool.not_true, Bool.false_eq_true, if_false] at h₁
    split at h₁
    · cases h₁
    · obtain ⟨normalized, -, h₂⟩ := bind_eq_ok h₁
      cases h₂
      rfl

theorem keepsRequests_walletSetAccountLabel (env : Env) (command : SetAccountLabelCommand) :
    Keeps Store.requests (walletSetAccountLabel env command) := by
  refine Keeps.bind (fun _ => rfl) fun wallet => ?_
  split_ifs
  · exact fun _ => rfl
  · exact fun _ => rfl
  · refine Keeps.bind (fun _ => rfl) fun account => ?_
    split_ifs
    · exact fun _ => rfl
    · exact (keeps_storeCall fun s a s' h => setWalletAccountLabel_requests h).bind fun _ => fun _ => rfl

theorem keepsRequests_disconnectIfStale (c : Coordinator) (now : TimestampMs)
    (w : WalletInstanceRecord) : Keeps Store.requests (c.disconnectIfStale now w) := by
  unfold disconnectIfStale
  split_ifs
  · exact keepsRequests_upsertWalletInstance _
  · exact fun _ => rfl

end Wallets

/-! ## Heartbeats -/

/-- What a heartbeat makes of a request it names. -/
def RequestRecord.heartbeaten (r : RequestRecord) (w : WalletInstanceId) (now expiresAt : TimestampMs) :
    RequestRecord :=
  if r.walletInstanceId ≠ w ∨ r.status ≠ .pendingUserApproval then r
  else match r.presentation with
    | none => r
    | some p => r.extended p expiresAt now

section Heartbeat

variable {w : WalletInstanceId} {now t : TimestampMs} {r : RequestRecord}

theorem heartbeaten_cases (r : RequestRecord) (w : WalletInstanceId) (now t : TimestampMs) :
    r.heartbeaten w now t = r ∨ ∃ p, r.walletInstanceId = w ∧ r.status = .pendingUserApproval ∧
      r.presentation = some p ∧ r.heartbeaten w now t = r.extended p t now := by
  unfold RequestRecord.heartbeaten
  split_ifs with h
  · exact .inl rfl
  · obtain ⟨hw, hs⟩ := not_or.mp h
    cases hp : r.presentation with
    | none => exact .inl rfl
    | some p => exact .inr ⟨p, not_not.mp hw, not_not.mp hs, rfl, rfl⟩

theorem heartbeaten_requestId : (r.heartbeaten w now t).requestId = r.requestId := by
  rcases heartbeaten_cases r w now t with h | ⟨p, -, -, -, h⟩ <;> rw [h]
  rfl

theorem heartbeaten_walletInstanceId : (r.heartbeaten w now t).walletInstanceId = r.walletInstanceId := by
  rcases heartbeaten_cases r w now t with h | ⟨p, -, -, -, h⟩ <;> rw [h]
  rfl

theorem heartbeaten_idem : (r.heartbeaten w now t).heartbeaten w now t = r.heartbeaten w now t := by
  rcases heartbeaten_cases r w now t with h | ⟨p, hw, hs, -, h⟩
  · rw [h, h]
  · rw [h]
    unfold RequestRecord.heartbeaten
    have hlive : ¬ ((r.extended p t now).walletInstanceId ≠ w ∨
        (r.extended p t now).status ≠ .pendingUserApproval) := by
      rw [not_or, not_not, not_not]
      exact ⟨hw, hs⟩
    rw [if_neg hlive]
    rfl

theorem heartbeatRequest_spec (w : WalletInstanceId) (now t : TimestampMs) (id : RequestId) (s : Store) :
    ∃ s', heartbeatRequest w now t id s = (.ok (), s') ∧
      Rewritten (fun r => if r.requestId = id then r.heartbeaten w now t else r) s s' := by
  unfold heartbeatRequest
  rw [FailState.read_bind]
  cases hr : s.getRequest id with
  | none =>
    refine ⟨s, rfl, (Rewritten.refl s).congr fun x hx => ?_⟩
    have hne : x.requestId ≠ id := fun e => by
      rw [← e, Store.mem_requests_iff.mp hx] at hr
      cases hr
    exact (if_neg hne).symm
  | some r =>
    have hself : ∀ x ∈ s.requests.rows, x.requestId = id → x = r := by
      intro x hx e
      rw [← e, Store.mem_requests_iff.mp hx] at hr
      exact Option.some.inj hr
    have hskip : r.heartbeaten w now t = r →
        Rewritten (fun r => if r.requestId = id then r.heartbeaten w now t else r) s s := by
      intro he
      refine (Rewritten.refl s).congr fun x hx => ?_
      by_cases hid : x.requestId = id
      · rw [if_pos hid, hself x hx hid, he]
        rfl
      · exact (if_neg hid).symm
    dsimp only
    split_ifs with hguard
    · exact ⟨s, rfl, hskip (if_pos hguard)⟩
    · cases hp : r.presentation with
      | none => exact ⟨s, rfl, hskip (by unfold RequestRecord.heartbeaten; rw [if_neg hguard, hp])⟩
      | some p =>
        have he : r.heartbeaten w now t = r.extended p t now := by
          unfold RequestRecord.heartbeaten
          rw [if_neg hguard, hp]
        refine ⟨s.writeRequest (r.extended p t now), ?_, ?_⟩
        · exact FailState.bind_ok (updateRequest_apply (rewritable_of_getRequest hr rfl rfl))
        · have hwritten : Rewritten (fun x => if x.requestId = id then r.extended p t now else x) s
              (s.writeRequest (r.extended p t now)) := rewritten_writeRequest hr rfl rfl
          refine hwritten.congr fun x hx => ?_
          by_cases hid : x.requestId = id
          · rw [if_pos hid, if_pos hid, hself x hx hid, he]
          · rw [if_neg hid, if_neg hid]

/-- Naming a request twice in one heartbeat changes nothing more. -/
theorem heartbeat_loop (w : WalletInstanceId) (now t : TimestampMs) :
    ∀ (ids : List RequestId) (s : Store), ∃ s', ids.forM (heartbeatRequest w now t) s = (.ok (), s') ∧
      Rewritten (fun r => if r.requestId ∈ ids then r.heartbeaten w now t else r) s s'
  | [], s => ⟨s, rfl, (Rewritten.refl s).congr fun r _ => by simp⟩
  | id :: ids, s => by
    obtain ⟨s₁, hrun, hw₁⟩ := heartbeatRequest_spec w now t id s
    obtain ⟨s₂, hrest, hw₂⟩ := heartbeat_loop w now t ids s₁
    refine ⟨s₂, ?_, (hw₁.trans hw₂).congr fun r _ => ?_⟩
    · exact (FailState.bind_ok hrun).trans hrest
    · by_cases hid : r.requestId = id <;> by_cases hmem : r.requestId ∈ ids <;>
        simp [hid, hmem, heartbeaten_requestId, heartbeaten_idem]

end Heartbeat

section Methods

variable (c : Coordinator) (env : Env) (s : Store)

/-- A heartbeat that reaches its loop; otherwise no request is touched. -/
theorem heartbeatBackend_cases (h : HeartbeatBackendCommand) :
    ((s.getWalletInstance h.walletInstanceId = none ∨ h.presentedRequestIds = [] ∨
        checkedAddSeconds (env.now 0) c.config.presentationLeaseTtl = none) ∧
      (c.heartbeatBackend env h s).2.requests = s.requests) ∨
    ∃ t s₁ s', s.getWalletInstance h.walletInstanceId ≠ none ∧
      checkedAddSeconds (env.now 0) c.config.presentationLeaseTtl = some t ∧
      s₁.requests = s.requests ∧ c.heartbeatBackend env h s = (.ok (), s') ∧
      Rewritten (fun r => if r.requestId ∈ h.presentedRequestIds then
        r.heartbeaten h.walletInstanceId (env.now 0) t else r) s₁ s' := by
  unfold heartbeatBackend
  cases hwallet : requireWalletInstance h.walletInstanceId s with
  | error e =>
    rw [reading_error_bind hwallet]
    exact .inl ⟨.inl (requireWalletInstance_error hwallet), rfl⟩
  | ok wallet =>
    rw [reading_ok_bind hwallet, FailState.bind_ok (upsertWalletInstance_apply _ s)]
    split_ifs with hempty
    · exact .inl ⟨.inr (.inl (List.isEmpty_iff.mp hempty)), rfl⟩
    · cases hadd : addLease (env.now 0) c.config.presentationLeaseTtl
          "presentation lease timestamp overflow" with
      | error e => exact .inl ⟨.inr (.inr (addLease_error hadd)), rfl⟩
      | ok t =>
        rw [FailState.lift_ok_bind]
        generalize hs₁ : s.upsertWalletInstance _ = s₁
        have hrequests : s₁.requests = s.requests := hs₁ ▸ rfl
        obtain ⟨s', hrun, hrw⟩ := heartbeat_loop h.walletInstanceId (env.now 0) t
          h.presentedRequestIds s₁
        exact .inr ⟨t, s₁, s', requireWalletInstance_ok hwallet, addLease_ok hadd, hrequests, hrun, hrw⟩

theorem changes_heartbeatBackend {command : CoordinatorCommand} (h : HeartbeatBackendCommand)
    (hcommand : command.heartbeat? = some (h.walletInstanceId, h.presentedRequestIds)) :
    Changes c env s command ((c.heartbeatBackend env h s).1.map fun _ => .ack)
      (c.heartbeatBackend env h s).2 := by
  rcases heartbeatBackend_cases c env s h with ⟨-, hsame⟩ |
    ⟨t, s₁, s', hreg, ht, hs₁, hrun, hrw⟩
  · exact changes_of_requests_eq hsame
  · rw [hrun]
    have hget : ∀ id, s₁.getRequest id = s.getRequest id := fun id => by
      unfold Store.getRequest
      rw [hs₁]
    refine changes_of_rewritten (fun id => hget id ▸ hrw.requests id) fun r _ => ?_
    by_cases hid : r.requestId ∈ h.presentedRequestIds
    · rw [if_pos hid]
      rcases heartbeaten_cases r h.walletInstanceId (env.now 0) t with he | ⟨p, hw, hs, hp, he⟩
      · exact .inl he
      · rw [he]
        exact .inr (.heartbeat hcommand hreg hid hw hs hp ht)
    · exact .inl (if_neg hid)

/-! ## Delivery -/

theorem head_filter {α : Type} {l : List α} {p : α → Bool} {a : α} (h : (l.filter p).head? = some a) :
    a ∈ l ∧ p a = true :=
  List.mem_filter.mp (List.mem_of_mem_head? h)

theorem nextCreatedRequest_spec {scan : Scan RequestRecord} {w : WalletInstanceId} {s : Store}
    {r : RequestRecord} (h : s.nextCreatedRequest scan w = some r) :
    r ∈ s.requests.rows ∧ r.walletInstanceId = w ∧ r.status = .created := by
  have hmem := Scan.mem_orderBy.mp (List.mem_of_mem_head? h)
  simpa using hmem

theorem findResumableRequest_spec {env : Env} {w : WalletInstanceId} {s : Store} {r : RequestRecord}
    (h : findResumableRequest env w s = some r) :
    r ∈ s.requests.rows ∧ r.walletInstanceId = w ∧ r.status = .pendingUserApproval ∧
      ∃ p, r.presentation = some p ∧ env.now 1 < p.presentationExpiresAt := by
  obtain ⟨hmem, hres⟩ := head_filter h
  have hrow := Scan.mem_orderBy.mp hmem
  unfold resumable at hres
  simp only [Option.any_eq_true, decide_eq_true_eq] at hres
  obtain ⟨hw, hs, p, hp, hlive⟩ := hres
  exact ⟨(List.mem_filter.mp hrow).1, hw, hs, p, hp, by simpa using hlive⟩

theorem claimNextRequestForWallet_some {scan : Scan RequestRecord} {w : WalletInstanceId} {s : Store}
    {r : RequestRecord} {lease : DeliveryLease} {now : TimestampMs}
    (h : s.nextCreatedRequest scan w = some r) :
    s.claimNextRequestForWallet scan w lease now =
      .ok (some (r.claimed lease now), s.writeRequest (r.claimed lease now)) := by
  have hr := Store.mem_requests_iff.mp (nextCreatedRequest_spec h).1
  unfold Store.claimNextRequestForWallet
  rw [h]
  dsimp only
  have hwrite : s.Rewritable (r.claimed lease now) := rewritable_of_getRequest hr rfl rfl
  have hupdate := Store.updateRequest_eq hwrite
  unfold RequestRecord.claimed at hupdate
  rw [hupdate]
  rfl

theorem pullNextRequest_claim {w : WalletInstanceId} {r : RequestRecord} {lease : DeliveryLease}
    (hwallet : s.getWalletInstance w ≠ none) (hfind : findResumableRequest env w s = none)
    (hnext : s.nextCreatedRequest env.requestScan w = some r)
    (hid : env.newDeliveryLeaseId = .ok lease.deliveryLeaseId)
    (hexp : checkedAddSeconds (env.now 2) c.config.deliveryLeaseTtl = some lease.deliveryLeaseExpiresAt) :
    c.pullNextRequest env w s =
      (.ok ⟨w, some (projectPulledRequest (r.claimed lease (env.now 0)) false)⟩,
        s.writeRequest (r.claimed lease (env.now 0))) := by
  obtain ⟨wallet, hw⟩ := Option.ne_none_iff_exists'.mp hwallet
  have hown : requireWalletInstance w s = .ok wallet := by
    unfold requireWalletInstance
    rw [hw]
  unfold pullNextRequest addLease
  rw [reading_ok_bind hown, FailState.read_bind, hfind]
  dsimp only
  rw [hid, FailState.lift_ok_bind, hexp]
  dsimp only
  rw [FailState.lift_ok_bind, FailState.bind_ok (storeCall_ok (claimNextRequestForWallet_some hnext))]
  rfl

theorem pullNextRequest_resume {w : WalletInstanceId} {r : RequestRecord} {p : PresentationLease}
    {t : TimestampMs} (hwallet : s.getWalletInstance w ≠ none)
    (hfind : findResumableRequest env w s = some r) (hp : r.presentation = some p)
    (hexp : checkedAddSeconds (env.now 0) c.config.presentationLeaseTtl = some t) :
    c.pullNextRequest env w s =
      (.ok ⟨w, some (projectPulledRequest (r.extended p t (env.now 0)) true)⟩,
        s.writeRequest (r.extended p t (env.now 0))) := by
  obtain ⟨wallet, hw⟩ := Option.ne_none_iff_exists'.mp hwallet
  have hown : requireWalletInstance w s = .ok wallet := by
    unfold requireWalletInstance
    rw [hw]
  have hr := Store.mem_requests_iff.mp (findResumableRequest_spec hfind).1
  have hwrite : s.Rewritable (r.extended p t (env.now 0)) := rewritable_of_getRequest hr rfl rfl
  have hrecord : c.resumedRecord env r = .ok (r.extended p t (env.now 0)) := by
    unfold resumedRecord addLease
    rw [hp, hexp]
    rfl
  unfold pullNextRequest
  rw [reading_ok_bind hown, FailState.read_bind, hfind]
  dsimp only
  rw [hrecord, FailState.lift_ok_bind, FailState.bind_ok (updateRequest_apply hwrite)]
  rfl

/-- How a pull ends: refused, with nothing to deliver, on a resumed or on a claimed request. -/
theorem pullNextRequest_cases (w : WalletInstanceId) :
    (∃ e, c.pullNextRequest env w s = (.error e, s)) ∨
    (findResumableRequest env w s = none ∧ s.nextCreatedRequest env.requestScan w = none ∧
      c.pullNextRequest env w s = (.ok ⟨w, none⟩, s)) ∨
    (∃ r p t, s.getWalletInstance w ≠ none ∧ findResumableRequest env w s = some r ∧
      r.presentation = some p ∧
      checkedAddSeconds (env.now 0) c.config.presentationLeaseTtl = some t ∧
      c.pullNextRequest env w s =
        (.ok ⟨w, some (projectPulledRequest (r.extended p t (env.now 0)) true)⟩,
          s.writeRequest (r.extended p t (env.now 0)))) ∨
    ∃ r lease, s.getWalletInstance w ≠ none ∧ findResumableRequest env w s = none ∧
      s.nextCreatedRequest env.requestScan w = some r ∧
      env.newDeliveryLeaseId = .ok lease.deliveryLeaseId ∧
      checkedAddSeconds (env.now 2) c.config.deliveryLeaseTtl = some lease.deliveryLeaseExpiresAt ∧
      c.pullNextRequest env w s =
        (.ok ⟨w, some (projectPulledRequest (r.claimed lease (env.now 0)) false)⟩,
          s.writeRequest (r.claimed lease (env.now 0))) := by
  cases hwallet : requireWalletInstance w s with
  | error e => exact .inl ⟨e, reading_error_bind hwallet⟩
  | ok wallet =>
    have hreg := requireWalletInstance_ok hwallet
    cases hfind : findResumableRequest env w s with
    | some r =>
      obtain ⟨-, -, -, p, hp, -⟩ := findResumableRequest_spec hfind
      cases hexp : checkedAddSeconds (env.now 0) c.config.presentationLeaseTtl with
      | some t =>
        exact .inr (.inr (.inl ⟨r, p, t, hreg, rfl, hp, rfl,
          pullNextRequest_resume c env s hreg hfind hp hexp⟩))
      | none =>
        have hrecord : ∃ e, c.resumedRecord env r = .error e := by
          unfold resumedRecord addLease
          rw [hp, hexp]
          exact ⟨_, rfl⟩
        obtain ⟨e, he⟩ := hrecord
        refine .inl ⟨e, ?_⟩
        unfold pullNextRequest
        rw [reading_ok_bind hwallet, FailState.read_bind, hfind]
        dsimp only
        rw [he]
        rfl
    | none =>
      cases hid : env.newDeliveryLeaseId with
      | error e =>
        refine .inl ⟨e, ?_⟩
        unfold pullNextRequest
        rw [reading_ok_bind hwallet, FailState.read_bind, hfind]
        dsimp only
        rw [hid]
        rfl
      | ok leaseId =>
        cases hexp : checkedAddSeconds (env.now 2) c.config.deliveryLeaseTtl with
        | none =>
          refine .inl ⟨.invariant "delivery lease timestamp overflow", ?_⟩
          unfold pullNextRequest addLease
          rw [reading_ok_bind hwallet, FailState.read_bind, hfind]
          dsimp only
          rw [hid, FailState.lift_ok_bind, hexp]
          rfl
        | some t =>
          cases hnext : s.nextCreatedRequest env.requestScan w with
          | some r =>
            exact .inr (.inr (.inr ⟨r, ⟨leaseId, t⟩, hreg, rfl, rfl, rfl, rfl,
              pullNextRequest_claim c env s hreg hfind hnext hid hexp⟩))
          | none =>
            have hcall : s.claimNextRequestForWallet env.requestScan w ⟨leaseId, t⟩ (env.now 0) =
                .ok (none, s) := by
              unfold Store.claimNextRequestForWallet
              rw [hnext]
            refine .inr (.inl ⟨rfl, rfl, ?_⟩)
            unfold pullNextRequest addLease
            rw [reading_ok_bind hwallet, FailState.read_bind, hfind]
            dsimp only
            rw [hid, FailState.lift_ok_bind, hexp]
            dsimp only
            rw [FailState.lift_ok_bind, FailState.bind_ok (storeCall_ok hcall)]
            rfl

theorem changes_pullNextRequest (w : WalletInstanceId) :
    Changes c env s (.pullNextRequest w) ((c.pullNextRequest env w s).1.map .pullNextRequest)
      (c.pullNextRequest env w s).2 := by
  rcases pullNextRequest_cases c env s w with ⟨e, hrun⟩ | ⟨-, -, hrun⟩ | ⟨r, p, t, hreg, hfind, hp,
    hexp, hrun⟩ |
    ⟨r, lease, hreg, hfind, hnext, hid, hexp, hrun⟩
  · rw [hrun]
    exact changes_of_requests_eq rfl
  · rw [hrun]
    exact changes_of_requests_eq rfl
  · obtain ⟨hmem, hw, hs, q, hq, hlive⟩ := findResumableRequest_spec hfind
    obtain rfl : p = q := Option.some.inj (hp.symm.trans hq)
    have hr := Store.mem_requests_iff.mp hmem
    rw [hrun]
    exact changes_of_write hr (rewritten_writeRequest hr rfl rfl) (.resume hreg hfind hw hs hp hlive hexp)
  · obtain ⟨hmem, hw, hs⟩ := nextCreatedRequest_spec hnext
    have hr := Store.mem_requests_iff.mp hmem
    rw [hrun]
    exact changes_of_write hr (rewritten_writeRequest hr rfl rfl)
      (.claim hreg hfind hnext hw hs hid hexp)

/-! ## Answers of the claimant -/

theorem changes_rewriteOwned {α : Type} {command : CoordinatorCommand} {id : RequestId}
    {w : WalletInstanceId} {f : RequestRecord → CoreResult RequestRecord} {g : RequestRecord → α}
    {wrap : α → CoordinatorResponse}
    (hf : ∀ r r', r.requestId = id → r.walletInstanceId = w → f r = .ok r' →
      Edit c env s command (.ok (wrap (g r'))) r r') :
    Changes c env s command ((rewriteOwned id w f g s).1.map wrap) (rewriteOwned id w f g s).2 := by
  have hids : ∀ r r', s.getRequest id = some r → r.walletInstanceId = w → f r = .ok r' →
      r'.requestId = r.requestId ∧ r'.clientRequestId = r.clientRequestId := by
    intro r r' hr hw hfr
    have hedit := hf r r' (Store.getRequest_requestId hr) hw hfr
    exact ⟨requestId_of_identity hedit.identity_eq, clientRequestId_of_identity hedit.identity_eq⟩
  rcases rewriteOwned_cases (g := g) hids with ⟨e, hrun⟩ | ⟨r, r', hr, hw, hfr, hrun, hrw⟩
  · rw [hrun]
    exact changes_of_requests_eq rfl
  · rw [hrun]
    exact changes_of_write hr hrw (hf r r' (Store.getRequest_requestId hr) hw hfr)

theorem markRequestPresented_eq (command : MarkRequestPresentedCommand) :
    c.markRequestPresented env command =
      rewriteOwned command.requestId command.walletInstanceId (c.presentedRecord env command)
        fun r => RequestPresentedResult.mk r.requestId r.status := rfl

theorem resolveRequest_eq (command : ResolveRequestCommand) :
    c.resolveRequest env command =
      rewriteOwned command.requestId command.walletInstanceId (c.resolvedRecord env command)
        fun r => RequestResolvedResult.mk r.requestId r.status command.result.resultKind
          r.resultExpiresAt := rfl

theorem rejectRequest_eq (command : RejectRequestCommand) :
    rejectRequest env command =
      rewriteOwned command.requestId command.walletInstanceId (rejectedRecord env command)
        fun r => RequestRejectedResult.mk r.requestId r.status
          (mapRejectReason command.reasonCode).2.1 := rfl

theorem changes_markRequestPresented (command : MarkRequestPresentedCommand) :
    Changes c env s (.markRequestPresented command)
      ((c.markRequestPresented env command s).1.map .requestPresented)
      (c.markRequestPresented env command s).2 := by
  rw [markRequestPresented_eq]
  exact changes_rewriteOwned c env s fun _ _ hid hw h => edit_of_presentedRecord hid hw h

theorem changes_resolveRequest (command : ResolveRequestCommand) :
    Changes c env s (.resolveRequest command)
      ((c.resolveRequest env command s).1.map .requestResolved)
      (c.resolveRequest env command s).2 := by
  rw [resolveRequest_eq]
  exact changes_rewriteOwned c env s fun _ _ hid hw h => edit_of_resolvedRecord hid hw h

theorem changes_rejectRequest (command : RejectRequestCommand) :
    Changes c env s (.rejectRequest command)
      ((rejectRequest env command s).1.map .requestRejected) (rejectRequest env command s).2 := by
  rw [rejectRequest_eq]
  exact changes_rewriteOwned c env s fun _ _ hid hw h => edit_of_rejectedRecord hid hw h

theorem changes_cancelRequest (id : RequestId) :
    Changes c env s (.cancelRequest id) ((cancelRequest env id s).1.map .requestCancelled)
      (cancelRequest env id s).2 := by
  unfold cancelRequest
  rw [FailState.read_bind]
  cases hr : s.getRequest id with
  | none => exact changes_of_requests_eq rfl
  | some r =>
    dsimp only
    cases hterm : r.status.isTerminal with
    | true => exact changes_of_requests_eq rfl
    | false =>
      have hwrite : s.Rewritable (r.cancelled (env.now 0) (env.now 1)) :=
        rewritable_of_getRequest hr rfl rfl
      rw [if_neg Bool.false_ne_true, cancelledRecord_eq hterm, FailState.lift_ok_bind,
        FailState.bind_ok (updateRequest_apply hwrite)]
      obtain rfl := Store.getRequest_requestId hr
      exact changes_of_write hr (rewritten_writeRequest hr rfl rfl) (.cancel hterm)

/-! ## Creation -/

theorem insertRequest_ok {s s' : Store} {r r' : RequestRecord} (h : s.insertRequest r = .ok (r', s')) :
    r' = r ∧ s.SameWallets s' ∧
      ∀ id, s'.getRequest id = if id = r.requestId then some r else s.getRequest id := by
  unfold Store.insertRequest at h
  split_ifs at h with hc
  split at h
  · cases h
  · rename_i requests hi
    cases h
    exact ⟨rfl, ⟨rfl, rfl, rfl⟩, fun id => Table.find_insert hi id⟩

theorem insertRequest_fresh {s s' : Store} {r r' : RequestRecord}
    (h : s.insertRequest r = .ok (r', s')) : s.getRequest r.requestId = none := by
  unfold Store.insertRequest at h
  split_ifs at h with hc
  split at h
  · cases h
  · rename_i requests hi
    exact (Table.insert_eq_some hi).1

/-- How `create_request` ends: on a stored request, with an error, or with a new row. -/
theorem createRequest_cases (args : CreateRequestArgs) :
    (∃ r, s.getRequestByClientRequestId args.clientRequestId = some r ∧
      c.createRequest env args s = (if c.sameRequest args r then .ok (projectRequestSummary r)
        else .error (sharedError .idempotencyKeyConflict
          "client_request_id already exists with a different payload or signing target"), s)) ∨
    (s.getRequestByClientRequestId args.clientRequestId = none ∧
      ∃ e, c.createRequest env args s = (.error e, s)) ∨
    (s.getRequestByClientRequestId args.clientRequestId = none ∧ ∃ r s',
      resolveWalletForRequest args.kind args.accountAddress args.walletInstanceId s =
        .ok r.walletInstanceId ∧
      r = newRequest args (calculatePayloadHash c.sha256 args.payload) r.requestId
        r.walletInstanceId (env.now 0) r.expiresAt ∧
      checkedAddSeconds (env.now 0) (c.clampTtl args.ttlSeconds) = some r.expiresAt ∧
      s.insertRequest r = .ok (r, s') ∧
      c.createRequest env args s = (.ok (projectRequestSummary r), s')) := by
  unfold createRequest
  rw [FailState.read_bind]
  cases hfind : s.getRequestByClientRequestId args.clientRequestId with
  | some r =>
    refine .inl ⟨r, rfl, ?_⟩
    dsimp only
    split_ifs <;> rfl
  | none =>
    dsimp only
    cases hroute : resolveWalletForRequest args.kind args.accountAddress args.walletInstanceId s with
    | error e => exact .inr (.inl ⟨rfl, e, reading_error_bind hroute⟩)
    | ok w =>
      rw [reading_ok_bind hroute]
      cases hadd : addLease (env.now 0) (c.clampTtl args.ttlSeconds)
          "request expiration overflowed timestamp range" with
      | error e => exact .inr (.inl ⟨rfl, e, rfl⟩)
      | ok t =>
        rw [FailState.lift_ok_bind]
        cases hid : env.newRequestId with
        | error e => exact .inr (.inl ⟨rfl, e, rfl⟩)
        | ok id =>
          rw [FailState.lift_ok_bind]
          generalize hr : newRequest args _ id w (env.now 0) t = r
          cases hins : s.insertRequest r with
          | error e => exact .inr (.inl ⟨rfl, _, FailState.bind_error (storeCall_error hins)⟩)
          | ok x =>
            obtain ⟨r', s'⟩ := x
            obtain ⟨rfl, -, -⟩ := insertRequest_ok hins
            refine .inr (.inr ⟨rfl, r', s', ?_⟩)
            subst hr
            exact ⟨rfl, rfl, addLease_ok hadd, hins, FailState.bind_ok (storeCall_ok hins)⟩

theorem changes_createRequest {command : CoordinatorCommand} {args : CreateRequestArgs}
    (hcommand : command.createArgs = some args) :
    Changes c env s command ((c.createRequest env args s).1.map .requestCreated)
      (c.createRequest env args s).2 := by
  rcases createRequest_cases c env s args with ⟨r, hfind, hrun⟩ | ⟨hfind, e, hrun⟩ |
    ⟨hfind, r, s', hroute, hrec, hexp, hins, hrun⟩
  · rw [hrun]
    exact changes_of_requests_eq rfl
  · rw [hrun]
    exact changes_of_requests_eq rfl
  · rw [hrun]
    intro id
    rw [(insertRequest_ok hins).2.2 id]
    by_cases hid : id = r.requestId
    · rw [if_pos hid, hid, insertRequest_fresh hins]
      exact .creation ⟨hcommand, hfind, hroute, hrec, hexp, rfl⟩
    · rw [if_neg hid]
      exact .same _

end Methods

end StarcoinMcp.Starmask
