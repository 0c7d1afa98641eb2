import StarcoinMcp.Starmask.Effects

/-! The maintenance tick as a rewriting of every request, and from it and the specs
of the other methods the effect of `dispatch` as a whole. -/

namespace StarcoinMcp.Starmask

open Coordinator

/-! ## The two loops of the tick -/

/-- What the first loop of the tick makes of a request that is not terminal. -/
def RequestRecord.swept (r : RequestRecord) (now : TimestampMs) : RequestRecord :=
  if r.status.isTerminal then r
  else if r.expiresAt ≤ now then r.expired now
  else if deliveryLeaseExpired now r ∨ presentationExpired now r then r.released now
  else r

/-- What the second loop makes of any request. -/
def RequestRecord.unretained (r : RequestRecord) (now : TimestampMs) : RequestRecord :=
  if r.result.isSome ∧ r.resultExpiresAt.any (fun t => t ≤ now) then r.evicted else r

def sweepCounts (now : TimestampMs) (counts : Nat × Nat) (r : RequestRecord) : Nat × Nat :=
  if r.expiresAt ≤ now then (counts.1 + 1, counts.2)
  else if deliveryLeaseExpired now r then (counts.1, counts.2 + 1)
  else counts

section Loops

variable {now : TimestampMs} {r : RequestRecord} {s : Store}

theorem deliveryLeaseExpired_status (h : deliveryLeaseExpired now r = true) : r.status = .dispatched := by
  unfold deliveryLeaseExpired at h
  simp only [decide_eq_true_eq] at h
  exact h.1

theorem presentationExpired_status (h : presentationExpired now r = true) :
    r.status = .pendingUserApproval := by
  unfold presentationExpired at h
  simp only [decide_eq_true_eq] at h
  exact h.1

theorem swept_ids (r : RequestRecord) : (r.swept now).requestId = r.requestId ∧
    (r.swept now).clientRequestId = r.clientRequestId := by
  unfold RequestRecord.swept
  split_ifs <;> exact ⟨rfl, rfl⟩

theorem unretained_ids (r : RequestRecord) : (r.unretained now).requestId = r.requestId ∧
    (r.unretained now).clientRequestId = r.clientRequestId := by
  unfold RequestRecord.unretained
  split_ifs <;> exact ⟨rfl, rfl⟩

theorem updateRequest_bind {α : Type} {r : RequestRecord} (hr : s.getRequest r.requestId = some r)
    (r' : RequestRecord) (hid : r'.requestId = r.requestId)
    (hc : r'.clientRequestId = r.clientRequestId) (a : α) :
    ∃ s', (updateRequest r' >>= fun _ => pure a) s = (.ok a, s') ∧
      Rewritten (fun x => if x.requestId = r.requestId then r' else x) s s' :=
  ⟨s.writeRequest r', FailState.bind_ok (updateRequest_apply (rewritable_of_getRequest hr hid hc)),
    rewritten_writeRequest hr hid hc⟩

theorem sweepRequest_spec (counts : Nat × Nat) (hr : s.getRequest r.requestId = some r)
    (hlive : r.status.isTerminal = false) :
    ∃ s', sweepRequest now counts r s = (.ok (sweepCounts now counts r), s') ∧
      Rewritten (fun x => if x.requestId = r.requestId then r.swept now else x) s s' := by
  have hnot : ¬ r.status.isTerminal = true := by
    rw [hlive]
    exact Bool.false_ne_true
  unfold sweepRequest sweepCounts RequestRecord.swept
  by_cases hdue : r.expiresAt ≤ now
  · simp only [if_neg hnot, if_pos hdue, expiredRecord_eq hlive, FailState.lift_ok_bind]
    exact updateRequest_bind hr (r.expired now) rfl rfl _
  · simp only [if_neg hnot, if_neg hdue]
    by_cases hlease : deliveryLeaseExpired now r = true
    · simp only [if_pos hlease, if_pos (Or.inl hlease),
        releasedRecord_eq (.inl (deliveryLeaseExpired_status hlease)), FailState.lift_ok_bind]
      exact updateRequest_bind hr (r.released now) rfl rfl _
    · by_cases hpres : presentationExpired now r = true
      · simp only [if_neg hlease, if_pos hpres, if_pos (Or.inr hpres),
          releasedRecord_eq (.inr (presentationExpired_status hpres)), FailState.lift_ok_bind]
        exact updateRequest_bind hr (r.released now) rfl rfl _
      · have hkeep : ¬ (deliveryLeaseExpired now r = true ∨ presentationExpired now r = true) :=
          fun h => h.elim hlease hpres
        simp only [if_neg hlease, if_neg hpres, if_neg hkeep]
        refine ⟨s, rfl, (Rewritten.refl s).congr fun x hx => ?_⟩
        by_cases hid : x.requestId = r.requestId
        · have hxr := Store.mem_requests_iff.mp hx
          rw [hid, hr] at hxr
          rw [if_pos hid, Option.some.inj hxr]
          rfl
        · exact (if_neg hid).symm

theorem mem_listNonTerminalRequests {scan : Scan RequestRecord} :
    r ∈ s.listNonTerminalRequests scan ↔ r ∈ s.requests.rows ∧ r.status.isTerminal = false := by
  unfold Store.listNonTerminalRequests
  rw [Scan.mem_orderBy, List.mem_filter]
  refine and_congr_right fun _ => ?_
  cases r.status <;> decide

theorem listNonTerminalRequests_nodup (scan : Scan RequestRecord) (s : Store) :
    ((s.listNonTerminalRequests scan).map RequestRecord.requestId).Nodup :=
  ((scan.orderBy_perm _ _).map _).nodup_iff.mpr ((List.filter_sublist.map _).nodup s.requests.nodup)

theorem sweep_loop (now : TimestampMs) (scan : Scan RequestRecord) (s : Store) :
    ∃ s', (s.listNonTerminalRequests scan).foldlM (sweepRequest now) (0, 0) s =
        (.ok ((s.listNonTerminalRequests scan).foldl (sweepCounts now) (0, 0)), s') ∧
      Rewritten (fun r => r.swept now) s s' := by
  obtain ⟨s', hrun, hrw⟩ := foldlM_rewritten (sweepRequest now) (sweepCounts now)
    (fun r => r.swept now) (fun r => r.status.isTerminal = false)
    swept_ids (fun g r s hr hP => sweepRequest_spec g hr hP) (s.listNonTerminalRequests scan) s (0, 0)
    (fun r hr => by
      obtain ⟨hrow, hlive⟩ := mem_listNonTerminalRequests.mp hr
      exact ⟨Store.mem_requests_iff.mp hrow, hlive⟩)
    (listNonTerminalRequests_nodup scan s)
  refine ⟨s', hrun, hrw.congr fun r hr => ?_⟩
  split_ifs with hmem
  · rfl
  · cases hterm : r.status.isTerminal with
    | true => simp [RequestRecord.swept, hterm]
    | false => exact absurd (mem_listNonTerminalRequests.mpr ⟨hr, hterm⟩) hmem

theorem evictResult_spec (n : Nat) (hr : s.getRequest r.requestId = some r)
    (hdue : r.resultExpiresAt.any (fun t => t ≤ now) = true) :
    ∃ s', evictResult n r s = (.ok (if r.result.isSome then n + 1 else n), s') ∧
      Rewritten (fun x => if x.requestId = r.requestId then r.unretained now else x) s s' := by
  unfold evictResult RequestRecord.unretained
  by_cases hres : r.result.isSome = true
  · simp only [if_pos hres, if_pos (And.intro hres hdue)]
    exact updateRequest_bind hr r.evicted rfl rfl _
  · have hkeep : ¬ (r.result.isSome = true ∧ r.resultExpiresAt.any (fun t => t ≤ now) = true) :=
      fun h => hres h.1
    simp only [if_neg hres, if_neg hkeep]
    refine ⟨s, rfl, (Rewritten.refl s).congr fun x hx => ?_⟩
    by_cases hid : x.requestId = r.requestId
    · have hxr := Store.mem_requests_iff.mp hx
      rw [hid, hr] at hxr
      rw [if_pos hid, Option.some.inj hxr]
      rfl
    · exact (if_neg hid).symm

theorem evict_loop (now : TimestampMs) (scan : Scan RequestRecord) (s : Store) :
    ∃ s', (s.listTerminalRequestsWithExpiredResults scan now).foldlM evictResult 0 s =
        (.ok ((s.listTerminalRequestsWithExpiredResults scan now).foldl
          (fun n r => if r.result.isSome then n + 1 else n) 0), s') ∧
      Rewritten (fun r => r.unretained now) s s' := by
  have hmem : ∀ r, r ∈ s.listTerminalRequestsWithExpiredResults scan now ↔
      r ∈ s.requests.rows ∧ r.resultExpiresAt.any (fun t => t ≤ now) = true := by
    intro r
    unfold Store.listTerminalRequestsWithExpiredResults
    rw [Scan.mem_order, List.mem_filter]
  obtain ⟨s', hrun, hrw⟩ := foldlM_rewritten evictResult
    (fun n r => if r.result.isSome then n + 1 else n) (fun r => r.unretained now)
    (fun r => r.resultExpiresAt.any (fun t => t ≤ now) = true)
    unretained_ids (fun g r s hr hP => evictResult_spec g hr hP)
    (s.listTerminalRequestsWithExpiredResults scan now) s 0
    (fun r hr => ⟨Store.mem_requests_iff.mp ((hmem r).mp hr).1, ((hmem r).mp hr).2⟩)
    (((scan.perm _).map _).nodup_iff.mpr ((List.filter_sublist.map _).nodup s.requests.nodup))
  refine ⟨s', hrun, hrw.congr fun r hr => ?_⟩
  split_ifs with hin
  · rfl
  · have hnot : ¬ (r.result.isSome = true ∧ r.resultExpiresAt.any (fun t => t ≤ now) = true) :=
      fun h => hin ((hmem r).mpr ⟨hr, h.2⟩)
    exact (if_neg hnot).symm

/-- What the tick makes of a wallet instance. -/
def WalletInstanceRecord.checked (w : WalletInstanceRecord) (c : Coordinator) (now : TimestampMs) :
    WalletInstanceRecord :=
  if w.connected = true ∧ isWalletStale w.lastSeenAt now c.config.walletOfflineAfter = true then
    { w with connected := false }
  else w

theorem checked_walletInstanceId (c : Coordinator) (w : WalletInstanceRecord) :
    (w.checked c now).walletInstanceId = w.walletInstanceId := by
  unfold WalletInstanceRecord.checked
  split_ifs <;> rfl

/-- The wallet instances of `s'` are those of `s`, each mapped through `f`; nothing else changed. -/
structure Reinstanced (f : WalletInstanceRecord → WalletInstanceRecord) (s s' : Store) : Prop where
  instances : ∀ id, s'.getWalletInstance id = (s.getWalletInstance id).map f
  requests : s'.requests = s.requests
  accounts : s'.walletAccounts = s.walletAccounts
  labels : s'.walletAccountLabels = s.walletAccountLabels

theorem disconnectIfStale_spec (c : Coordinator) (now : TimestampMs) {w : WalletInstanceRecord}
    (hw : s.getWalletInstance w.walletInstanceId = some w) (hconnected : w.connected = true) :
    ∃ s', c.disconnectIfStale now w s = (.ok (), s') ∧
      Reinstanced (fun x => if x.walletInstanceId = w.walletInstanceId then w.checked c now else x)
        s s' := by
  -- the row with this id is `w` itself
  have hrow : ∀ id x, s.getWalletInstance id = some x → x.walletInstanceId = w.walletInstanceId →
    x = w := by
    intro id x hx hid
    have hkey : x.walletInstanceId = id := Table.key_of_find hx
    rw [← hkey, hid, hw] at hx
    exact (Option.some.inj hx).symm
  unfold disconnectIfStale WalletInstanceRecord.checked
  by_cases hstale : isWalletStale w.lastSeenAt now c.config.walletOfflineAfter = true
  · simp only [if_pos hstale, if_pos (And.intro hconnected hstale)]
    refine ⟨_, rfl, fun id => ?_, rfl, rfl, rfl⟩
    have hfind : (s.upsertWalletInstance { w with connected := false }).getWalletInstance id =
        if id = w.walletInstanceId then some { w with connected := false }
        else s.getWalletInstance id := Table.find_upsert s.walletInstances _ id
    refine hfind.trans ?_
    by_cases hid : id = w.walletInstanceId
    · subst hid
      simp [hw]
    · rw [if_neg hid]
      cases hx : s.getWalletInstance id with
      | none => rfl
      | some x =>
        have hkey : x.walletInstanceId = id := Table.key_of_find hx
        simp [hkey, hid]
  · have hkeep : ¬ (w.connected = true ∧
      isWalletStale w.lastSeenAt now c.config.walletOfflineAfter = true) :=
      fun h => hstale h.2
    simp only [if_neg hstale, if_neg hkeep]
    refine ⟨s, rfl, fun id => ?_, rfl, rfl, rfl⟩
    cases hx : s.getWalletInstance id with
    | none => rfl
    | some x =>
      by_cases hid : x.walletInstanceId = w.walletInstanceId
      · simp [hrow id x hx hid]
      · simp [hid]

theorem disconnect_loop (c : Coordinator) (now : TimestampMs) :
    ∀ (wallets : List WalletInstanceRecord) (s : Store),
      (∀ w ∈ wallets, s.getWalletInstance w.walletInstanceId = some w ∧ w.connected = true) →
      (wallets.map WalletInstanceRecord.walletInstanceId).Nodup →
      ∃ s', wallets.forM (c.disconnectIfStale now) s = (.ok (), s') ∧
        Reinstanced (fun x => if x ∈ wallets then x.checked c now else x) s s'
  | [], s, _, _ => ⟨s, rfl, fun id => by simp, rfl, rfl, rfl⟩
  | w :: wallets, s, hrows, hnodup => by
    obtain ⟨hw, hconnected⟩ := hrows w (List.mem_cons_self ..)
    obtain ⟨s₁, hrun, h₁⟩ := disconnectIfStale_spec c now hw hconnected
    rw [List.map_cons, List.nodup_cons] at hnodup
    -- the rows still to come are untouched by this round
    have hother : ∀ x ∈ wallets, x.walletInstanceId ≠ w.walletInstanceId :=
      fun x hx he => hnodup.1 (he ▸ List.mem_map_of_mem hx)
    have hrows₁ : ∀ x ∈ wallets, s₁.getWalletInstance x.walletInstanceId = some x ∧ x.connected = true := by
      intro x hx
      obtain ⟨hfind, hcon⟩ := hrows x (List.mem_cons_of_mem _ hx)
      refine ⟨?_, hcon⟩
      rw [h₁.instances, hfind]
      simp [hother x hx]
    obtain ⟨s₂, hrest, h₂⟩ := disconnect_loop c now wallets s₁ hrows₁ hnodup.2
    refine ⟨s₂, (FailState.bind_ok hrun).trans hrest, fun id => ?_, h₂.requests.trans h₁.requests,
      h₂.accounts.trans h₁.accounts, h₂.labels.trans h₁.labels⟩
    rw [h₂.instances, h₁.instances, Option.map_map]
    cases hx : s.getWalletInstance id with
    | none => rfl
    | some x =>
      have hkey : x.walletInstanceId = id := Table.key_of_find hx
      by_cases hxw : x.walletInstanceId = w.walletInstanceId
      · have hxeq : x = w := by
          rw [← hkey, hxw, hw] at hx
          exact (Option.some.inj hx).symm
        subst hxeq
        have hnot : x.checked c now ∉ wallets :=
          fun hm => hother _ hm (checked_walletInstanceId c x)
        simp [hnot]
      · have hne : x ≠ w := fun e => hxw (congrArg _ e)
        simp [hxw, hne]

theorem mem_listWalletInstances_connected {scan : Scan WalletInstanceRecord} {w : WalletInstanceRecord} :
    w ∈ s.listWalletInstances scan true ↔ w ∈ s.walletInstances.rows ∧ w.connected = true := by
  unfold Store.listWalletInstances
  rw [Scan.mem_orderBy, List.mem_filter]
  simp

/-- The loop over the connected wallets. -/
theorem disconnect_connected (c : Coordinator) (now : TimestampMs) (scan : Scan WalletInstanceRecord)
    (s : Store) :
    ∃ s', (s.listWalletInstances scan true).forM (c.disconnectIfStale now) s = (.ok (), s') ∧
      Reinstanced (fun w => w.checked c now) s s' := by
  obtain ⟨s', hrun, h⟩ := disconnect_loop c now (s.listWalletInstances scan true) s
    (fun w hw => by
      obtain ⟨hrow, hconnected⟩ := mem_listWalletInstances_connected.mp hw
      exact ⟨Table.find_of_mem hrow, hconnected⟩)
    (((scan.orderBy_perm _ _).map _).nodup_iff.mpr
      ((List.filter_sublist.map _).nodup s.walletInstances.nodup))
  refine ⟨s', hrun, fun id => ?_, h.requests, h.accounts, h.labels⟩
  rw [h.instances]
  cases hw : s.getWalletInstance id with
  | none => rfl
  | some w =>
    rw [Option.map_some, Option.map_some]
    split_ifs with hmem
    · rfl
    · have hoff : ¬ w.connected = true :=
        fun hon => hmem (mem_listWalletInstances_connected.mpr ⟨Table.mem_of_find hw, hon⟩)
      simp [WalletInstanceRecord.checked, hoff]

end Loops

/-! ## The tick as a whole -/

/-- What one tick does to the four tables. -/
structure Ticked (c : Coordinator) (now : TimestampMs) (s s' : Store) : Prop where
  requests : ∀ id, s'.getRequest id = (s.getRequest id).map fun r => (r.swept now).unretained now
  instances : ∀ id, s'.getWalletInstance id = (s.getWalletInstance id).map fun w => w.checked c now
  accounts : s'.walletAccounts = s.walletAccounts
  labels : s'.walletAccountLabels = s.walletAccountLabels

/-- The tick never fails, and rewrites each request and each wallet instance on its own. The
stores between its three loops are `s₁` and `s₂`. -/
theorem tickMaintenance_loops (c : Coordinator) (env : Env) (s : Store) :
    ∃ s₁ s₂ s' : Store, Rewritten (fun r => r.swept (env.now 0)) s s₁ ∧ s₂.requests = s₁.requests ∧
      c.tickMaintenance env s =
        (.ok ⟨((s.listNonTerminalRequests env.requestScan).foldl (sweepCounts (env.now 0)) (0, 0)).1,
          ((s.listNonTerminalRequests env.requestScan).foldl (sweepCounts (env.now 0)) (0, 0)).2,
          (s₂.listTerminalRequestsWithExpiredResults env.requestScan (env.now 0)).foldl
            (fun n r => if r.result.isSome then n + 1 else n) 0⟩, s') ∧
      Ticked c (env.now 0) s s' := by
  obtain ⟨s₁, hsweep, hw₁⟩ := sweep_loop (env.now 0) env.requestScan s
  obtain ⟨s₂, hdisc, hw₂⟩ := disconnect_connected c (env.now 0) env.instanceScan s₁
  obtain ⟨s₃, hevict, hw₃⟩ := evict_loop (env.now 0) env.requestScan s₂
  have hget : ∀ id, s₂.getRequest id = s₁.getRequest id := by
    intro id
    unfold Store.getRequest
    rw [hw₂.requests]
  have hinstance : ∀ {x y : Store} (id : WalletInstanceId), x.SameWallets y →
      y.getWalletInstance id = x.getWalletInstance id := by
    intro x y id h
    unfold Store.getWalletInstance
    rw [h.1]
  refine ⟨s₁, s₂, s₃, hw₁, hw₂.requests, ?_, fun id => ?_, fun id => ?_, ?_, ?_⟩
  · unfold tickMaintenance
    rw [FailState.read_bind, FailState.bind_ok hsweep, FailState.read_bind, FailState.bind_ok hdisc,
      FailState.read_bind, FailState.bind_ok hevict]
    rfl
  · rw [hw₃.requests, hget, hw₁.requests, Option.map_map]
    rfl
  · rw [hinstance id hw₃.wallets, hw₂.instances, hinstance id hw₁.wallets]
  · rw [hw₃.wallets.2.1, hw₂.accounts, hw₁.wallets.2.1]
  · rw [hw₃.wallets.2.2, hw₂.labels, hw₁.wallets.2.2]

theorem tickMaintenance_spec (c : Coordinator) (env : Env) (s : Store) :
    ∃ result s', c.tickMaintenance env s = (.ok result, s') ∧ Ticked c (env.now 0) s s' := by
  obtain ⟨s₁, s₂, s', -, -, hrun, hticked⟩ := tickMaintenance_loops c env s
  exact ⟨_, s', hrun, hticked⟩

/-- With results on approved requests only, the two loops never meet on one request. -/
theorem tick_edit {c : Coordinator} {env : Env} {s : Store} {reply : CoreResult CoordinatorResponse}
    {r : RequestRecord} (hresult : r.result.isSome = true → r.status = .approved) :
    (r.swept (env.now 0)).unretained (env.now 0) = r ∨
      Edit c env s .tickMaintenance reply r ((r.swept (env.now 0)).unretained (env.now 0)) := by
  cases hterm : r.status.isTerminal with
  | true =>
    have hswept : r.swept (env.now 0) = r := by simp [RequestRecord.swept, hterm]
    rw [hswept]
    unfold RequestRecord.unretained
    split_ifs with hdue
    · obtain ⟨hres, hany⟩ := hdue
      obtain ⟨t, ht, hle⟩ := (Option.any_eq_true _ _).mp hany
      exact .inr (.evict (hresult hres) hres ht (by simpa using hle))
    · exact .inl rfl
  | false =>
    have hnone : r.result.isSome = false := by
      rw [Bool.eq_false_iff]
      intro hsome
      rw [hresult hsome] at hterm
      exact absurd hterm (by decide)
    have hkept : (r.swept (env.now 0)).unretained (env.now 0) = r.swept (env.now 0) := by
      have hres : (r.swept (env.now 0)).result = r.result := by
        unfold RequestRecord.swept
        split_ifs <;> rfl
      unfold RequestRecord.unretained
      rw [hres, hnone]
      simp
    rw [hkept]
    unfold RequestRecord.swept
    rw [if_neg (by rw [hterm]; exact Bool.false_ne_true)]
    split_ifs with hdue hlease
    · exact .inr (.expire hterm hdue)
    · exact .inr (.release (not_le.mp hdue) hlease)
    · exact .inl rfl

theorem changes_tickMaintenance (c : Coordinator) (env : Env) {s : Store} (hs : ResultsApproved s) :
    Changes c env s .tickMaintenance ((c.tickMaintenance env s).1.map .tickMaintenance)
      (c.tickMaintenance env s).2 := by
  obtain ⟨result, s', hrun, hticked⟩ := tickMaintenance_spec c env s
  rw [hrun]
  exact changes_of_rewritten hticked.requests fun r hr => tick_edit (hs r hr)

/-! ## Every command -/

theorem changes_lift_bind {c : Coordinator} {env : Env} {s : Store} {command : CoordinatorCommand}
    {α : Type} {x : CoreResult Unit} {m : CoreM α} {wrap : α → CoordinatorResponse}
    (h : Changes c env s command ((m s).1.map wrap) (m s).2) :
    Changes c env s command (((FailState.lift x >>= fun _ => m) s).1.map wrap)
      ((FailState.lift x >>= fun _ => m) s).2 := by
  cases x with
  | error e => exact changes_of_requests_eq rfl
  | ok u => exact h

/-- The effect of one command on every request. -/
theorem dispatch_changes (c : Coordinator) (env : Env) (command : CoordinatorCommand) {s : Store}
    (hs : ResultsApproved s) :
    Changes c env s command (c.dispatch env command s).1 (c.dispatch env command s).2 := by
  cases command <;> simp only [dispatch, FailState.map_apply]
  case createAccount command => exact changes_lift_bind (changes_createRequest c env s rfl)
  case createExportAccount command => exact changes_lift_bind (changes_createRequest c env s rfl)
  case createImportAccount command =>
    refine changes_lift_bind ?_
    split_ifs
    · exact changes_of_requests_eq rfl
    · exact changes_createRequest c env s rfl
  case createSignTransaction command => exact changes_lift_bind (changes_createRequest c env s rfl)
  case createSignMessage command => exact changes_lift_bind (changes_createRequest c env s rfl)
  case walletSetAccountLabel command =>
    exact changes_of_requests_eq (keepsRequests_walletSetAccountLabel env command s)
  case registerExtension command =>
    exact changes_of_requests_eq (keepsRequests_registerBackend env _ s)
  case registerBackend command =>
    exact changes_of_requests_eq (keepsRequests_registerBackend env command s)
  case updateExtensionAccounts command =>
    exact changes_of_requests_eq (keepsRequests_updateBackendAccounts env _ s)
  case updateBackendAccounts command =>
    exact changes_of_requests_eq (keepsRequests_updateBackendAccounts env command s)
  case heartbeatExtension command => exact changes_heartbeatBackend c env s _ rfl
  case heartbeatBackend command => exact changes_heartbeatBackend c env s command rfl
  case cancelRequest id => exact changes_cancelRequest c env s id
  case pullNextRequest w => exact changes_pullNextRequest c env s w
  case markRequestPresented command => exact changes_markRequestPresented c env s command
  case resolveRequest command => exact changes_resolveRequest c env s command
  case rejectRequest command => exact changes_rejectRequest c env s command
  case tickMaintenance => exact changes_tickMaintenance c env hs
  all_goals exact changes_of_requests_eq rfl

end StarcoinMcp.Starmask
