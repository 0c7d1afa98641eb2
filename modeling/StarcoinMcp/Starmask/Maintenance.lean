import StarcoinMcp.Starmask.Runs

/-! What a maintenance tick leaves behind. Each of its three loops works on a list it
read before, yet together they bring the store into a normal form for the instant of
the tick: nothing in it is due any more. Rows that were not due are untouched, the
counters count the rows that changed, and a second tick at that instant finds
nothing to do. -/

namespace StarcoinMcp.Starmask

open Coordinator

/-! ## Rows that are due -/

/-- A result is held past its retention. -/
def resultExpired (now : TimestampMs) (r : RequestRecord) : Bool :=
  r.result.isSome ∧ r.resultExpiresAt.any fun t => t ≤ now

/-- The tick has something to do with this request. -/
def RequestRecord.Due (r : RequestRecord) (now : TimestampMs) : Prop :=
  (r.status.isTerminal = false ∧ r.expiresAt ≤ now) ∨ deliveryLeaseExpired now r = true ∨
    presentationExpired now r = true ∨ resultExpired now r = true

/-- The tick has something to do with this wallet instance. -/
def WalletInstanceRecord.Due (w : WalletInstanceRecord) (c : Coordinator) (now : TimestampMs) : Prop :=
  w.connected = true ∧ isWalletStale w.lastSeenAt now c.config.walletOfflineAfter = true

/-- Nothing in the store is due at `now`. -/
structure Store.Maintained (s : Store) (c : Coordinator) (now : TimestampMs) : Prop where
  requests : ∀ r ∈ s.requests.rows, ¬ r.Due now
  instances : ∀ w ∈ s.walletInstances.rows, ¬ w.Due c now

section Rows

variable {now : TimestampMs} {r : RequestRecord}

theorem not_due_terminal (hterm : r.status.isTerminal = true) (hresult : resultExpired now r = false) :
    ¬ r.Due now := by
  rintro (⟨hlive, -⟩ | hlease | hpres | hdue)
  · rw [hterm] at hlive
    cases hlive
  · rw [deliveryLeaseExpired_status hlease] at hterm
    cases hterm
  · rw [presentationExpired_status hpres] at hterm
    cases hterm
  · rw [hresult] at hdue
    cases hdue

theorem resultExpired_eq_false_of_result (h : r.result = none) : resultExpired now r = false := by
  simp [resultExpired, h]

/-- What the tick made of a request is not due any more. -/
theorem swept_unretained_not_due (hr : r.WellFormed) : ¬ ((r.swept now).unretained now).Due now := by
  cases hterm : r.status.isTerminal with
  | true =>
    have hswept : r.swept now = r := by simp [RequestRecord.swept, hterm]
    rw [hswept]
    unfold RequestRecord.unretained
    split_ifs with hdue
    · exact not_due_terminal (r := r.evicted) hterm (resultExpired_eq_false_of_result rfl)
    · exact not_due_terminal hterm (by simpa [resultExpired] using hdue)
  | false =>
    -- a request that is still open holds no result
    have hnone := (hr.undecided hterm).result
    have hkept : (r.swept now).result = none := by
      unfold RequestRecord.swept
      split_ifs <;> exact hnone
    have hsame : (r.swept now).unretained now = r.swept now := by
      simp [RequestRecord.unretained, hkept]
    have hresult : resultExpired now (r.swept now) = false := resultExpired_eq_false_of_result hkept
    rw [hsame]
    unfold RequestRecord.swept at hresult ⊢
    rw [if_neg (by rw [hterm]; exact Bool.false_ne_true)] at hresult ⊢
    split_ifs at hresult ⊢ with hdue hlease
    · exact not_due_terminal (r := r.expired now) rfl hresult
    · rintro (⟨-, hexp⟩ | hd | hp | hx)
      · exact hdue hexp
      · cases deliveryLeaseExpired_status hd
      · cases presentationExpired_status hp
      · rw [hresult] at hx
        cases hx
    · rintro (⟨-, hexp⟩ | hd | hp | hx)
      · exact hdue hexp
      · exact hlease (.inl hd)
      · exact hlease (.inr hp)
      · rw [hresult] at hx
        cases hx

/-- A request that is not due is left as it is. -/
theorem swept_unretained_of_not_due (h : ¬ r.Due now) : (r.swept now).unretained now = r := by
  have hswept : r.swept now = r := by
    unfold RequestRecord.swept
    split_ifs with hterm hdue hlease
    · rfl
    · exact absurd (.inl ⟨by simpa using hterm, hdue⟩) h
    · rcases hlease with hd | hp
      · exact absurd (.inr (.inl hd)) h
      · exact absurd (.inr (.inr (.inl hp))) h
    · rfl
  have hkeep : ¬ (r.result.isSome = true ∧ r.resultExpiresAt.any (fun t => t ≤ now) = true) :=
    fun hx => h (.inr (.inr (.inr (by simpa [resultExpired] using hx))))
  rw [hswept]
  exact if_neg hkeep

theorem checked_not_due {c : Coordinator} (w : WalletInstanceRecord) : ¬ (w.checked c now).Due c now := by
  unfold WalletInstanceRecord.checked
  split_ifs with h
  · exact fun hd => Bool.false_ne_true hd.1
  · exact h

end Rows

/-! ## The counters -/

/-- The number of requests of `s` with `p` that have `q` in `s'`. -/
def Store.became (s s' : Store) (p q : RequestRecord → Bool) : Nat :=
  s.requests.rows.countP fun r => p r && (s'.getRequest r.requestId).any q

section Counters

variable {c : Coordinator} {now : TimestampMs} {s s' : Store}

theorem swept_fields (r : RequestRecord) : (r.swept now).result = r.result ∧
    (r.swept now).resultExpiresAt = r.resultExpiresAt := by
  unfold RequestRecord.swept
  split_ifs <;> exact ⟨rfl, rfl⟩

theorem unretained_status (r : RequestRecord) : (r.unretained now).status = r.status := by
  unfold RequestRecord.unretained
  split_ifs <;> rfl

theorem foldl_sweepCounts (l : List RequestRecord) (counts : Nat × Nat) :
    l.foldl (sweepCounts now) counts =
      (counts.1 + l.countP (fun r => decide (r.expiresAt ≤ now)),
        counts.2 + l.countP (fun r => !decide (r.expiresAt ≤ now) && deliveryLeaseExpired now r)) := by
  induction l generalizing counts with
  | nil => rfl
  | cons r l ih =>
    rw [List.foldl_cons, ih, List.countP_cons, List.countP_cons]
    unfold sweepCounts
    by_cases hdue : r.expiresAt ≤ now
    · simp only [hdue, if_true, decide_true, Bool.not_true, Bool.false_and, Bool.false_eq_true, if_false,
        Nat.add_zero, Prod.mk.injEq]
      refine ⟨?_, trivial⟩
      omega
    · by_cases hlease : deliveryLeaseExpired now r = true
      · simp only [hdue, hlease, if_true, if_false, decide_false, Bool.not_false, Bool.and_self,
          Bool.false_eq_true, Nat.add_zero, Prod.mk.injEq, true_and]
        omega
      · simp [hdue, hlease]

theorem foldl_evicted (l : List RequestRecord) (n : Nat) :
    l.foldl (fun n r => if r.result.isSome then n + 1 else n) n =
      n + l.countP (fun r => r.result.isSome) := by
  induction l generalizing n with
  | nil => rfl
  | cons r l ih =>
    rw [List.foldl_cons, ih, List.countP_cons]
    by_cases hres : r.result.isSome = true
    · simp only [if_pos hres]
      exact Nat.add_right_comm n 1 _
    · simp only [if_neg hres, Nat.add_zero]

/-- The rows after a rewriting, up to their order. -/
theorem Rewritten.rows_perm {f : RequestRecord → RequestRecord} (h : Rewritten f s s') (hf : KeepsIds f) :
    s'.requests.rows.Perm (s.requests.rows.map f) := by
  have hnodup : (s.requests.rows.map f).Nodup := by
    have hkeys : ((s.requests.rows.map f).map RequestRecord.requestId).Nodup := by
      rw [List.map_map]
      exact (List.map_congr_left fun r _ => (hf r).1) ▸ s.requests.nodup
    exact hkeys.of_map
  refine (List.perm_ext_iff_of_nodup s'.requests.nodup.of_map hnodup).mpr fun r => ?_
  rw [Store.mem_requests_iff, h.requests, List.mem_map, Option.map_eq_some_iff]
  constructor
  · rintro ⟨x, hx, hxr⟩
    exact ⟨x, Store.mem_of_getRequest hx, hxr⟩
  · rintro ⟨x, hx, rfl⟩
    exact ⟨x, by rw [(hf x).1]; exact Store.mem_requests_iff.mp hx, rfl⟩

theorem Ticked.became_eq (h : Ticked c now s s') (p q : RequestRecord → Bool) :
    s.became s' p q = s.requests.rows.countP fun r => p r && q ((r.swept now).unretained now) := by
  unfold Store.became
  refine List.countP_congr fun r hr => ?_
  rw [h.requests, Store.mem_requests_iff.mp hr]
  simp

/-- The three counters, as numbers of rows of the store before the tick. -/
theorem tickMaintenance_counts (c : Coordinator) (env : Env) (s : Store) :
    ∃ s', c.tickMaintenance env s =
      (.ok ⟨s.requests.rows.countP (fun r => !r.status.isTerminal && decide (r.expiresAt ≤ env.now 0)),
        s.requests.rows.countP
          (fun r => !decide (r.expiresAt ≤ env.now 0) && deliveryLeaseExpired (env.now 0) r),
        s.requests.rows.countP (resultExpired (env.now 0))⟩, s') ∧
      Ticked c (env.now 0) s s' := by
  obtain ⟨s₁, s₂, s', hswept, hsame, hrun, hticked⟩ := tickMaintenance_loops c env s
  refine ⟨s', ?_, hticked⟩
  have hlist : ∀ p : RequestRecord → Bool, (s.listNonTerminalRequests env.requestScan).countP p =
      s.requests.rows.countP (fun r => p r && !r.status.isTerminal) := by
    intro p
    unfold Store.listNonTerminalRequests
    rw [(env.requestScan.orderBy_perm _ _).countP_eq, List.countP_filter]
    refine List.countP_congr fun r _ => ?_
    cases r.status <;> simp [RequestStatus.isTerminal]
  -- the first loop leaves the results alone, so the last one finds those of `s`
  have hevicted : (s₂.listTerminalRequestsWithExpiredResults env.requestScan (env.now 0)).countP
      (fun r => r.result.isSome) = s.requests.rows.countP (resultExpired (env.now 0)) := by
    unfold Store.listTerminalRequestsWithExpiredResults
    rw [(env.requestScan.perm _).countP_eq, List.countP_filter, hsame,
      (hswept.rows_perm fun r => swept_ids r).countP_eq, List.countP_map]
    refine List.countP_congr fun r _ => ?_
    simp [resultExpired, (swept_fields r).1, (swept_fields r).2]
  have hreleased : s.requests.rows.countP (fun r => (!decide (r.expiresAt ≤ env.now 0) &&
      deliveryLeaseExpired (env.now 0) r) && !r.status.isTerminal) =
      s.requests.rows.countP
        (fun r => !decide (r.expiresAt ≤ env.now 0) && deliveryLeaseExpired (env.now 0) r) := by
    refine List.countP_congr fun r _ => ?_
    simp only [Bool.and_eq_true]
    refine ⟨fun h => h.1, fun h => ⟨h, ?_⟩⟩
    rw [deliveryLeaseExpired_status h.2]
    rfl
  have hexpired : s.requests.rows.countP
      (fun r => decide (r.expiresAt ≤ env.now 0) && !r.status.isTerminal) =
      s.requests.rows.countP (fun r => !r.status.isTerminal && decide (r.expiresAt ≤ env.now 0)) :=
    List.countP_congr fun r _ => by rw [Bool.and_comm]
  rw [hrun, foldl_sweepCounts, foldl_evicted, hlist, hlist, hevicted, hreleased, hexpired]
  simp only [Nat.zero_add]

theorem became_expired (h : Ticked c now s s') :
    s.became s' (fun r => r.status ≠ .expired) (fun r => r.status = .expired) =
      s.requests.rows.countP (fun r => !r.status.isTerminal && decide (r.expiresAt ≤ now)) := by
  rw [h.became_eq]
  refine List.countP_congr fun r _ => ?_
  rw [unretained_status]
  unfold RequestRecord.swept
  cases hterm : r.status.isTerminal with
  | true => simp
  | false =>
    have hne : r.status ≠ .expired := by
      intro he
      rw [he] at hterm
      cases hterm
    simp only [Bool.false_eq_true, if_false]
    split_ifs with hdue hlease
    · simp [hne, hdue, RequestRecord.expired]
    · simp [hdue, RequestRecord.released]
    · simp [hdue]

theorem became_released (h : Ticked c now s s') :
    s.became s' (fun r => r.status = .dispatched) (fun r => r.status = .created) =
      s.requests.rows.countP (fun r => !decide (r.expiresAt ≤ now) && deliveryLeaseExpired now r) := by
  rw [h.became_eq]
  refine List.countP_congr fun r _ => ?_
  rw [unretained_status]
  by_cases hs : r.status = .dispatched
  · have hpres : presentationExpired now r = false := by simp [presentationExpired, hs]
    unfold RequestRecord.swept
    simp only [hs, hpres, RequestStatus.isTerminal, Bool.false_eq_true, if_false, or_false]
    split_ifs with hdue hlease
    · simp [hdue, RequestRecord.expired]
    · simp [hdue, hlease, RequestRecord.released]
    · simp [hs, hlease]
  · have hlease : deliveryLeaseExpired now r = false := by simp [deliveryLeaseExpired, hs]
    simp [hs, hlease]

theorem became_evicted (h : Ticked c now s s') :
    s.became s' (fun r => r.result.isSome) (fun r => r.result.isNone) =
      s.requests.rows.countP (resultExpired now) := by
  rw [h.became_eq]
  refine List.countP_congr fun r _ => ?_
  obtain ⟨hresult, hexpires⟩ : (r.swept now).result = r.result ∧
      (r.swept now).resultExpiresAt = r.resultExpiresAt := swept_fields r
  unfold RequestRecord.unretained
  rw [hresult, hexpires]
  by_cases hsome : r.result.isSome = true
  · by_cases hdue : r.resultExpiresAt.any (fun t => t ≤ now) = true
    · simp [resultExpired, hsome, hdue, RequestRecord.evicted]
    · simpa [resultExpired, hsome, hdue, hresult] using Option.isSome_iff_ne_none.mp hsome
  · simp [resultExpired, hsome]

end Counters

/-! ## The normal form -/

section NormalForm

variable {c : Coordinator} {now : TimestampMs} {s s' : Store}

theorem Ticked.maintained (h : Ticked c now s s') (hs : s.WellFormed) : s'.Maintained c now := by
  refine ⟨fun r' hr' => ?_, fun w' hw' => ?_⟩
  · have hget := (h.requests r'.requestId).symm.trans (Store.mem_requests_iff.mp hr')
    obtain ⟨r, hr, rfl⟩ := Option.map_eq_some_iff.mp hget
    exact swept_unretained_not_due (hs _ r hr)
  · have hget := (h.instances w'.walletInstanceId).symm.trans (Table.find_of_mem hw')
    obtain ⟨w, -, rfl⟩ := Option.map_eq_some_iff.mp hget
    exact checked_not_due w

theorem sweepRequest_of_not_due {r : RequestRecord} (h : ¬ r.Due now)
    (hlive : r.status.isTerminal = false) (counts : Nat × Nat) :
    sweepRequest now counts r s = (.ok counts, s) := by
  have hdue : ¬ r.expiresAt ≤ now := fun hx => h (.inl ⟨hlive, hx⟩)
  have hlease : ¬ deliveryLeaseExpired now r = true := fun hx => h (.inr (.inl hx))
  have hpres : ¬ presentationExpired now r = true := fun hx => h (.inr (.inr (.inl hx)))
  unfold sweepRequest
  rw [if_neg hdue, if_neg hlease, if_neg hpres]
  rfl

/-- A tick at an instant for which nothing is due does nothing. -/
theorem tickMaintenance_still {env : Env} (h : s.Maintained c (env.now 0)) :
    c.tickMaintenance env s = (.ok ⟨0, 0, 0⟩, s) := by
  have hsweep : (s.listNonTerminalRequests env.requestScan).foldlM (sweepRequest (env.now 0)) (0, 0) s =
      (.ok (0, 0), s) := by
    refine FailState.foldlM_still fun r hr => ?_
    obtain ⟨hrow, hlive⟩ := mem_listNonTerminalRequests.mp hr
    exact sweepRequest_of_not_due (h.requests r hrow) hlive (0, 0)
  have hdisc : (s.listWalletInstances env.instanceScan true).forM (c.disconnectIfStale (env.now 0)) s =
      (.ok (), s) := by
    refine FailState.forM_still fun w hw => ?_
    obtain ⟨hrow, hconnected⟩ := mem_listWalletInstances_connected.mp hw
    have hfresh : ¬ isWalletStale w.lastSeenAt (env.now 0) c.config.walletOfflineAfter = true :=
      fun hstale => h.instances w hrow ⟨hconnected, hstale⟩
    unfold disconnectIfStale
    rw [if_neg hfresh]
    rfl
  have hevict : (s.listTerminalRequestsWithExpiredResults env.requestScan (env.now 0)).foldlM
      evictResult 0 s = (.ok 0, s) := by
    refine FailState.foldlM_still fun r hr => ?_
    unfold Store.listTerminalRequestsWithExpiredResults at hr
    obtain ⟨hrow, hdue⟩ := List.mem_filter.mp (Scan.mem_order.mp hr)
    have hnone : ¬ r.result.isSome = true :=
      fun hsome => h.requests r hrow (.inr (.inr (.inr (by simp [resultExpired, hsome, hdue]))))
    unfold evictResult
    rw [if_neg hnone]
    rfl
  unfold tickMaintenance
  rw [FailState.read_bind, FailState.bind_ok hsweep, FailState.read_bind, FailState.bind_ok hdisc,
    FailState.read_bind, FailState.bind_ok hevict]
  rfl

/-- From every reachable store the tick succeeds and leaves nothing due; it changes no row that
was not due, counts the rows it changed, and a second tick at the same instant does nothing. -/
theorem tick_normal_form (c : Coordinator) (steps : List Step) (env : Env) :
    ∃ result s', c.dispatch env .tickMaintenance (c.run steps) = (.ok (.tickMaintenance result), s') ∧
      s'.Maintained c (env.now 0) ∧
      (∀ r ∈ (c.run steps).requests.rows, ¬ r.Due (env.now 0) → s'.getRequest r.requestId = some r) ∧
      (∀ w ∈ (c.run steps).walletInstances.rows, ¬ w.Due c (env.now 0) →
        s'.getWalletInstance w.walletInstanceId = some w) ∧
      (∀ id, (s'.getRequest id).isSome = ((c.run steps).getRequest id).isSome) ∧
      (∀ id, (s'.getWalletInstance id).isSome = ((c.run steps).getWalletInstance id).isSome) ∧
      s'.walletAccounts = (c.run steps).walletAccounts ∧
      s'.walletAccountLabels = (c.run steps).walletAccountLabels ∧
      result.expiredRequests =
        (c.run steps).became s' (fun r => r.status ≠ .expired) (fun r => r.status = .expired) ∧
      result.releasedDeliveryLeases =
        (c.run steps).became s' (fun r => r.status = .dispatched) (fun r => r.status = .created) ∧
      result.evictedResults =
        (c.run steps).became s' (fun r => r.result.isSome) (fun r => r.result.isNone) ∧
      ∀ env' : Env, env'.now 0 = env.now 0 →
        c.dispatch env' .tickMaintenance s' = (.ok (.tickMaintenance ⟨0, 0, 0⟩), s') := by
  obtain ⟨s', hrun, hticked⟩ := tickMaintenance_counts c env (c.run steps)
  have hmaintained := hticked.maintained (run_wellFormed c steps)
  refine ⟨⟨_, _, _⟩, s', ?_, hmaintained, fun r hr hdue => ?_, fun w hw hdue => ?_, fun id => ?_,
    fun id => ?_,
    hticked.accounts, hticked.labels, (became_expired hticked).symm, (became_released hticked).symm,
    (became_evicted hticked).symm, fun env' hnow => ?_⟩
  · simp only [dispatch, FailState.map_apply, hrun]
    rfl
  · rw [hticked.requests, Store.mem_requests_iff.mp hr, Option.map_some, swept_unretained_of_not_due hdue]
  · have hget : (c.run steps).getWalletInstance w.walletInstanceId = some w := Table.find_of_mem hw
    have hkept : w.checked c (env.now 0) = w := if_neg hdue
    rw [hticked.instances, hget, Option.map_some, hkept]
  · rw [hticked.requests, Option.isSome_map]
  · rw [hticked.instances, Option.isSome_map]
  · rw [← hnow] at hmaintained
    simp only [dispatch, FailState.map_apply, tickMaintenance_still hmaintained]
    rfl

end NormalForm

open Session in
theorem tick_normal_form_of_approval : ∃ r w s',
    (coordinator.run approving).requests.rows = [r] ∧ r.status = .approved ∧
    (coordinator.run approving).walletInstances.rows = [w] ∧ w.connected = true ∧
    s'.getRequest r.requestId = some r ∧ s'.getWalletInstance w.walletInstanceId = some w ∧
    coordinator.dispatch (env 4000 lease₂) .tickMaintenance s' =
      (.ok (.tickMaintenance ⟨0, 0, 0⟩), s') := by
  obtain ⟨result, s', -, -, hrequests, hinstances, -, -, -, -, -, -, -, htwice⟩ :=
    tick_normal_form coordinator approving (env 4000 lease₁)
  have hdue : ∀ r ∈ (coordinator.run approving).requests.rows, ¬ r.Due 4000 := by
    unfold RequestRecord.Due
    decide +kernel
  have hfresh : ∀ w ∈ (coordinator.run approving).walletInstances.rows, ¬ w.Due coordinator 4000 := by
    unfold WalletInstanceRecord.Due
    decide +kernel
  obtain ⟨r, hr⟩ : ∃ r, (coordinator.run approving).requests.rows = [r] :=
    List.length_eq_one_iff.mp (by decide +kernel)
  obtain ⟨w, hw⟩ : ∃ w, (coordinator.run approving).walletInstances.rows = [w] :=
    List.length_eq_one_iff.mp (by decide +kernel)
  have hstatus : (coordinator.run approving).requests.rows.map RequestRecord.status = [.approved] := by
    decide +kernel
  have hconnected : (coordinator.run approving).walletInstances.rows.map WalletInstanceRecord.connected =
      [true] := by decide +kernel
  have hrmem : r ∈ (coordinator.run approving).requests.rows := by simp [hr]
  have hwmem : w ∈ (coordinator.run approving).walletInstances.rows := by simp [hw]
  rw [hr] at hstatus
  rw [hw] at hconnected
  exact ⟨r, w, s', hr, by simpa using hstatus, hw, by simpa using hconnected,
    hrequests r hrmem (hdue r hrmem), hinstances w hwmem (hfresh w hwmem), htwice (env 4000 lease₂) rfl⟩

end StarcoinMcp.Starmask
