import StarcoinMcp.Starmask.Expiry
import StarcoinMcp.Starmask.Idempotency
import StarcoinMcp.Starmask.Maintenance
import StarcoinMcp.Starmask.Protection
import StarcoinMcp.Starmask.RuntimeConfig

/-! Whether a wallet that sends its heartbeats keeps its session. The tick compares three
durations of the configuration with the time of the last heartbeat, of which
`RuntimeConfig::load` orders only one pair. -/

namespace StarcoinMcp.Starmask

open Coordinator FailState

/-! ## Instance rows -/

section Instances

variable {c : Coordinator} {env : Env} {s : Store} {w : WalletInstanceId}

/-- The row of a wallet that was just heard of. -/
def Heard (now : TimestampMs) (row : WalletInstanceRecord) : Prop :=
  row.connected = true ∧ row.lastSeenAt = now

theorem writeInstance_row (row : WalletInstanceRecord) (accounts : List WalletAccountRecord) :
    (writeInstance env row accounts s).2.getWalletInstance w =
      if w = row.walletInstanceId then some row else s.getWalletInstance w :=
  (getWalletInstance_of_keeps (keepsInstances_replaceWalletAccounts env _ _)
    (s.upsertWalletInstance row) w).trans (Table.find_upsert s.walletInstances row w)

theorem writeInstance_heard {row : WalletInstanceRecord} {accounts : List WalletAccountRecord}
    (hrow : Heard (env.now 0) row) :
    (writeInstance env row accounts s).2.getWalletInstance w = s.getWalletInstance w ∨
      ∃ row', (writeInstance env row accounts s).2.getWalletInstance w = some row' ∧
        Heard (env.now 0) row' := by
  rw [writeInstance_row]
  split_ifs
  · exact .inr ⟨row, rfl, hrow⟩
  · exact .inl rfl

theorem registerBackend_heard (command : RegisterBackendCommand) :
    (registerBackend env command s).2.getWalletInstance w = s.getWalletInstance w ∨
      ∃ row, (registerBackend env command s).2.getWalletInstance w = some row ∧
        Heard (env.now 0) row := by
  by_cases hkind : ∀ wallet, s.getWalletInstance command.walletInstanceId = some wallet →
      wallet.backendKind = command.backendKind
  · rw [registerBackend_of_kind hkind]
    exact writeInstance_heard ⟨rfl, rfl⟩
  · obtain ⟨wallet, hwallet, hne⟩ : ∃ wallet, s.getWalletInstance command.walletInstanceId =
        some wallet ∧ wallet.backendKind ≠ command.backendKind := by
      simpa using hkind
    rw [registerBackend_of_other_kind hwallet hne]
    exact .inl rfl

theorem updateBackendAccounts_heard (command : UpdateBackendAccountsCommand) :
    (updateBackendAccounts env command s).2.getWalletInstance w = s.getWalletInstance w ∨
      ∃ row, (updateBackendAccounts env command s).2.getWalletInstance w = some row ∧
        Heard (env.now 0) row := by
  cases hwallet : s.getWalletInstance command.walletInstanceId with
  | none =>
    have hstate : (updateBackendAccounts env command s).2 = s := unregistered_state hwallet
    rw [hstate]
    exact .inl rfl
  | some wallet =>
    rw [updateBackendAccounts_of_registered hwallet]
    exact writeInstance_heard ⟨rfl, rfl⟩

theorem heartbeatBackend_heard (command : HeartbeatBackendCommand) :
    ((c.heartbeatBackend env command s).2.getWalletInstance w = s.getWalletInstance w ∧
      (command.walletInstanceId = w → s.getWalletInstance w = none)) ∨
      ∃ row, (c.heartbeatBackend env command s).2.getWalletInstance w = some row ∧
        Heard (env.now 0) row := by
  by_cases hw : command.walletInstanceId = w
  · subst hw
    rcases heartbeatBackend_instance c env s command with ⟨hnone, hsame⟩ | ⟨wallet, -, hwritten⟩
    · exact .inl ⟨by rw [hsame], fun _ => hnone⟩
    · exact .inr ⟨_, hwritten, rfl, rfl⟩
  · have hframe : Alike False (· = w) s (c.heartbeatBackend env command s).2 :=
      alike_heartbeatBackend hw
    exact .inl ⟨(hframe.1.instances w rfl).symm, fun h => absurd h hw⟩

/-- Everything a command can do to the row of a wallet. -/
theorem step_instance (c : Coordinator) (s : Store) (x : Step) (w : WalletInstanceId) :
    (c.step s x).getWalletInstance w = s.getWalletInstance w ∨
    (∃ row, (c.step s x).getWalletInstance w = some row ∧ Heard (x.env.now 0) row) ∨
    (x.command = .tickMaintenance ∧ (c.step s x).getWalletInstance w =
      (s.getWalletInstance w).map fun row => row.checked c (x.env.now 0)) := by
  obtain ⟨env, command⟩ := x
  by_cases hkeeps : command.KeepsWallets
  · have hwallets : (c.step s ⟨env, command⟩).wallets = s.wallets := step_keepsWallets hkeeps
    have hinstances : (c.step s ⟨env, command⟩).walletInstances = s.walletInstances :=
      congrArg Prod.fst hwallets
    refine .inl ?_
    unfold Store.getWalletInstance
    rw [hinstances]
  cases command with
  | registerExtension command =>
    simp only [Coordinator.step, dispatch, map_apply]
    exact (registerBackend_heard _).imp_right .inl
  | registerBackend command =>
    simp only [Coordinator.step, dispatch, map_apply]
    exact (registerBackend_heard command).imp_right .inl
  | updateExtensionAccounts command =>
    simp only [Coordinator.step, dispatch, map_apply]
    exact (updateBackendAccounts_heard _).imp_right .inl
  | updateBackendAccounts command =>
    simp only [Coordinator.step, dispatch, map_apply]
    exact (updateBackendAccounts_heard command).imp_right .inl
  | heartbeatExtension command =>
    simp only [Coordinator.step, dispatch, map_apply]
    exact (heartbeatBackend_heard _).imp And.left .inl
  | heartbeatBackend command =>
    simp only [Coordinator.step, dispatch, map_apply]
    exact (heartbeatBackend_heard command).imp And.left .inl
  | tickMaintenance =>
    obtain ⟨result, s', hrun, hticked⟩ := tickMaintenance_spec c env s
    refine .inr (.inr ⟨rfl, ?_⟩)
    simp only [Coordinator.step, dispatch, map_apply, hrun]
    exact hticked.instances w
  | _ => exact absurd trivial hkeeps

/-- A heartbeat of a registered wallet is heard. -/
theorem step_heartbeat_heard {x : Step} {ids : List RequestId}
    (hcommand : x.command.heartbeat? = some (w, ids)) (hregistered : s.getWalletInstance w ≠ none) :
    ∃ row, (c.step s x).getWalletInstance w = some row ∧ Heard (x.env.now 0) row := by
  obtain ⟨env, command⟩ := x
  cases command <;> simp only [CoordinatorCommand.heartbeat?, reduceCtorEq, Option.some.injEq,
    Prod.mk.injEq] at hcommand
  case heartbeatExtension h =>
    simp only [Coordinator.step, dispatch, map_apply]
    exact (heartbeatBackend_heard _).resolve_left fun hx => hregistered (hx.2 hcommand.1)
  case heartbeatBackend h =>
    simp only [Coordinator.step, dispatch, map_apply]
    exact (heartbeatBackend_heard h).resolve_left fun hx => hregistered (hx.2 hcommand.1)

/-- A row is never deleted. -/
theorem step_registered {x : Step} (h : s.getWalletInstance w ≠ none) :
    (c.step s x).getWalletInstance w ≠ none := by
  rcases step_instance c s x w with hsame | ⟨row, hrow, -⟩ | ⟨-, hchecked⟩
  · rw [hsame]
    exact h
  · rw [hrow]
    exact Option.some_ne_none row
  · rw [hchecked]
    simpa using h

end Instances

/-! ## The wallet of a request -/

section Wallets

variable {c : Coordinator} {s : Store} {w : WalletInstanceId}

theorem registered_of_resolveWalletForSigning {kind : RequestKind} {address : String}
    {target : Option WalletInstanceId} (h : resolveWalletForSigning kind address target s = .ok w) :
    s.getWalletInstance w ≠ none := by
  obtain ⟨w', hw', h₁⟩ := bind_eq_ok h
  obtain rfl : w' = w := Except.ok.inj (hw'.symm.trans (resolveWalletForSigning_ok h))
  obtain ⟨wallet, hwallet, -⟩ := bind_eq_ok h₁
  exact requireWalletInstance_ok hwallet

theorem registered_of_resolveWalletForRequest {kind : RequestKind} {address : String}
    {target : Option WalletInstanceId} (h : resolveWalletForRequest kind address target s = .ok w) :
    s.getWalletInstance w ≠ none := by
  cases kind with
  | createAccount | importAccount =>
    cases target with
    | none => cases h
    | some w' =>
      obtain rfl := resolveWalletForRequest_explicit h
      obtain ⟨wallet, hwallet, -⟩ := bind_eq_ok h
      exact requireWalletInstance_ok hwallet
  | signTransaction | signMessage | exportAccount => exact registered_of_resolveWalletForSigning h

/-- Every stored request was created by a command of the run. -/
theorem run_created (steps : List Step) {id : RequestId} {r : RequestRecord}
    (hr : (c.run steps).getRequest id = some r) :
    ∃ before x after args r₀, steps = before ++ x :: after ∧
      Creation c x.env (c.run before) x.command (c.reply (c.run before) x) args r₀ ∧
      r.identity = r₀.identity := by
  induction steps using List.reverseRecOn generalizing r with
  | nil => cases hr
  | append_singleton steps x ih =>
    have hchange := run_change c steps x id
    rw [hr] at hchange
    generalize hbefore : (c.run steps).getRequest id = found at hchange
    -- an earlier creation stands before `x` as well
    have hearlier : ∀ {r' : RequestRecord}, r.identity = r'.identity →
        (c.run steps).getRequest id = some r' → ∃ before y after args r₀,
          steps ++ [x] = before ++ y :: after ∧
          Creation c y.env (c.run before) y.command (c.reply (c.run before) y) args r₀ ∧
          r.identity = r₀.identity := by
      intro r' hsame hr'
      obtain ⟨before, y, after, args, r₀, rfl, hcreation, hidentity⟩ := ih hr'
      exact ⟨before, y, after ++ [x], args, r₀, by simp, hcreation, hsame.trans hidentity⟩
    cases hchange with
    | same => exact hearlier rfl hbefore
    | creation hcreation => exact ⟨steps, x, [], _, r, rfl, hcreation, rfl⟩
    | edit hedit => exact hearlier hedit.identity_eq hbefore

theorem run_registered {before : List Step} (after : List Step)
    (h : (c.run before).getWalletInstance w ≠ none) :
    (c.run (before ++ after)).getWalletInstance w ≠ none := by
  induction after using List.reverseRecOn with
  | nil => rwa [List.append_nil]
  | append_singleton after x ih =>
    rw [← List.append_assoc, Coordinator.run_snoc]
    exact step_registered ih

/-- The wallet of a request is registered. -/
theorem request_wallet_registered (steps : List Step) {id : RequestId} {r : RequestRecord}
    (hr : (c.run steps).getRequest id = some r) :
    (c.run steps).getWalletInstance r.walletInstanceId ≠ none := by
  obtain ⟨before, x, after, args, r₀, rfl, hcreation, hidentity⟩ := run_created steps hr
  rw [walletInstanceId_of_identity hidentity]
  exact run_registered (x :: after) (registered_of_resolveWalletForRequest hcreation.routed)

end Wallets

/-! ## The time to live -/

section Lifetime

variable {c : Coordinator}

theorem add_seconds_le (t : Int) {m n : ℕ} (h : m ≤ n) : t + m * 1000 ≤ t + n * 1000 := by
  omega

theorem clampTtl_bounds (h : c.config.minRequestTtl ≤ c.config.maxRequestTtl)
    (ttlSeconds : Option DurationSeconds) :
    c.config.minRequestTtl ≤ c.clampTtl ttlSeconds ∧
      c.clampTtl ttlSeconds ≤ c.config.maxRequestTtl :=
  ⟨le_min (le_max_right _ _) h, min_le_right _ _⟩

/-- Every request was created by a step of the run, and lives for as long as its time to live
says. -/
theorem lifetime_eq (steps : List Step) {id : RequestId} {r : RequestRecord}
    (hr : (c.run steps).getRequest id = some r) :
    (∃ before x after, steps = before ++ x :: after ∧ r.createdAt = x.env.now 0) ∧
      ∃ ttlSeconds, r.expiresAt = r.createdAt + c.clampTtl ttlSeconds * 1000 := by
  obtain ⟨before, x, after, args, r₀, hsteps, hcreation, hidentity⟩ := run_created steps hr
  have hcreated : r.createdAt = r₀.createdAt := congrArg (·.2.2.2.2.2.2.2.1) hidentity
  have hexpires : r.expiresAt = r₀.expiresAt := congrArg (·.2.2.2.2.2.2.2.2) hidentity
  have hnow : r₀.createdAt = x.env.now 0 := by
    rw [hcreation.record]
    rfl
  refine ⟨⟨before, x, after, hsteps, hcreated.trans hnow⟩, args.ttlSeconds, ?_⟩
  rw [hcreated, hexpires, hnow]
  exact checkedAddSeconds_eq_some hcreation.expires

/-- The lifetime of every request lies between the two bounds. -/
theorem lifetime_bounds (h : c.config.minRequestTtl ≤ c.config.maxRequestTtl) (steps : List Step)
    {id : RequestId} {r : RequestRecord} (hr : (c.run steps).getRequest id = some r) :
    c.config.minRequestTtl ≤ (r.expiresAt - r.createdAt) / 1000 ∧
      (r.expiresAt - r.createdAt) / 1000 ≤ c.config.maxRequestTtl := by
  obtain ⟨-, ttlSeconds, hexpires⟩ := lifetime_eq steps hr
  have hdiv : ∀ t n : Int, (t + n * 1000 - t) / 1000 = n := by
    intro t n
    omega
  obtain ⟨hmin, hmax⟩ := clampTtl_bounds h ttlSeconds
  rw [hexpires, hdiv]
  exact ⟨Int.ofNat_le.mpr hmin, Int.ofNat_le.mpr hmax⟩

/-- No request outlives the largest time to live. -/
theorem expiresAt_le (h : c.config.minRequestTtl ≤ c.config.maxRequestTtl) (steps : List Step)
    {id : RequestId} {r : RequestRecord} (hr : (c.run steps).getRequest id = some r) :
    r.expiresAt ≤ r.createdAt + c.config.maxRequestTtl * 1000 := by
  obtain ⟨-, ttlSeconds, hexpires⟩ := lifetime_eq steps hr
  rw [hexpires]
  exact add_seconds_le r.createdAt (clampTtl_bounds h ttlSeconds).2

end Lifetime

/-! ## Keeping time -/

/-- The command is a heartbeat of `w`. -/
def Step.Beats (x : Step) (w : WalletInstanceId) : Prop :=
  ∃ ids, x.command.heartbeat? = some (w, ids)

/-- The command is a heartbeat of `w` that names `id`. -/
def Step.Names (x : Step) (w : WalletInstanceId) (id : RequestId) : Prop :=
  ∃ ids, x.command.heartbeat? = some (w, ids) ∧ id ∈ ids

/-- The request is in front of the user of `w`. -/
def Showing (s : Store) (w : WalletInstanceId) (id : RequestId) : Prop :=
  ∃ r, s.getRequest id = some r ∧ r.walletInstanceId = w ∧ r.status = .pendingUserApproval

/-- After `before`, the daemon hears of `w`: by a heartbeat, or by its first registration. -/
def Contact (c : Coordinator) (w : WalletInstanceId) (before : List Step) (x : Step) : Prop :=
  x.Beats w ∨ ((c.run before).getWalletInstance w = none ∧
    (c.run (before ++ [x])).getWalletInstance w ≠ none)

/-- After `before`, the lease on `id` starts anew: by a heartbeat that names it, or because it is
presented. -/
def Renewal (c : Coordinator) (w : WalletInstanceId) (id : RequestId) (before : List Step)
    (x : Step) :
    Prop :=
  x.Names w id ∨ (¬ Showing (c.run before) w id ∧ Showing (c.run (before ++ [x])) w id)

/-- Some `P` lies no more than `interval` before `x`. -/
def Lately (interval : DurationSeconds) (P : List Step → Step → Prop) (before : List Step)
    (x : Step) :
    Prop :=
  ∃ a y b, before = a ++ y :: b ∧ P a y ∧ x.env.now 0 ≤ y.env.now 0 + interval * 1000

/-- The heartbeats of `w` come at most `interval` apart, and name `id` while it is shown. Ticks,
and all other commands, come in between at any time. -/
structure KeepsTime (c : Coordinator) (interval : DurationSeconds) (w : WalletInstanceId)
    (id : RequestId) (steps : List Step) : Prop where
  clock : steps.Pairwise fun x y => x.env.now 0 ≤ y.env.now 0
  contacts : ∀ before x after, steps = before ++ x :: after → x.command = .tickMaintenance →
    (c.run before).getWalletInstance w ≠ none → Lately interval (Contact c w) before x
  renewals : ∀ before x after, steps = before ++ x :: after → x.command = .tickMaintenance →
    Showing (c.run before) w id → Lately interval (Renewal c w id) before x

/-- No tick disconnects `w` or takes `id` back before its time, and every request lives as long as
the configuration allows. -/
structure KeepsSession (c : Coordinator) (w : WalletInstanceId) (id : RequestId)
    (steps : List Step) :
    Prop where
  connected : ∀ before x after, steps = before ++ x :: after → x.command = .tickMaintenance →
    ∀ row, (c.run before).getWalletInstance w = some row →
      ∃ row', (c.run (before ++ [x])).getWalletInstance w = some row' ∧ row'.connected = true
  shown : ∀ before x after, steps = before ++ x :: after → x.command = .tickMaintenance →
    ∀ r, (c.run before).getRequest id = some r → r.walletInstanceId = w →
      r.status = .pendingUserApproval → x.env.now 0 < r.expiresAt →
      (c.run (before ++ [x])).getRequest id = some r
  lifetime : ∀ id' r, (c.run steps).getRequest id' = some r →
    c.config.minRequestTtl ≤ (r.expiresAt - r.createdAt) / 1000 ∧
      (r.expiresAt - r.createdAt) / 1000 ≤ c.config.maxRequestTtl

section Time

variable {c : Coordinator} {interval : DurationSeconds} {w : WalletInstanceId} {id : RequestId}
  {steps : List Step} {x : Step}

theorem snoc_eq_split {α : Type} {l before after : List α} {x y : α}
    (h : l ++ [x] = before ++ y :: after) :
    (before = l ∧ y = x ∧ after = []) ∨ ∃ rest, after = rest ++ [x] ∧ l = before ++ y :: rest := by
  induction after using List.reverseRecOn with
  | nil =>
    obtain ⟨rfl, hx⟩ := List.append_inj' h rfl
    exact .inl ⟨rfl, (List.singleton_inj.mp hx).symm, rfl⟩
  | append_singleton rest z =>
    rw [← List.cons_append, ← List.append_assoc] at h
    obtain ⟨rfl, hx⟩ := List.append_inj' h rfl
    obtain rfl := List.singleton_inj.mp hx
    exact .inr ⟨rest, rfl, rfl⟩

theorem KeepsTime.init {rest : List Step} (h : KeepsTime c interval w id (steps ++ rest)) :
    KeepsTime c interval w id steps where
  clock := (List.pairwise_append.mp h.clock).1
  contacts before y after hsteps := h.contacts before y (after ++ rest) (by simp [hsteps])
  renewals before y after hsteps := h.renewals before y (after ++ rest) (by simp [hsteps])

theorem KeepsTime.now_le {before after : List Step} {y : Step}
    (h : KeepsTime c interval w id (steps ++ [x]))
    (hy : steps = before ++ y :: after) : y.env.now 0 ≤ x.env.now 0 := by
  refine (List.pairwise_append.mp h.clock).2.2 y ?_ x (List.mem_singleton_self x)
  rw [hy]
  exact List.mem_append_right _ (List.mem_cons_self ..)

theorem not_isWalletStale {seen now : Int} {late offlineAfter : ℕ} (hnow : now ≤ seen + late * 1000)
    (hlt : late < offlineAfter) (hrange : (late * 1000 : Int) < i64Max) :
    isWalletStale seen now offlineAfter = false := by
  have hmin : i64Min < 0 := by decide
  have hthreshold : max i64Min (min i64Max (now - seen)) <
      if offlineAfter * 1000 ≤ u64Max ∧ (offlineAfter * 1000 : Int) ≤ i64Max then
        (offlineAfter * 1000 : Int) else i64Max := by
    split_ifs
    · omega
    · omega
  exact decide_eq_false (not_le.mpr hthreshold)

/-- A contact leaves the row of `w`, if there is one, as just heard of. -/
theorem Contact.heard {row : WalletInstanceRecord} (h : Contact c w steps x)
    (hrow : (c.run (steps ++ [x])).getWalletInstance w = some row) : Heard (x.env.now 0) row := by
  rw [Coordinator.run_snoc] at hrow
  rcases step_instance c (c.run steps) x w with hsame | ⟨row', hrow', hheard⟩ | ⟨htick, hchecked⟩
  · rcases h with ⟨ids, hbeat⟩ | ⟨hnone, -⟩
    · have hregistered : (c.run steps).getWalletInstance w ≠ none := by
        rw [← hsame, hrow]
        exact Option.some_ne_none row
      obtain ⟨row', hrow', hheard⟩ := step_heartbeat_heard (c := c) hbeat hregistered
      rw [Option.some.inj (hrow.symm.trans hrow')]
      exact hheard
    · rw [hsame, hnone] at hrow
      cases hrow
  · rw [Option.some.inj (hrow.symm.trans hrow')]
    exact hheard
  · rcases h with ⟨ids, hbeat⟩ | ⟨hnone, -⟩
    · rw [htick] at hbeat
      cases hbeat
    · rw [hchecked, hnone] at hrow
      cases hrow

/-- Along a run that keeps time, `w` is connected, and was last seen no earlier than at any of its
contacts. By induction on the run, from its end. -/
theorem seen_run (hlt : interval < c.config.walletOfflineAfter)
    (hrange : (interval * 1000 : Int) < i64Max) (h : KeepsTime c interval w id steps)
    {row : WalletInstanceRecord} (hrow : (c.run steps).getWalletInstance w = some row) :
    row.connected = true ∧ ∀ before y after, steps = before ++ y :: after → Contact c w before y →
      y.env.now 0 ≤ row.lastSeenAt := by
  induction steps using List.reverseRecOn generalizing row with
  | nil => cases hrow
  | append_singleton steps x ih =>
    by_cases hcontact : Contact c w steps x
    · obtain ⟨hconnected, hseen⟩ := hcontact.heard hrow
      refine ⟨hconnected, fun before y after hy _ => ?_⟩
      rw [hseen]
      rcases snoc_eq_split hy with ⟨rfl, rfl, rfl⟩ | ⟨rest, rfl, hsteps⟩
      · exact le_refl _
      · exact h.now_le hsteps
    -- without a contact at `x`, the row is the old one or was just heard of
    have hold : ∀ {old : WalletInstanceRecord}, (c.run steps).getWalletInstance w = some old →
        row = old → row.connected = true ∧ ∀ before y after, steps ++ [x] = before ++ y :: after →
          Contact c w before y → y.env.now 0 ≤ row.lastSeenAt := by
      rintro old hrow' rfl
      obtain ⟨hconnected, hseen⟩ := ih h.init hrow'
      refine ⟨hconnected, fun before y after hy hc => ?_⟩
      rcases snoc_eq_split hy with ⟨rfl, rfl, rfl⟩ | ⟨rest, rfl, hsteps⟩
      · exact absurd hc hcontact
      · exact hseen before y rest hsteps hc
    rw [Coordinator.run_snoc] at hrow
    rcases step_instance c (c.run steps) x w with hsame | ⟨row', hrow', hconnected, hseen⟩ |
      ⟨htick, hchecked⟩
    · exact hold (hsame.symm.trans hrow) rfl
    · obtain rfl := Option.some.inj (hrow.symm.trans hrow')
      refine ⟨hconnected, fun before y after hy _ => ?_⟩
      rw [hseen]
      rcases snoc_eq_split hy with ⟨rfl, rfl, rfl⟩ | ⟨rest, rfl, hsteps⟩
      · exact le_refl _
      · exact h.now_le hsteps
    · rw [hchecked] at hrow
      obtain ⟨old, hrow', hold'⟩ := Option.map_eq_some_iff.mp hrow
      refine hold hrow' ?_
      obtain ⟨before, y, after, hsteps, hc, hlate⟩ := h.contacts steps x [] rfl htick
        (by rw [hrow']; exact Option.some_ne_none old)
      have hseen := (ih h.init hrow').2 before y after hsteps hc
      have hfresh : isWalletStale old.lastSeenAt
        (x.env.now 0) c.config.walletOfflineAfter = false :=
        not_isWalletStale (le_trans hlate (Int.add_le_add_right hseen _)) hlt hrange
      rw [← hold']
      unfold WalletInstanceRecord.checked
      rw [hfresh]
      exact if_neg fun hx => Bool.false_ne_true hx.2

/-- An edit that leaves a request before the user has just renewed its lease. -/
theorem Edit.renewed {env : Env} {s : Store} {command : CoordinatorCommand}
    {answer : CoreResult CoordinatorResponse} {r r' : RequestRecord}
    (h : Edit c env s command answer r r') (hstatus : r'.status = .pendingUserApproval) :
    ∃ lease, r'.presentation = some lease ∧
      lease.presentationExpiresAt = env.now 0 + c.config.presentationLeaseTtl * 1000 := by
  cases h with
  | resume _ _ _ _ _ _ hexpires => exact ⟨_, rfl, checkedAddSeconds_eq_some hexpires⟩
  | present _ _ _ _ _ _ hexpires => exact ⟨_, rfl, checkedAddSeconds_eq_some hexpires⟩
  | represent _ _ _ _ _ _ _ hexpires => exact ⟨_, rfl, checkedAddSeconds_eq_some hexpires⟩
  | heartbeat _ _ _ _ _ _ hexpires => exact ⟨_, rfl, checkedAddSeconds_eq_some hexpires⟩
  | @reject command _ _ _ _ _ =>
    have hreject : (mapRejectReason command.reasonCode).1 = .pendingUserApproval := hstatus
    cases hreason : command.reasonCode <;> rw [hreason] at hreject <;> cases hreject
  | @evict r _ _ happroved =>
    have hsame : r.status = .pendingUserApproval := hstatus
    rw [happroved] at hsame
    cases hsame
  | claim | resolve | cancel | expire | release => cases hstatus

/-- A heartbeat that names a shown request renews its lease. -/
theorem Step.Names.renews {r : RequestRecord} {t : TimestampMs} (h : x.Names w id)
    (hr : (c.run steps).getRequest id = some r) (hw : r.walletInstanceId = w)
    (ht : checkedAddSeconds (x.env.now 0) c.config.presentationLeaseTtl = some t) :
    (c.run (steps ++ [x])).getRequest id = some (r.heartbeaten w (x.env.now 0) t) := by
  obtain ⟨ids, hbeat, hid⟩ := h
  have hregistered : (c.run steps).getWalletInstance w ≠ none :=
    hw ▸ request_wallet_registered steps hr
  rw [Coordinator.run_snoc]
  exact step_heartbeat hbeat hregistered ht hid hr

/-- The clock never comes so close to its end that a presentation lease overflows. -/
def InRange (c : Coordinator) (steps : List Step) : Prop :=
  ∀ x ∈ steps, checkedAddSeconds (x.env.now 0) c.config.presentationLeaseTtl ≠ none

theorem InRange.init {rest : List Step} (h : InRange c (steps ++ rest)) : InRange c steps :=
  fun y hy => h y (List.mem_append_left _ hy)

theorem interval_lt_i64Max {late lease : ℕ} {now : TimestampMs}
    (hnow : checkedAddSeconds now lease ≠ none)
    (hlt : late < lease) : (late * 1000 : Int) < i64Max := by
  unfold checkedAddSeconds at hnow
  split_ifs at hnow with hsmall
  · omega
  · exact absurd rfl hnow
  · exact absurd rfl hnow

theorem lt_of_within {now last expires : Int} {late lease : ℕ} (hnow : now ≤ last + late * 1000)
    (hlt : late < lease) (hexpires : last + lease * 1000 ≤ expires) : now < expires := by
  omega

/-- Along a run that keeps time, the lease of a shown request reaches as far as its last renewal
made it. -/
theorem lease_run (h : KeepsTime c interval w id steps) (hrange : InRange c steps)
    {r : RequestRecord}
    (hr : (c.run steps).getRequest id = some r) (hw : r.walletInstanceId = w)
    (hstatus : r.status = .pendingUserApproval) :
    ∃ lease, r.presentation = some lease ∧ ∀ before y after, steps = before ++ y :: after →
      Renewal c w id before y →
      y.env.now 0 + c.config.presentationLeaseTtl * 1000 ≤ lease.presentationExpiresAt := by
  induction steps using List.reverseRecOn generalizing r with
  | nil => cases hr
  | append_singleton steps x ih =>
    -- a lease that was renewed by `x` itself reaches beyond all earlier renewals
    have hrenewed : ∀ {lease : PresentationLease}, r.presentation = some lease →
        lease.presentationExpiresAt = x.env.now 0 + c.config.presentationLeaseTtl * 1000 →
        ∃ lease, r.presentation = some lease ∧ ∀ before y after, steps ++
          [x] = before ++ y :: after →
          Renewal c w id before y →
          y.env.now 0 + c.config.presentationLeaseTtl * 1000 ≤ lease.presentationExpiresAt := by
      intro lease hlease hexpires
      refine ⟨lease, hlease, fun before y after hy _ => ?_⟩
      rw [hexpires]
      rcases snoc_eq_split hy with ⟨rfl, rfl, rfl⟩ | ⟨rest, rfl, hsteps⟩
      · exact le_refl _
      · exact Int.add_le_add_right (h.now_le hsteps) _
    have hchange := run_change c steps x id
    rw [hr] at hchange
    generalize hbefore : (c.run steps).getRequest id = found at hchange
    cases hchange with
    | creation hcreation =>
      rw [hcreation.record] at hstatus
      cases hstatus
    | edit hedit =>
      obtain ⟨lease, hlease, hexpires⟩ := hedit.renewed hstatus
      exact hrenewed hlease hexpires
    | same =>
      obtain ⟨lease, hlease, hreach⟩ := ih h.init hrange.init hbefore hw hstatus
      by_cases hrenewal : Renewal c w id steps x
      · rcases hrenewal with hnames | ⟨hnot, -⟩
        · obtain ⟨t, ht⟩ := Option.ne_none_iff_exists'.mp
            (hrange x (List.mem_append_right _ (List.mem_singleton_self x)))
          have hwritten := hnames.renews hbefore hw ht
          have hsame : r = r.heartbeaten w (x.env.now 0) t :=
            Option.some.inj (hr.symm.trans hwritten)
          have hextended : r.heartbeaten w (x.env.now 0) t = r.extended lease t (x.env.now 0) := by
            simp [RequestRecord.heartbeaten, hw, hstatus, hlease]
          rw [hextended] at hsame
          have hpresentation : r.presentation = some { lease with presentationExpiresAt := t } := by
            rw [hsame]
            rfl
          exact hrenewed hpresentation (checkedAddSeconds_eq_some ht)
        · exact absurd ⟨r, hbefore, hw, hstatus⟩ hnot
      · refine ⟨lease, hlease, fun before y after hy hy' => ?_⟩
        rcases snoc_eq_split hy with ⟨rfl, rfl, rfl⟩ | ⟨rest, rfl, hsteps⟩
        · exact absurd hy' hrenewal
        · exact hreach before y rest hsteps hy'

/-- In a run whose clock does not go back, the lease of a shown request lasts at least as long from
the creation of the request on. -/
theorem lease_from_creation (hclock : steps.Pairwise fun x y => x.env.now 0 ≤ y.env.now 0)
    {r : RequestRecord} (hr : (c.run steps).getRequest id = some r)
    (hstatus : r.status = .pendingUserApproval) :
    ∃ lease, r.presentation = some lease ∧
      r.createdAt + c.config.presentationLeaseTtl * 1000 ≤ lease.presentationExpiresAt := by
  induction steps using List.reverseRecOn generalizing r with
  | nil => cases hr
  | append_singleton steps x ih =>
    have hchange := run_change c steps x id
    obtain ⟨⟨before, y, after, hsteps, hcreated⟩, -⟩ := lifetime_eq _ hr
    have hpast : y.env.now 0 ≤ x.env.now 0 := by
      rcases snoc_eq_split hsteps with ⟨-, rfl, -⟩ | ⟨rest, -, hsteps⟩
      · exact le_refl _
      · exact (List.pairwise_append.mp hclock).2.2 y (by simp [hsteps]) x
          (List.mem_singleton_self x)
    rw [hr] at hchange
    generalize hbefore : (c.run steps).getRequest id = found at hchange
    cases hchange with
    | creation hcreation =>
      rw [hcreation.record] at hstatus
      cases hstatus
    | edit hedit =>
      obtain ⟨lease, hlease, hexpires⟩ := hedit.renewed hstatus
      refine ⟨lease, hlease, ?_⟩
      rw [hexpires, hcreated]
      exact Int.add_le_add_right hpast _
    | same => exact ih (List.pairwise_append.mp hclock).1 hbefore hstatus

/-- A tick leaves a request alone that is in front of the user and not due. -/
theorem tick_keeps_shown {r : RequestRecord} {lease : PresentationLease}
    (htick : x.command = .tickMaintenance) (hr : (c.run steps).getRequest id = some r)
    (hstatus : r.status = .pendingUserApproval) (hlease : r.presentation = some lease)
    (hlive : x.env.now 0 < lease.presentationExpiresAt) (hexpires : x.env.now 0 < r.expiresAt) :
    (c.run (steps ++ [x])).getRequest id = some r := by
  obtain ⟨env, command⟩ := x
  obtain rfl : command = .tickMaintenance := htick
  obtain ⟨result, s', hrun, hticked⟩ := tickMaintenance_spec c env (c.run steps)
  have hstep : c.step (c.run steps) ⟨env, .tickMaintenance⟩ = s' := by
    unfold Coordinator.step
    simp only [dispatch, map_apply, hrun]
  have hresult : r.result = none :=
    ((run_wellFormed c steps id r hr).undecided (by rw [hstatus]; rfl)).result
  have hnotdue : ¬ r.Due (env.now 0) := by
    rintro (⟨-, hdue⟩ | hdelivery | hpresentation | hretained)
    · exact absurd hdue (not_le.mpr hexpires)
    · rw [deliveryLeaseExpired_status hdelivery] at hstatus
      cases hstatus
    · have hover : lease.presentationExpiresAt ≤ env.now 0 := by
        simpa [presentationExpired, hstatus, hlease] using hpresentation
      exact absurd hover (not_le.mpr hlive)
    · rw [resultExpired_eq_false_of_result hresult] at hretained
      cases hretained
  rw [Coordinator.run_snoc, hstep, hticked.requests, hr, Option.map_some,
    swept_unretained_of_not_due hnotdue]

end Time

/-! ## Accepted configurations -/

/-- Under an accepted configuration whose presentation lease outlasts the heartbeat interval, or the
longest lifetime of a request, and whose bounds on the lifetime are in order, a wallet that keeps
time keeps its session. -/
theorem heartbeating_wallet_keeps_session {sources : ConfigSources} {args : ServeArgs}
    {config : RuntimeConfig} (hload : RuntimeConfig.load sources args = .ok config)
    (c : Coordinator)
    (hconfig : c.config = config.coordinator)
    (hlease : config.heartbeatInterval < config.coordinator.presentationLeaseTtl ∨
      config.coordinator.maxRequestTtl ≤ config.coordinator.presentationLeaseTtl ∧
        (config.heartbeatInterval * 1000 : Int) < i64Max)
    (hbounds : config.coordinator.minRequestTtl ≤ config.coordinator.maxRequestTtl)
    (w : WalletInstanceId) (id : RequestId) (steps : List Step) (hrange : InRange c steps)
    (htime : KeepsTime c config.heartbeatInterval w id steps) : KeepsSession c w id steps := by
  rw [← hconfig] at hlease hbounds
  have hoffline : config.heartbeatInterval < c.config.walletOfflineAfter := by
    rw [hconfig]
    exact load_heartbeatInterval_lt hload
  refine ⟨?_, ?_, fun id' r hr => lifetime_bounds hbounds steps hr⟩
  · rintro before x after rfl - row hrow
    have hregistered : (c.run (before ++ [x])).getWalletInstance w ≠ none := by
      refine run_registered [x] ?_
      rw [hrow]
      exact Option.some_ne_none row
    obtain ⟨row', hrow'⟩ := Option.ne_none_iff_exists'.mp hregistered
    have htime' : KeepsTime c config.heartbeatInterval w id ((before ++ [x]) ++ after) := by
      simpa using htime
    have hlate : (config.heartbeatInterval * 1000 : Int) < i64Max :=
      hlease.elim (interval_lt_i64Max (hrange x (by simp))) And.right
    exact ⟨row', hrow', (seen_run hoffline hlate htime'.init hrow').1⟩
  · rintro before x after rfl htick r hr hw hstatus hexpires
    rcases hlease with hlease | ⟨hlonger, -⟩
    · obtain ⟨lease, hpresentation, hreach⟩ := lease_run htime.init hrange.init hr hw hstatus
      obtain ⟨a, y, b, hbefore, hrenewal, hlate⟩ :=
        htime.renewals before x after rfl htick ⟨r, hr, hw, hstatus⟩
      have hlive : x.env.now 0 < lease.presentationExpiresAt :=
        lt_of_within hlate hlease (hreach a y b hbefore hrenewal)
      exact tick_keeps_shown htick hr hstatus hpresentation hlive hexpires
    · -- the request runs out before its lease can
      obtain ⟨lease, hpresentation, hreach⟩ := lease_from_creation htime.init.clock hr hstatus
      have hlife : r.expiresAt ≤ lease.presentationExpiresAt := calc
        r.expiresAt ≤ r.createdAt + c.config.maxRequestTtl * 1000 := expiresAt_le hbounds before hr
        _ ≤ r.createdAt + c.config.presentationLeaseTtl * 1000 := add_seconds_le r.createdAt hlonger
        _ ≤ lease.presentationExpiresAt := hreach
      exact tick_keeps_shown htick hr hstatus hpresentation (lt_of_lt_of_le hexpires hlife) hexpires

namespace Session

/-- A configuration file that sets the heartbeat interval and the time after which a wallet is taken
to be offline. -/
def configFile (heartbeatInterval walletOfflineAfter : ℕ) : ConfigSources where
  packageVersion := "0.1.0"
  env _ := none
  file := .ok
    { allowedExtensionIds := some ["extension-1"]
      heartbeatIntervalSeconds := some heartbeatInterval
      walletOfflineAfterSeconds := some walletOfflineAfter }
  defaultSocketPath := "run/starmaskd.sock"
  defaultDatabasePath := "run/starmaskd.sqlite3"
  validateLocalAccountDir path _ := .ok path

def noArgs : ServeArgs := ⟨none, none, none⟩

/-- What `load` makes of it. -/
def loaded (heartbeatInterval walletOfflineAfter : ℕ) : RuntimeConfig where
  channel := .development
  socketPath := "run/starmaskd.sock"
  databasePath := "run/starmaskd.sqlite3"
  logLevel := "info"
  maintenanceInterval := 1
  heartbeatInterval := heartbeatInterval
  coordinator := { CoordinatorConfig.default "0.1.0" with walletOfflineAfter := walletOfflineAfter }
  walletBackends :=
    [.starmaskExtension ⟨"browser-default", "Browser Default", .browserUi, ["extension-1"],
    "com.starcoin.starmask.development", none⟩]

def configured (config : RuntimeConfig) : Coordinator :=
  { coordinator with config := config.coordinator }

/-- The request is presented at 2000, and named by a heartbeat every ten seconds. -/
def beating : List Step :=
  [register 0, create 0, pull 1000 lease₁, present 2000 lease₁, heartbeat 12000, heartbeat 22000,
    heartbeat 32000, heartbeat 42000]

/-- The request is presented at 2000, and named by a heartbeat a second later. -/
def showing : List Step :=
  [register 0, create 0, pull 1000 lease₁, present 2000 lease₁, heartbeat 3000]

end Session

section Scenarios

variable {before after l l' : List Step} {x t : Step}

/-- Where there is one tick only, each tick is that one. -/
theorem split_at_tick (hl : ∀ y ∈ l, y.command ≠ .tickMaintenance)
    (hl' : ∀ y ∈ l', y.command ≠ .tickMaintenance) (h : l ++ t :: l' = before ++ x :: after)
    (hx : x.command = .tickMaintenance) : before = l ∧ x = t := by
  rcases List.append_eq_append_iff.mp h with ⟨rest, rfl, hrest⟩ | ⟨rest, rfl, hrest⟩
  · cases rest with
    | nil => exact ⟨List.append_nil l, (List.cons.inj hrest).1.symm⟩
    | cons y rest =>
      have hmem : x ∈ l' := by
        rw [(List.cons.inj hrest).2]
        exact List.mem_append_right _ (List.mem_cons_self ..)
      exact absurd hx (hl' x hmem)
  · cases rest with
    | nil => exact ⟨(List.append_nil before).symm, (List.cons.inj hrest).1⟩
    | cons y rest =>
      have hmem : x ∈ before ++ y :: rest := by
        rw [(List.cons.inj hrest).1]
        exact List.mem_append_right _ (List.mem_cons_self ..)
      exact absurd hx (hl x hmem)

instance (s : Store) (w : WalletInstanceId) (id : RequestId) : Decidable (Showing s w id) :=
  match h : s.getRequest id with
  | some r =>
    if hr : r.walletInstanceId = w ∧ r.status = .pendingUserApproval then isTrue ⟨r, h, hr⟩
    else isFalse fun ⟨_, h', hr'⟩ => hr (Option.some.inj (h.symm.trans h') ▸ hr')
  | none => isFalse fun ⟨_, h', _⟩ => Option.some_ne_none _ (h'.symm.trans h)

theorem keepsTime_of_one_tick {c : Coordinator} {interval : DurationSeconds} {w : WalletInstanceId}
    {id : RequestId} (hclock : (l ++ t :: l').Pairwise fun x y => x.env.now 0 ≤ y.env.now 0)
    (hl : ∀ y ∈ l, y.command ≠ .tickMaintenance) (hl' : ∀ y ∈ l', y.command ≠ .tickMaintenance)
    (hcontact : Lately interval (Contact c w) l t)
    (hrenewal : Lately interval (Renewal c w id) l t) :
    KeepsTime c interval w id (l ++ t :: l') where
  clock := hclock
  contacts before x after hsteps hx _ := by
    obtain ⟨rfl, rfl⟩ := split_at_tick hl hl' hsteps hx
    exact hcontact
  renewals before x after hsteps hx _ := by
    obtain ⟨rfl, rfl⟩ := split_at_tick hl hl' hsteps hx
    exact hrenewal

end Scenarios

open Session in
theorem heartbeating_wallet_keeps_session_beating :
    RuntimeConfig.load (configFile 10 25) noArgs = .ok (loaded 10 25) ∧
      Showing ((configured (loaded 10 25)).run beating) wallet request ∧
      KeepsSession (configured (loaded 10 25)) wallet request (beating ++ [tick 50000]) := by
  have hload : RuntimeConfig.load (configFile 10 25) noArgs = .ok (loaded 10 25) := by
    decide +kernel
  have hlast : beating = beating.take 7 ++ heartbeat 42000 :: [] := by rfl
  have hnames : (heartbeat 42000).Names wallet request :=
    ⟨[request], rfl, List.mem_singleton_self _⟩
  have htime : KeepsTime (configured (loaded 10 25)) (loaded 10 25).heartbeatInterval wallet request
      (beating ++ [tick 50000]) :=
    keepsTime_of_one_tick (by decide) (by decide) (by simp)
      ⟨_, _, _, hlast, .inl ⟨_, rfl⟩, by decide⟩ ⟨_, _, _, hlast, .inl hnames, by decide⟩
  refine ⟨hload, by decide +kernel, ?_⟩
  exact heartbeating_wallet_keeps_session hload (configured (loaded 10 25)) rfl (.inl (by decide))
    (by decide)
    wallet request _ (by unfold InRange; decide) htime

open Session in
/-- A heartbeat interval of 60 seconds is accepted although the presentation lease lasts 45: a tick
between two heartbeats takes the request back, ten seconds before it expires. -/
theorem presentation_lease_lapses_between_heartbeats :
    RuntimeConfig.load (configFile 60 120) noArgs = .ok (loaded 60 120) ∧
      KeepsTime (configured (loaded 60 120)) (loaded 60 120).heartbeatInterval wallet request
        (showing ++ tick 50000 :: [heartbeat 63000]) ∧
      (((configured (loaded 60 120)).run (showing ++ [tick 50000])).getRequest request).map
        (fun r => (r.status, r.expiresAt)) = some (.created, 60000) ∧
      ¬ KeepsSession (configured (loaded 60 120)) wallet request
        (showing ++ tick 50000 :: [heartbeat 63000]) := by
  have hlast : showing = showing.take 4 ++ heartbeat 3000 :: [] := by rfl
  have hnames : (heartbeat 3000).Names wallet request := ⟨[request], rfl, List.mem_singleton_self _⟩
  have htime : KeepsTime (configured (loaded 60 120))
    (loaded 60 120).heartbeatInterval wallet request
      (showing ++ tick 50000 :: [heartbeat 63000]) :=
    keepsTime_of_one_tick (by decide) (by decide) (by decide)
      ⟨_, _, _, hlast, .inl ⟨_, rfl⟩, by decide⟩ ⟨_, _, _, hlast, .inl hnames, by decide⟩
  have hafter :
    (((configured (loaded 60 120)).run (showing ++ [tick 50000])).getRequest request).map
      (fun r => (r.status, r.expiresAt)) = some (.created, 60000) := by decide +kernel
  refine ⟨by decide +kernel, htime, hafter, fun hkeeps => ?_⟩
  have hbefore : (((configured (loaded 60 120)).run showing).getRequest request).map
      (fun r => (r.walletInstanceId, r.status, r.expiresAt)) =
        some (wallet, .pendingUserApproval, 60000) := by decide +kernel
  obtain ⟨r, hr, hrow⟩ := Option.map_eq_some_iff.mp hbefore
  obtain ⟨hw, hstatus, hexpires⟩ : r.walletInstanceId = wallet ∧ r.status = .pendingUserApproval ∧
      r.expiresAt = 60000 := by simpa using hrow
  have hdue : (tick 50000).env.now 0 < r.expiresAt := by
    rw [hexpires]
    decide
  have hkept := hkeeps.shown showing (tick 50000) [heartbeat 63000] rfl rfl r hr hw hstatus hdue
  rw [hkept] at hafter
  simp [hstatus] at hafter

end StarcoinMcp.Starmask
