import StarcoinMcp.Starmask.Repository

/-! The coordinator cannot tell apart two repositories that answer alike. `Simulates` says, call
by call, that a repository answers as the store of records does; the methods of the coordinator
then give the same replies on both and leave related states. Lists may come in any order. -/

namespace StarcoinMcp.Starmask

open Coordinator FailState

/-! ## What only the wallet tables decide -/

/-- `f` reads nothing but the wallet tables. -/
def WalletOnly {α : Type} (f : Store → α) : Prop := ∀ s s' : Store, s.SameWallets s' → f s = f s'

section WalletOnly

/-- Two stores with the same wallet tables differ in their requests only. -/
theorem walletOnly_of_tables {α : Type} {f : Store → α}
    (h : ∀ requests requests' clientIds clientIds' instances accounts labels,
      f ⟨requests, clientIds, instances, accounts, labels⟩ =
        f ⟨requests', clientIds', instances, accounts, labels⟩) : WalletOnly f := by
  rintro ⟨requests, clientIds, instances, accounts, labels⟩
    ⟨requests', clientIds', instances', accounts', labels'⟩ ⟨hinstances, haccounts, hlabels⟩
  dsimp only at hinstances haccounts hlabels
  subst hinstances haccounts hlabels
  exact h requests requests' clientIds clientIds' _ _ _

theorem walletOnly_requireWalletInstance (w : WalletInstanceId) : WalletOnly (requireWalletInstance w) :=
  walletOnly_of_tables fun _ _ _ _ _ _ _ => rfl

theorem walletOnly_resolveWalletForRequest (kind : RequestKind) (address : String)
    (w : Option WalletInstanceId) : WalletOnly (resolveWalletForRequest kind address w) :=
  walletOnly_of_tables fun _ _ _ _ _ _ _ => rfl

theorem walletOnly_listWalletInstances (scan : Scan WalletInstanceRecord) (connectedOnly : Bool) :
    WalletOnly fun s => s.listWalletInstances scan connectedOnly :=
  walletOnly_of_tables fun _ _ _ _ _ _ _ => rfl

/-- Outcomes of a call on the wallet tables, up to the requests of the store. -/
def SameOutcome {α : Type} (u u' : Except RepositoryError (α × Store)) : Prop :=
  (∃ e, u = .error e ∧ u' = .error e) ∨ ∃ a t t', u = .ok (a, t) ∧ u' = .ok (a, t') ∧ t.SameWallets t'

theorem SameOutcome.error {α : Type} (e : RepositoryError) :
    SameOutcome (α := α) (.error e) (.error e) := .inl ⟨e, rfl, rfl⟩

theorem SameOutcome.ok {α : Type} (a : α) {s s' : Store} (h : s.SameWallets s') :
    SameOutcome (.ok (a, s)) (.ok (a, s')) := .inr ⟨a, s, s', rfl, rfl, h⟩

theorem coupled_storeCall {α : Type} {f : Store → Except RepositoryError (α × Store)}
    (hf : ∀ s s' : Store, s.SameWallets s' → SameOutcome (f s) (f s')) :
    Coupled Store.SameWallets (storeCall f) (storeCall f) := by
  intro s s' h
  rcases hf s s' h with ⟨e, hs, hs'⟩ | ⟨a, t, t', hs, hs', hsame⟩
  · rw [storeCall_error hs, storeCall_error hs']
    exact ⟨rfl, h⟩
  · rw [storeCall_ok hs, storeCall_ok hs']
    exact ⟨rfl, hsame⟩

theorem coupled_reading_tables {α : Type} {f : Store → CoreResult α} (hf : WalletOnly f) :
    Coupled Store.SameWallets (reading f) (reading f) := fun s s' h => ⟨hf s s' h, h⟩

theorem sameWallets_upsertWalletInstance {s s' : Store} (h : s.SameWallets s')
    (row : WalletInstanceRecord) :
    (s.upsertWalletInstance row).SameWallets (s'.upsertWalletInstance row) :=
  ⟨congrArg (fun t => t.upsert row) h.1, h.2.1, h.2.2⟩

theorem coupled_upsertWalletInstance_tables (row : WalletInstanceRecord) :
    Coupled Store.SameWallets (upsertWalletInstance row) (upsertWalletInstance row) :=
  fun _ _ h => ⟨rfl, sameWallets_upsertWalletInstance h row⟩

theorem sameOutcome_labelAccounts {w : WalletInstanceId} {known : List String} {t : Int} :
    ∀ (accounts : List WalletAccountRecord) (n : Int) {s s' : Store}, s.SameWallets s' →
      SameOutcome ((Store.labelAccounts w known t accounts n s).map fun s => ((), s))
        ((Store.labelAccounts w known t accounts n s').map fun s => ((), s))
  | [], n, s, s', h => .ok () h
  | a :: accounts, n, s, s', h => by
    unfold Store.labelAccounts
    split_ifs
    · exact sameOutcome_labelAccounts accounts n h
    · cases Store.discoveredAccountLabel a.label n with
      | error e => exact .error e
      | ok text =>
        refine sameOutcome_labelAccounts accounts (n + 1) ⟨h.1, h.2.1, ?_⟩
        unfold Store.upsertWalletAccountLabel
        rw [h.2.2]

theorem sameOutcome_insertWalletAccounts :
    ∀ (accounts : List WalletAccountRecord) {s s' : Store}, s.SameWallets s' →
      SameOutcome ((Store.insertWalletAccounts accounts s).map fun s => ((), s))
        ((Store.insertWalletAccounts accounts s').map fun s => ((), s))
  | [], s, s', h => .ok () h
  | a :: accounts, s, s', h => by
    have hwallet : s'.getWalletInstance a.walletInstanceId = s.getWalletInstance a.walletInstanceId :=
      congrArg (fun t => t.find a.walletInstanceId) h.1
    unfold Store.insertWalletAccounts
    rw [hwallet, h.2.1]
    split
    · exact .error _
    · exact .error _
    · exact sameOutcome_insertWalletAccounts accounts ⟨h.1, rfl, h.2.2⟩

theorem walletOnly_isLocalAccountWallet (w : WalletInstanceId) :
    WalletOnly fun s => s.isLocalAccountWallet w :=
  walletOnly_of_tables fun _ _ _ _ _ _ _ => rfl

theorem sameOutcome_replaceWalletAccounts {s s' : Store} (h : s.SameWallets s') (w : WalletInstanceId)
    (accounts : List WalletAccountRecord) (t : Int) :
    SameOutcome ((s.replaceWalletAccounts w accounts t).map fun s => ((), s))
      ((s'.replaceWalletAccounts w accounts t).map fun s => ((), s)) := by
  have hdelete : ∀ {x y : Store}, x.SameWallets y →
      ({ x with walletAccounts := x.walletAccounts.filter fun a => a.walletInstanceId ≠ w } :
        Store).SameWallets
      { y with walletAccounts := y.walletAccounts.filter fun a => a.walletInstanceId ≠ w } :=
    fun hxy => ⟨hxy.1, by rw [hxy.2.1], hxy.2.2⟩
  have hlocal := walletOnly_isLocalAccountWallet w s s' h
  dsimp only at hlocal
  unfold Store.replaceWalletAccounts
  rw [← hlocal]
  cases s.isLocalAccountWallet w with
  | error e => exact .error e
  | ok isLocal =>
    cases isLocal with
    | false => exact sameOutcome_insertWalletAccounts accounts (hdelete h)
    | true =>
      have hensure : SameOutcome ((s.ensureLocalAccountLabels w accounts t).map fun s => ((), s))
          ((s'.ensureLocalAccountLabels w accounts t).map fun s => ((), s)) := by
        unfold Store.ensureLocalAccountLabels Store.nextAccountOrder Store.labelsOf
        rw [h.2.2]
        exact sameOutcome_labelAccounts accounts _ h
      simp only [ok_bind, if_true]
      generalize s.ensureLocalAccountLabels w accounts t = u at hensure ⊢
      generalize s'.ensureLocalAccountLabels w accounts t = u' at hensure ⊢
      rcases hensure with ⟨e, hu, hu'⟩ | ⟨_, x, y, hu, hu', hxy⟩
      · obtain rfl : u = .error e := by
          cases u <;> cases hu
          rfl
        obtain rfl : u' = .error e := by
          cases u' <;> cases hu'
          rfl
        exact .error e
      · obtain rfl : u = .ok x := by
          cases u <;> cases hu
          rfl
        obtain rfl : u' = .ok y := by
          cases u' <;> cases hu'
          rfl
        exact sameOutcome_insertWalletAccounts accounts (hdelete hxy)

theorem coupled_replaceWalletAccounts_tables (env : Env) (w : WalletInstanceId)
    (accounts : List WalletAccountRecord) :
    Coupled Store.SameWallets (replaceWalletAccounts env w accounts)
      (replaceWalletAccounts env w accounts) :=
  coupled_storeCall fun _ _ h => sameOutcome_replaceWalletAccounts h w accounts _

theorem coupled_registerBackend_tables (env : Env) (command : RegisterBackendCommand) :
    Coupled Store.SameWallets (registerBackend env command) (registerBackend env command) :=
  (coupled_reading_tables (walletOnly_of_tables fun _ _ _ _ _ _ _ => rfl)).bind fun _ =>
    (coupled_upsertWalletInstance_tables _).bind fun _ => coupled_replaceWalletAccounts_tables env _ _

theorem coupled_updateBackendAccounts_tables (env : Env) (command : UpdateBackendAccountsCommand) :
    Coupled Store.SameWallets (updateBackendAccounts env command) (updateBackendAccounts env command) :=
  (coupled_reading_tables (walletOnly_requireWalletInstance _)).bind fun _ =>
    (coupled_upsertWalletInstance_tables _).bind fun _ => coupled_replaceWalletAccounts_tables env _ _

theorem coupled_walletSetAccountLabel (env : Env) (command : SetAccountLabelCommand) :
    Coupled Store.SameWallets (walletSetAccountLabel env command) (walletSetAccountLabel env command) := by
  refine (coupled_reading_tables (walletOnly_of_tables fun _ _ _ _ _ _ _ => rfl)).bind fun wallet => ?_
  split_ifs
  · exact fun _ _ h => ⟨rfl, h⟩
  · exact fun _ _ h => ⟨rfl, h⟩
  · have haccount : WalletOnly fun s => s.getWalletAccount command.walletInstanceId command.address :=
      walletOnly_of_tables fun _ _ _ _ _ _ _ => rfl
    refine Coupled.bind (fun s s' h => ⟨congrArg Except.ok (haccount s s' h), h⟩) fun account => ?_
    split_ifs
    · exact fun _ _ h => ⟨rfl, h⟩
    · refine (coupled_storeCall fun s s' h => ?_).bind fun _ => .pure _
      have hlocal := walletOnly_isLocalAccountWallet command.walletInstanceId s s' h
      have hstored := haccount s s' h
      dsimp only at hlocal hstored
      unfold Store.setWalletAccountLabel
      rw [← hlocal, ← hstored]
      cases s.isLocalAccountWallet command.walletInstanceId with
      | error e => exact .error e
      | ok isLocal =>
        cases isLocal with
        | false => exact .error _
        | true =>
          simp only [ok_bind, Bool.not_true, Bool.false_eq_true, if_false]
          split
          · exact .error _
          · cases Store.normalizeAccountLabel (Text.trim command.label) with
            | error e => exact .error e
            | ok label =>
              unfold Store.existingAccountOrder Store.nextAccountOrder Store.labelsOf
              rw [h.2.2]
              refine .ok _ ⟨h.1, h.2.1, ?_⟩
              unfold Store.upsertWalletAccountLabel
              rw [h.2.2]

/-- A command that touches no request: it reads and writes the wallet tables only. -/
def CoordinatorCommand.OnWallets : CoordinatorCommand → Prop
  | .systemPing | .systemGetInfo | .walletStatus | .walletListInstances _ | .walletListAccounts ..
  | .walletGetPublicKey .. | .walletSetAccountLabel _ | .registerExtension _ | .registerBackend _
  | .updateExtensionAccounts _ | .updateBackendAccounts _ => True
  | _ => False

theorem coupled_dispatch {c : Coordinator} {env : Env} {command : CoordinatorCommand}
    (h : command.OnWallets) :
    Coupled Store.SameWallets (c.dispatch env command) (c.dispatch env command) := by
  have hread : ∀ {f : Store → CoordinatorResponse}, WalletOnly f →
      Coupled Store.SameWallets (FailState.read f : CoreM CoordinatorResponse) (FailState.read f) :=
    fun hf s s' hs => ⟨congrArg Except.ok (hf s s' hs), hs⟩
  cases command <;> simp only [dispatch]
  case systemPing => exact .pure _
  case systemGetInfo => exact .pure _
  case walletStatus => exact hread (walletOnly_of_tables fun _ _ _ _ _ _ _ => rfl)
  case walletListInstances => exact hread (walletOnly_of_tables fun _ _ _ _ _ _ _ => rfl)
  case walletListAccounts =>
    exact (coupled_reading_tables (walletOnly_of_tables fun _ _ _ _ _ _ _ => rfl)).map _
  case walletGetPublicKey =>
    exact (coupled_reading_tables (walletOnly_of_tables fun _ _ _ _ _ _ _ => rfl)).map _
  case walletSetAccountLabel command => exact (coupled_walletSetAccountLabel env command).map _
  case registerExtension command => exact (coupled_registerBackend_tables env _).map _
  case registerBackend command => exact (coupled_registerBackend_tables env command).map _
  case updateExtensionAccounts command => exact (coupled_updateBackendAccounts_tables env _).map _
  case updateBackendAccounts command => exact (coupled_updateBackendAccounts_tables env command).map _
  all_goals exact h.elim

theorem keepsRequests_dispatch {c : Coordinator} {env : Env} {command : CoordinatorCommand}
    (h : command.OnWallets) : Keeps Store.requests (c.dispatch env command) := by
  cases command <;> simp only [dispatch]
  case systemPing => exact fun _ => rfl
  case systemGetInfo => exact fun _ => rfl
  case walletStatus => exact fun _ => rfl
  case walletListInstances => exact fun _ => rfl
  case walletListAccounts => exact Keeps.bind (fun _ => rfl) fun _ _ => rfl
  case walletGetPublicKey => exact Keeps.bind (fun _ => rfl) fun _ _ => rfl
  case walletSetAccountLabel command =>
    exact (keepsRequests_walletSetAccountLabel env command).bind fun _ _ => rfl
  case registerExtension command => exact (keepsRequests_registerBackend env _).bind fun _ _ => rfl
  case registerBackend command => exact (keepsRequests_registerBackend env command).bind fun _ _ => rfl
  case updateExtensionAccounts command =>
    exact (keepsRequests_updateBackendAccounts env _).bind fun _ _ => rfl
  case updateBackendAccounts command =>
    exact (keepsRequests_updateBackendAccounts env command).bind fun _ _ => rfl
  all_goals exact h.elim

end WalletOnly

/-! ## Repositories that answer alike -/

def Waits (w : WalletInstanceId) (r : RequestRecord) : Prop := r.walletInstanceId = w ∧ r.status = .created

/-- Results are kept on terminal requests only. -/
def Store.Settled (s : Store) : Prop :=
  ∀ r ∈ s.requests.rows, r.resultExpiresAt.isSome = true → r.status.isTerminal = true

def Store.DistinctCreated (s : Store) : Prop :=
  ∀ r ∈ s.requests.rows, ∀ r' ∈ s.requests.rows, r.createdAt = r'.createdAt → r = r'

/-- In related states the repository answers as the store of records does, and every write that
the store accepts leaves related states. -/
structure Simulates {σ : Type} (R : Repository σ) (T : σ → Store → Prop) : Prop where
  getRequest : ∀ {x s}, T x s → ∀ id, R.getRequest x id = .ok (s.getRequest id)
  getRequestByClientRequestId : ∀ {x s}, T x s → ∀ id,
    R.getRequestByClientRequestId x id = .ok (s.getRequestByClientRequestId id)
  insertRequest : ∀ {x s r s'}, T x s → s.insertRequest r = .ok (r, s') →
    ∃ x', R.insertRequest x r = .ok (r, x') ∧ T x' s'
  updateRequest : ∀ {x s r}, T x s → s.Rewritable r →
    ∃ x', R.updateRequest x r = .ok (r, x') ∧ T x' (s.writeRequest r)
  claim_none : ∀ {x s w}, T x s → (∀ r ∈ s.requests.rows, ¬ Waits w r) → ∀ lease now,
    R.claimNextRequestForWallet x w lease now = .ok (none, x)
  claim_some : ∀ {x s w r}, T x s → r ∈ s.requests.rows → Waits w r →
    (∀ r' ∈ s.requests.rows, Waits w r' → r' ≠ r → r.createdAt < r'.createdAt) → ∀ lease now,
    ∃ x', R.claimNextRequestForWallet x w lease now = .ok (some (r.claimed lease now), x') ∧
      T x' (s.writeRequest (r.claimed lease now))
  listNonTerminalRequests : ∀ {x s}, T x s → ∃ l, R.listNonTerminalRequests x = .ok l ∧
    l.Perm (s.requests.rows.filter fun r => !r.status.isTerminal)
  listTerminalRequestsWithExpiredResults : ∀ {x s}, T x s → s.Settled → ∀ now, ∃ l,
    R.listTerminalRequestsWithExpiredResults x now = .ok l ∧
    l.Perm (s.requests.rows.filter fun r => r.resultExpiresAt.any fun t => t ≤ now)
  wallets : ∀ {x s}, T x s → s.SameWallets (R.wallets x)
  putWallets : ∀ {x s s' w}, T x s → s'.requests = s.requests → s'.SameWallets w →
    T (R.putWallets x w) s'
  congr : ∀ {x s s'}, T x s → (∀ id, s'.getRequest id = s.getRequest id) → s.SameWallets s' → T x s'

section Rules

variable {σ α β : Type} {R : Repository σ} {T : σ → Store → Prop} {x : σ} {s : Store}

theorem ask_ok {f : σ → Except RepositoryError α} {a : α} (h : f x = .ok a) :
    Repository.ask f x = (.ok a, x) := by
  unfold Repository.ask
  rw [h]
  rfl

theorem change_ok {f : σ → Except RepositoryError (α × σ)} {a : α} {y : σ} (h : f x = .ok (a, y)) :
    Repository.change f x = (.ok a, y) := by
  refine call_ok ?_
  rw [h]
  rfl

theorem agrees_ask_bind {f : σ → Except RepositoryError α} {g : Store → α}
    {k : α → FailState σ CoreError β} {k' : α → CoreM β} (h : f x = .ok (g s))
    (hk : Agrees T (k (g s)) (k' (g s)) x s) :
    Agrees T (Repository.ask f >>= k) (FailState.read g >>= k') x s := by
  unfold Agrees
  rw [bind_ok (ask_ok h), read_bind]
  exact hk

theorem agrees_readWallets_bind (hsim : Simulates R T) (hx : T x s) {f : Store → CoreResult α}
    (hf : WalletOnly f) {k : α → FailState σ CoreError β} {k' : α → CoreM β}
    (hk : ∀ a, f s = .ok a → Agrees T (k a) (k' a) x s) :
    Agrees T (R.readWallets f >>= k) (reading f >>= k') x s := by
  have hsame := hf s (R.wallets x) (hsim.wallets hx)
  have hread : R.readWallets f x = (f s, x) := by
    unfold Repository.readWallets
    rw [hsame]
  cases hfs : f s with
  | error e =>
    rw [hfs] at hread
    exact agrees_of_eq (bind_error hread) (reading_error_bind hfs) hx
  | ok a =>
    rw [hfs] at hread
    unfold Agrees
    rw [bind_ok hread, reading_ok_bind hfs]
    exact hk a hfs

theorem agrees_onWallets (hsim : Simulates R T) (hx : T x s) {m : CoreM α}
    (hm : Coupled Store.SameWallets m m) (hkeep : Keeps Store.requests m) :
    Agrees T (R.onWallets m) m x s := by
  obtain ⟨hreply, hstate⟩ := hm s (R.wallets x) (hsim.wallets hx)
  exact ⟨hreply.symm, hsim.putWallets hx (hkeep s) hstate⟩

theorem agrees_updateRequest_bind (hsim : Simulates R T) (hx : T x s) {r : RequestRecord}
    (hr : s.Rewritable r) {k : RequestRecord → FailState σ CoreError β} {k' : RequestRecord → CoreM β}
    (hk : ∀ y, T y (s.writeRequest r) → Agrees T (k r) (k' r) y (s.writeRequest r)) :
    Agrees T (Repository.change (fun x => R.updateRequest x r) >>= k) (updateRequest r >>= k') x s := by
  obtain ⟨y, hy, hT⟩ := hsim.updateRequest hx hr
  unfold Agrees
  rw [bind_ok (change_ok hy), bind_ok (updateRequest_apply hr)]
  exact hk y hT

end Rules

/-! ## The methods -/

section Methods

variable {σ : Type} {R : Repository σ} {T : σ → Store → Prop} {x : σ} {s : Store} {c : Coordinator}
  {env : Env}

theorem insertRequest_of_fresh {r : RequestRecord}
    (hclient : ∀ r' ∈ s.requests.rows, r'.clientRequestId ≠ r.clientRequestId)
    (hid : s.getRequest r.requestId = none) : ∃ s', s.insertRequest r = .ok (r, s') := by
  have hinsert : (s.requests.insert r).isSome = true := Table.insert_isSome.mpr hid
  unfold Store.insertRequest
  rw [dif_pos hclient]
  split
  · next hnone =>
    rw [hnone] at hinsert
    cases hinsert
  · exact ⟨_, rfl⟩

theorem agrees_createRequest (hsim : Simulates R T) (hx : T x s) (args : CreateRequestArgs)
    (hfresh : ∀ id, env.newRequestId = .ok id → s.getRequest id = none) :
    Agrees T (R.createRequest c env args) (c.createRequest env args) x s := by
  refine agrees_ask_bind (hsim.getRequestByClientRequestId hx _) ?_
  cases hfound : s.getRequestByClientRequestId args.clientRequestId with
  | some existing =>
    dsimp only
    split_ifs
    · exact .pure hx _
    · exact .throw hx _
  | none =>
    refine agrees_readWallets_bind hsim hx (walletOnly_resolveWalletForRequest _ _ _) fun selected _ => ?_
    refine Agrees.lift_bind hx fun expiresAt _ => ?_
    refine Agrees.lift_bind hx fun requestId hid => ?_
    obtain ⟨s', hs'⟩ := insertRequest_of_fresh
      (r := newRequest args (calculatePayloadHash c.sha256 args.payload) requestId selected
        (env.now 0) expiresAt)
      (Store.getRequestByClientRequestId_eq_none.mp hfound) (hfresh requestId hid)
    obtain ⟨y, hy, hT⟩ := hsim.insertRequest hx hs'
    unfold Agrees
    rw [bind_ok (change_ok hy), bind_ok (storeCall_ok hs')]
    exact ⟨rfl, hT⟩

theorem ask_getRequest (hsim : Simulates R T) (hx : T x s) (id : RequestId) :
    Repository.ask (fun x => R.getRequest x id) x = (.ok (s.getRequest id), x) :=
  ask_ok (hsim.getRequest hx id)

theorem agrees_getRequestStatus (hsim : Simulates R T) (hx : T x s) (id : RequestId) :
    Agrees T (R.getRequestStatus id) (reading (getRequestStatus id)) x s := by
  unfold Agrees Repository.getRequestStatus
  rw [bind_ok (ask_getRequest hsim hx id)]
  unfold reading getRequestStatus
  cases s.getRequest id with
  | none => exact ⟨rfl, hx⟩
  | some r => exact ⟨rfl, hx⟩

theorem listNonTerminalRequests_perm (scan : Scan RequestRecord) (s : Store) :
    (s.listNonTerminalRequests scan).Perm (s.requests.rows.filter fun r => !r.status.isTerminal) := by
  refine (scan.orderBy_perm _ _).trans (.of_eq ?_)
  refine List.filter_congr fun r _ => ?_
  cases r.status <;> rfl

theorem agrees_requestHasAvailable (hsim : Simulates R T) (hx : T x s) (w : WalletInstanceId) :
    Agrees T (CoordinatorResponse.requestHasAvailable <$> R.requestHasAvailable w)
      (FailState.read fun s => .requestHasAvailable (requestHasAvailable env w s)) x s := by
  obtain ⟨l, hl, hperm⟩ := hsim.listNonTerminalRequests hx
  have hsame := hperm.trans (listNonTerminalRequests_perm env.requestScan s).symm
  have hrun : R.requestHasAvailable w x = (.ok (requestHasAvailable env w s), x) := by
    unfold Repository.requestHasAvailable
    rw [bind_ok (ask_ok hl)]
    unfold requestHasAvailable
    rw [hsame.any_eq]
    rfl
  refine agrees_of_eq (a := .ok (.requestHasAvailable (requestHasAvailable env w s))) ?_ rfl hx
  rw [map_apply, hrun]
  rfl

theorem agrees_cancelRequest (hsim : Simulates R T) (hx : T x s) (id : RequestId) :
    Agrees T (R.cancelRequest env id) (cancelRequest env id) x s := by
  refine agrees_ask_bind (hsim.getRequest hx id) ?_
  cases hr : s.getRequest id with
  | none => exact .throw hx _
  | some r =>
    dsimp only
    split_ifs with hterm
    · exact .pure hx _
    · have hlive : r.status.isTerminal = false := by simpa using hterm
      refine Agrees.lift_bind hx fun r' hr' => ?_
      rw [cancelledRecord_eq hlive] at hr'
      obtain rfl := Except.ok.inj hr'
      refine agrees_updateRequest_bind hsim hx ?_ fun y hy => .pure hy _
      exact rewritable_of_getRequest hr rfl rfl

theorem agrees_rewriteOwned {α : Type} (hsim : Simulates R T) (hx : T x s) {id : RequestId}
    {w : WalletInstanceId} {f : RequestRecord → CoreResult RequestRecord} {g : RequestRecord → α}
    (hf : ∀ r r', r.requestId = id → r.walletInstanceId = w → f r = .ok r' → r'.identity = r.identity) :
    Agrees T (R.rewriteOwned id w f g) (rewriteOwned id w f g) x s := by
  have hown : Agrees T (R.requireOwnedRequest id w) (reading (requireOwnedRequest id w)) x s := by
    unfold Agrees Repository.requireOwnedRequest
    rw [bind_ok (ask_getRequest hsim hx id)]
    unfold reading requireOwnedRequest
    cases s.getRequest id with
    | none => exact ⟨rfl, hx⟩
    | some r =>
      dsimp only
      split_ifs
      · exact ⟨rfl, hx⟩
      · exact ⟨rfl, hx⟩
  refine hown.bind fun r y t _ ht hyt => ?_
  obtain ⟨hr, rfl⟩ := Prod.mk.inj ht
  obtain ⟨hget, hw⟩ := requireOwnedRequest_eq_ok hr
  refine Agrees.lift_bind hyt fun r' hr' => ?_
  have hid := hf r r' (Store.getRequest_requestId hget) hw hr'
  exact agrees_updateRequest_bind hsim hyt
    (rewritable_of_getRequest hget (requestId_of_identity hid) (clientRequestId_of_identity hid))
    fun z hz => .pure hz _

theorem agrees_heartbeatRequest (hsim : Simulates R T) (hx : T x s) (w : WalletInstanceId)
    (now t : TimestampMs) (id : RequestId) :
    Agrees T (R.heartbeatRequest w now t id) (heartbeatRequest w now t id) x s := by
  refine agrees_ask_bind (hsim.getRequest hx id) ?_
  cases hr : s.getRequest id with
  | none => exact .pure hx _
  | some r =>
    dsimp only
    split_ifs
    · exact .pure hx _
    · cases r.presentation with
      | none => exact .pure hx _
      | some p =>
        refine agrees_updateRequest_bind hsim hx ?_ fun y hy => .pure hy _
        exact rewritable_of_getRequest hr rfl rfl

theorem agrees_heartbeatBackend (hsim : Simulates R T) (hx : T x s) (command : HeartbeatBackendCommand) :
    Agrees T (R.heartbeatBackend c env command) (c.heartbeatBackend env command) x s := by
  refine agrees_readWallets_bind hsim hx (walletOnly_requireWalletInstance _) fun wallet _ => ?_
  refine (agrees_onWallets hsim hx (coupled_upsertWalletInstance_tables _)
    (keepsRequests_upsertWalletInstance _)).bind fun _ y t _ _ hyt => ?_
  split_ifs
  · exact .pure hyt _
  · refine Agrees.lift_bind hyt fun expiresAt _ => ?_
    exact Agrees.forM (fun id y t hyt => agrees_heartbeatRequest hsim hyt _ _ _ id) _ hyt

/-! A list sorted by `created_at` begins with its oldest request. -/

theorem head_least {l : List RequestRecord} {r : RequestRecord}
    (hsorted : l.Pairwise fun a b => a.createdAt ≤ b.createdAt) (hhead : l.head? = some r) :
    ∀ r' ∈ l, r.createdAt ≤ r'.createdAt := by
  cases l with
  | nil => cases hhead
  | cons a l =>
    obtain rfl := Option.some.inj hhead
    intro r' hr'
    rcases List.mem_cons.mp hr' with rfl | hr'
    · exact le_refl _
    · exact (List.pairwise_cons.mp hsorted).1 r' hr'

theorem lt_of_le_of_distinct (hdistinct : s.DistinctCreated) {r r' : RequestRecord}
    (hr : r ∈ s.requests.rows) (hr' : r' ∈ s.requests.rows) (hle : r.createdAt ≤ r'.createdAt)
    (hne : r' ≠ r) : r.createdAt < r'.createdAt :=
  lt_of_le_of_ne hle fun he => hne (hdistinct r' hr' r hr he.symm)

theorem findResumableRequest_eq (hsim : Simulates R T) (hx : T x s) (hdistinct : s.DistinctCreated)
    (w : WalletInstanceId) :
    R.findResumableRequest env w x = (.ok (findResumableRequest env w s), x) := by
  obtain ⟨l, hl, hperm⟩ := hsim.listNonTerminalRequests hx
  have hsame := (hperm.trans (listNonTerminalRequests_perm env.requestScan s).symm).filter
    (resumable w (env.now 1))
  have hsorted : ((s.listNonTerminalRequests env.requestScan).filter (resumable w (env.now 1))).Pairwise
      fun a b => a.createdAt ≤ b.createdAt :=
    orderBy_pairwise.sublist List.filter_sublist
  have hmin : minByKey RequestRecord.createdAt (l.filter (resumable w (env.now 1))) =
      findResumableRequest env w s := by
    cases hfind : findResumableRequest env w s with
    | none =>
      have hnil := List.head?_eq_none_iff.mp hfind
      rw [hnil] at hsame
      exact minByKey_eq_none.mpr (List.perm_nil.mp hsame)
    | some r =>
      have hmem : ∀ r', r' ∈ l.filter (resumable w (env.now 1)) → r' ∈ s.requests.rows := by
        intro r' hr'
        have hlive := (List.mem_filter.mp (hsame.mem_iff.mp hr')).1
        exact (mem_listNonTerminalRequests.mp hlive).1
      have hr := hsame.mem_iff.mpr (List.mem_of_mem_head? hfind)
      refine minByKey_of_least hr fun r' hr' hne => ?_
      exact lt_of_le_of_distinct hdistinct (hmem r hr) (hmem r' hr')
        (head_least hsorted hfind r' (hsame.mem_iff.mp hr')) hne
  unfold Repository.findResumableRequest
  rw [bind_ok (ask_ok hl), hmin]
  rfl

theorem agrees_pullNextRequest (hsim : Simulates R T) (hx : T x s) (hdistinct : s.DistinctCreated)
    (w : WalletInstanceId) : Agrees T (R.pullNextRequest c env w) (c.pullNextRequest env w) x s := by
  refine agrees_readWallets_bind hsim hx (walletOnly_requireWalletInstance _) fun wallet _ => ?_
  unfold Agrees
  rw [bind_ok (findResumableRequest_eq hsim hx hdistinct w), read_bind]
  change Agrees T _ _ x s
  cases hfind : findResumableRequest env w s with
  | some r =>
    obtain ⟨hrow, -, -, p, hp, -⟩ := findResumableRequest_spec hfind
    refine Agrees.lift_bind hx fun r' hr' => ?_
    obtain ⟨t, -, rfl⟩ := resumedRecord_ok hp hr'
    refine agrees_updateRequest_bind hsim hx ?_ fun y hy => .pure hy _
    exact rewritable_of_getRequest (Store.mem_requests_iff.mp hrow) rfl rfl
  | none =>
    refine Agrees.lift_bind hx fun leaseId _ => ?_
    refine Agrees.lift_bind hx fun expiresAt _ => ?_
    cases hnext : s.nextCreatedRequest env.requestScan w with
    | none =>
      have hnone : ∀ r ∈ s.requests.rows, ¬ Waits w r := by
        intro r hr hwaits
        have hnil := List.head?_eq_none_iff.mp hnext
        have hmem : r ∈ env.requestScan.orderBy RequestRecord.createdAt
            (s.requests.rows.filter fun r => r.walletInstanceId = w ∧ r.status = .created) :=
          Scan.mem_orderBy.mpr (List.mem_filter.mpr ⟨hr, decide_eq_true hwaits⟩)
        rw [hnil] at hmem
        cases hmem
      have hstore : s.claimNextRequestForWallet env.requestScan w ⟨leaseId, expiresAt⟩ (env.now 0) =
          .ok (none, s) := by
        unfold Store.claimNextRequestForWallet
        rw [hnext]
      have hclaim := hsim.claim_none hx hnone ⟨leaseId, expiresAt⟩ (env.now 0)
      unfold Agrees
      rw [bind_ok (change_ok hclaim), bind_ok (storeCall_ok hstore)]
      exact ⟨rfl, hx⟩
    | some r =>
      obtain ⟨hrow, hwallet, hstatus⟩ := nextCreatedRequest_spec hnext
      have hleast : ∀ r' ∈ s.requests.rows, Waits w r' → r' ≠ r → r.createdAt < r'.createdAt := by
        intro r' hr' hwaits hne
        have hmem : r' ∈ env.requestScan.orderBy RequestRecord.createdAt
            (s.requests.rows.filter fun r => r.walletInstanceId = w ∧ r.status = .created) :=
          Scan.mem_orderBy.mpr (List.mem_filter.mpr ⟨hr', decide_eq_true hwaits⟩)
        exact lt_of_le_of_distinct hdistinct hrow hr'
          (head_least orderBy_pairwise hnext r' hmem) hne
      obtain ⟨y, hclaim, hT⟩ := hsim.claim_some hx hrow ⟨hwallet, hstatus⟩ hleast
        ⟨leaseId, expiresAt⟩ (env.now 0)
      unfold Agrees
      rw [bind_ok (change_ok hclaim), bind_ok (storeCall_ok (claimNextRequestForWallet_some hnext))]
      exact ⟨rfl, hT⟩

/-! ## The tick -/

/-- A loop over stored rows with distinct ids, round by round on both sides. -/
theorem agrees_foldlM {γ : Type} {m : γ → RequestRecord → FailState σ CoreError γ}
    {m' : γ → RequestRecord → CoreM γ} {count : γ → RequestRecord → γ}
    {f : RequestRecord → RequestRecord} {P : RequestRecord → Prop}
    (hround : ∀ g r s, s.getRequest r.requestId = some r → P r →
      ∃ s', m' g r s = (.ok (count g r), s') ∧
        Rewritten (fun x => if x.requestId = r.requestId then f r else x) s s')
    (hagree : ∀ g r y t, T y t → t.getRequest r.requestId = some r → P r →
      Agrees T (m g r) (m' g r) y t) :
    ∀ (l : List RequestRecord) (y : σ) (t : Store) (g : γ), T y t →
      (∀ r ∈ l, t.getRequest r.requestId = some r ∧ P r) → (l.map RequestRecord.requestId).Nodup →
      Agrees T (l.foldlM m g) (l.foldlM m' g) y t
  | [], y, t, g, hyt, _, _ => .pure hyt g
  | r :: l, y, t, g, hyt, hl, hnodup => by
    obtain ⟨hr, hP⟩ := hl r (List.mem_cons_self ..)
    rw [List.map_cons, List.nodup_cons] at hnodup
    rw [List.foldlM_cons, List.foldlM_cons]
    refine (hagree g r y t hyt hr hP).bind fun g' y' t' _ ht' hyt' => ?_
    obtain ⟨s', hs', hrw⟩ := hround g r t hr hP
    obtain rfl : s' = t' := (Prod.mk.inj (hs'.symm.trans ht')).2
    refine agrees_foldlM hround hagree l y' s' g' hyt' (fun x hx => ?_) hnodup.2
    obtain ⟨hfind, hPx⟩ := hl x (List.mem_cons_of_mem _ hx)
    have hother : x.requestId ≠ r.requestId := fun he => hnodup.1 (he ▸ List.mem_map_of_mem hx)
    refine ⟨?_, hPx⟩
    rw [hrw.requests, hfind]
    simp [hother]

/-- The same loop over the same rows in another order. -/
theorem foldlM_perm {γ : Type} {round : γ → RequestRecord → CoreM γ}
    {count : γ → RequestRecord → γ} {f : RequestRecord → RequestRecord} {P : RequestRecord → Prop}
    (hids : KeepsIds f)
    (hround : ∀ g r s, s.getRequest r.requestId = some r → P r →
      ∃ s', round g r s = (.ok (count g r), s') ∧
        Rewritten (fun x => if x.requestId = r.requestId then f r else x) s s')
    (hcomm : ∀ g a b, count (count g a) b = count (count g b) a)
    {l l' : List RequestRecord} (hperm : l.Perm l') (g : γ)
    (hl : ∀ r ∈ l, s.getRequest r.requestId = some r ∧ P r)
    (hnodup : (l.map RequestRecord.requestId).Nodup) :
    ∃ a t t', l.foldlM round g s = (.ok a, t) ∧ l'.foldlM round g s = (.ok a, t') ∧
      (∀ id, t'.getRequest id = t.getRequest id) ∧ t.SameWallets t' := by
  obtain ⟨t, ht, hrw⟩ := foldlM_rewritten round count f P hids hround l s g hl hnodup
  obtain ⟨t', ht', hrw'⟩ := foldlM_rewritten round count f P hids hround l' s g
    (fun r hr => hl r (hperm.mem_iff.mpr hr)) ((hperm.map _).nodup_iff.mp hnodup)
  have hcount : l.foldl count g = l'.foldl count g :=
    hperm.foldl_eq' (fun a _ b _ g => hcomm g a b) g
  refine ⟨l.foldl count g, t, t', ht, hcount ▸ ht', fun id => ?_, ?_⟩
  · rw [hrw.requests, hrw'.requests]
    simp only [hperm.mem_iff]
  · exact ⟨hrw'.wallets.1.trans hrw.wallets.1.symm, hrw'.wallets.2.1.trans hrw.wallets.2.1.symm,
      hrw'.wallets.2.2.trans hrw.wallets.2.2.symm⟩

theorem agrees_sweepRequest (hsim : Simulates R T) (hx : T x s) (now : TimestampMs) (g : Nat × Nat)
    {r : RequestRecord} (hr : s.getRequest r.requestId = some r) (hlive : r.status.isTerminal = false) :
    Agrees T (R.sweepRequest now g r) (sweepRequest now g r) x s := by
  unfold Repository.sweepRequest sweepRequest
  split_ifs with hdue hlease hpres
  · refine Agrees.lift_bind hx fun r' hr' => ?_
    rw [expiredRecord_eq hlive] at hr'
    obtain rfl := Except.ok.inj hr'
    refine agrees_updateRequest_bind hsim hx ?_ fun y hy => .pure hy _
    exact rewritable_of_getRequest hr rfl rfl
  · refine Agrees.lift_bind hx fun r' hr' => ?_
    rw [releasedRecord_eq (.inl (deliveryLeaseExpired_status hlease))] at hr'
    obtain rfl := Except.ok.inj hr'
    refine agrees_updateRequest_bind hsim hx ?_ fun y hy => .pure hy _
    exact rewritable_of_getRequest hr rfl rfl
  · refine Agrees.lift_bind hx fun r' hr' => ?_
    rw [releasedRecord_eq (.inr (presentationExpired_status hpres))] at hr'
    obtain rfl := Except.ok.inj hr'
    refine agrees_updateRequest_bind hsim hx ?_ fun y hy => .pure hy _
    exact rewritable_of_getRequest hr rfl rfl
  · exact .pure hx _

theorem agrees_evictResult (hsim : Simulates R T) (hx : T x s) (g : Nat) {r : RequestRecord}
    (hr : s.getRequest r.requestId = some r) : Agrees T (R.evictResult g r) (evictResult g r) x s := by
  unfold Repository.evictResult evictResult
  split_ifs
  · refine agrees_updateRequest_bind hsim hx ?_ fun y hy => .pure hy _
    exact rewritable_of_getRequest hr rfl rfl
  · exact .pure hx _

theorem sweepCounts_comm (now : TimestampMs) (g : Nat × Nat) (a b : RequestRecord) :
    sweepCounts now (sweepCounts now g a) b = sweepCounts now (sweepCounts now g b) a := by
  unfold sweepCounts
  split_ifs <;> rfl

/-- The first loop of the tick, each side over its own list. -/
theorem sweep_agrees (hsim : Simulates R T) (hx : T x s) (now : TimestampMs) (scan : Scan RequestRecord) :
    ∃ l counts y t, R.listNonTerminalRequests x = .ok l ∧
      l.foldlM (R.sweepRequest now) (0, 0) x = (.ok counts, y) ∧
      (s.listNonTerminalRequests scan).foldlM (sweepRequest now) (0, 0) s = (.ok counts, t) ∧
      Rewritten (fun r => r.swept now) s t ∧ T y t := by
  obtain ⟨l, hl, hperm⟩ := hsim.listNonTerminalRequests hx
  have hsame := hperm.trans (listNonTerminalRequests_perm scan s).symm
  have hrows : ∀ r ∈ l, s.getRequest r.requestId = some r ∧ r.status.isTerminal = false := by
    intro r hr
    obtain ⟨hrow, hlive⟩ := mem_listNonTerminalRequests.mp (hsame.mem_iff.mp hr)
    exact ⟨Store.mem_requests_iff.mp hrow, hlive⟩
  have hnodup : (l.map RequestRecord.requestId).Nodup :=
    (hsame.map _).nodup_iff.mpr (listNonTerminalRequests_nodup scan s)
  obtain ⟨hreply, hstate⟩ := agrees_foldlM (T := T) (m := R.sweepRequest now)
    (fun g r s hr hP => sweepRequest_spec g hr hP)
    (fun g r y t hyt hr hP => agrees_sweepRequest hsim hyt now g hr hP) l x s (0, 0) hx hrows hnodup
  obtain ⟨counts, t, t', ht, ht', hget, hwallets⟩ := foldlM_perm
    (fun r => swept_ids r : KeepsIds fun r => r.swept now)
    (fun g r s hr hP => sweepRequest_spec g hr hP) (sweepCounts_comm now) hsame (0, 0) hrows hnodup
  obtain ⟨t₁, ht₁, hrw⟩ := sweep_loop now scan s
  obtain rfl : t' = t₁ := (Prod.mk.inj (ht'.symm.trans ht₁)).2
  rw [ht] at hreply hstate
  refine ⟨l, counts, _, t', hl, ?_, ht', hrw, hsim.congr hstate hget hwallets⟩
  exact Prod.ext hreply rfl

/-- The last loop of the tick. -/
theorem evict_agrees (hsim : Simulates R T) (hx : T x s) (hs : s.Settled) (now : TimestampMs)
    (scan : Scan RequestRecord) :
    ∃ l n y t, R.listTerminalRequestsWithExpiredResults x now = .ok l ∧
      l.foldlM R.evictResult 0 x = (.ok n, y) ∧
      (s.listTerminalRequestsWithExpiredResults scan now).foldlM evictResult 0 s = (.ok n, t) ∧
      T y t := by
  obtain ⟨l, hl, hperm⟩ := hsim.listTerminalRequestsWithExpiredResults hx hs now
  have hsame : l.Perm (s.listTerminalRequestsWithExpiredResults scan now) :=
    hperm.trans (scan.perm _).symm
  have hrows : ∀ r ∈ l, s.getRequest r.requestId = some r ∧
      r.resultExpiresAt.any (fun t => t ≤ now) = true := by
    intro r hr
    obtain ⟨hrow, hdue⟩ := List.mem_filter.mp (hperm.mem_iff.mp hr)
    exact ⟨Store.mem_requests_iff.mp hrow, hdue⟩
  have hnodup : (l.map RequestRecord.requestId).Nodup :=
    (hperm.map _).nodup_iff.mpr ((List.filter_sublist.map _).nodup s.requests.nodup)
  have hcomm : ∀ (n : Nat) (a b : RequestRecord),
      (if b.result.isSome then (if a.result.isSome then n + 1 else n) + 1
        else if a.result.isSome then n + 1 else n) =
      (if a.result.isSome then (if b.result.isSome then n + 1 else n) + 1
        else if b.result.isSome then n + 1 else n) := by
    intro n a b
    split_ifs <;> rfl
  obtain ⟨hreply, hstate⟩ := agrees_foldlM (T := T) (m := R.evictResult)
    (fun g r s hr hP => evictResult_spec g hr hP)
    (fun g r y t hyt hr _ => agrees_evictResult hsim hyt g hr) l x s 0 hx hrows hnodup
  obtain ⟨n, t, t', ht, ht', hget, hwallets⟩ := foldlM_perm
    (fun r => unretained_ids r : KeepsIds fun r => r.unretained now)
    (fun g r s hr hP => evictResult_spec g hr hP) hcomm hsame 0 hrows hnodup
  rw [ht] at hreply hstate
  exact ⟨l, n, _, t', hl, Prod.ext hreply rfl, ht', hsim.congr hstate hget hwallets⟩

theorem coupled_disconnectIfStale (now : TimestampMs) (wallet : WalletInstanceRecord) :
    Coupled Store.SameWallets (c.disconnectIfStale now wallet) (c.disconnectIfStale now wallet) := by
  unfold disconnectIfStale
  split_ifs
  · exact coupled_upsertWalletInstance_tables _
  · exact .pure _

/-- What the first loop leaves is settled: it touches only requests without a result. -/
theorem settled_of_swept {t : Store} (hs : s.Settled) {now : TimestampMs}
    (h : Rewritten (fun r => r.swept now) s t) : t.Settled := by
  intro r hr hexpires
  have hget := h.requests r.requestId
  rw [Store.mem_requests_iff.mp hr] at hget
  obtain ⟨r₀, hr₀, hswept⟩ := Option.map_eq_some_iff.mp hget.symm
  have hsame : r.resultExpiresAt = r₀.resultExpiresAt := by
    rw [← hswept]
    unfold RequestRecord.swept
    split_ifs <;> rfl
  have hterminal := hs r₀ (Store.mem_of_getRequest hr₀) (hsame ▸ hexpires)
  rw [← hswept]
  unfold RequestRecord.swept
  rw [if_pos hterminal]
  exact hterminal

theorem agrees_tickMaintenance (hsim : Simulates R T) (hx : T x s) (hs : s.Settled) :
    Agrees T (R.tickMaintenance c env) (c.tickMaintenance env) x s := by
  obtain ⟨l, counts, y₁, t₁, hl, hsweep, hsweep', hrw, h₁⟩ :=
    sweep_agrees hsim hx (env.now 0) env.requestScan
  have hlist := walletOnly_listWalletInstances env.instanceScan true t₁ (R.wallets y₁) (hsim.wallets h₁)
  obtain ⟨hreply, hstate⟩ :=
    Agrees.forM (f := fun wallet => R.onWallets (c.disconnectIfStale (env.now 0) wallet))
    (fun wallet y t hyt => agrees_onWallets hsim hyt (coupled_disconnectIfStale (env.now 0) wallet)
      (keepsRequests_disconnectIfStale c (env.now 0) wallet))
    (t₁.listWalletInstances env.instanceScan true) h₁
  obtain ⟨t₂, hdisc, hrest⟩ := disconnect_connected c (env.now 0) env.instanceScan t₁
  rw [hdisc] at hreply hstate
  have hsettled : t₂.Settled := by
    have hswept := settled_of_swept hs hrw
    unfold Store.Settled at hswept ⊢
    rw [hrest.requests]
    exact hswept
  obtain ⟨l', n, y₃, t₃, hl', hevict, hevict', h₃⟩ :=
    evict_agrees hsim hstate hsettled (env.now 0) env.requestScan
  refine agrees_of_eq (a := .ok ⟨counts.1, counts.2, n⟩) ?_ ?_ h₃
  · unfold Repository.tickMaintenance
    have hread : R.readWallets (fun s => .ok (s.listWalletInstances env.instanceScan true)) y₁ =
        (.ok (t₁.listWalletInstances env.instanceScan true), y₁) :=
      congrArg (fun l => (Except.ok l, y₁)) hlist.symm
    have hask := ask_ok (f := fun x => R.listTerminalRequestsWithExpiredResults x (env.now 0)) hl'
    rw [bind_ok (ask_ok hl), bind_ok hsweep, bind_ok hread, bind_ok (Prod.ext hreply rfl), bind_ok hask,
      bind_ok hevict]
    rfl
  · unfold tickMaintenance
    rw [read_bind, bind_ok hsweep', read_bind, bind_ok hdisc, read_bind, bind_ok hevict']
    rfl

/-- The request the command is to create gets an id that no stored request has. -/
def CoordinatorCommand.FreshId (command : CoordinatorCommand) (env : Env)
    (stored : RequestId → Option RequestRecord) : Prop :=
  command.createArgs ≠ none → ∀ id, env.newRequestId = .ok id → stored id = none

/-- One command on a repository and on the store of records. -/
theorem Simulates.dispatch (hsim : Simulates R T) (hx : T x s) (hs : s.Settled)
    (hdistinct : s.DistinctCreated) {command : CoordinatorCommand}
    (hfresh : command.FreshId env s.getRequest) :
    Agrees T (R.dispatch c env command) (c.dispatch env command) x s := by
  have hwallets : command.OnWallets →
    Agrees T (R.onWallets (c.dispatch env command)) (c.dispatch env command) x s :=
    fun h => agrees_onWallets hsim hx (coupled_dispatch h) (keepsRequests_dispatch h)
  have hcreate : ∀ args, command.createArgs ≠ none →
      Agrees T (R.createRequest c env args) (c.createRequest env args) x s :=
    fun args h => agrees_createRequest hsim hx args (hfresh h)
  cases command with
  | createAccount command =>
    refine Agrees.map _ (Agrees.lift_bind hx fun _ _ => ?_)
    exact hcreate _ (by simp [CoordinatorCommand.createArgs])
  | createExportAccount command =>
    refine Agrees.map _ (Agrees.lift_bind hx fun _ _ => ?_)
    exact hcreate _ (by simp [CoordinatorCommand.createArgs])
  | createImportAccount command =>
    refine Agrees.map _ (Agrees.lift_bind hx fun _ _ => ?_)
    split_ifs
    · exact .throw hx _
    · exact hcreate _ (by simp [CoordinatorCommand.createArgs])
  | createSignTransaction command =>
    refine Agrees.map _ (Agrees.lift_bind hx fun _ _ => ?_)
    exact hcreate _ (by simp [CoordinatorCommand.createArgs])
  | createSignMessage command =>
    refine Agrees.map _ (Agrees.lift_bind hx fun _ _ => ?_)
    exact hcreate _ (by simp [CoordinatorCommand.createArgs])
  | getRequestStatus id => exact Agrees.map _ (agrees_getRequestStatus hsim hx id)
  | requestHasAvailable w => exact agrees_requestHasAvailable hsim hx w
  | cancelRequest id => exact Agrees.map _ (agrees_cancelRequest hsim hx id)
  | heartbeatExtension command => exact Agrees.map _ (agrees_heartbeatBackend hsim hx _)
  | heartbeatBackend command => exact Agrees.map _ (agrees_heartbeatBackend hsim hx command)
  | pullNextRequest w => exact Agrees.map _ (agrees_pullNextRequest hsim hx hdistinct w)
  | markRequestPresented command =>
    refine Agrees.map _ (agrees_rewriteOwned hsim hx fun r r' hid hw h => ?_)
    exact (edit_of_presentedRecord (s := s) hid hw h).identity_eq
  | resolveRequest command =>
    refine Agrees.map _ (agrees_rewriteOwned hsim hx fun r r' hid hw h => ?_)
    exact (edit_of_resolvedRecord (s := s) hid hw h).identity_eq
  | rejectRequest command =>
    refine Agrees.map _ (agrees_rewriteOwned hsim hx fun r r' hid hw h => ?_)
    exact (edit_of_rejectedRecord (c := c) (s := s) hid hw h).identity_eq
  | tickMaintenance => exact Agrees.map _ (agrees_tickMaintenance hsim hx hs)
  | _ => exact hwallets trivial

end Methods

end StarcoinMcp.Starmask
