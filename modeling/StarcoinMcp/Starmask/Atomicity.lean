import StarcoinMcp.Starmask.Runs

/-! Commands that fail. Most commands check first and write last, so their errors leave
the four tables alone. Registrations, account updates and heartbeats write the instance
row first and can still fail after it: exactly these, and exactly then, leave something
behind. -/

namespace StarcoinMcp.Starmask

open Coordinator FailState

/-! ## Replacing the accounts of a wallet -/

theorem discoveredAccountLabel_ok (label : Option String) (n : Int) :
    ∃ text, Store.discoveredAccountLabel label n = .ok text := by
  unfold Store.discoveredAccountLabel
  split
  · next value hvalue =>
    obtain ⟨hsome, hkept⟩ := Option.filter_eq_some_iff.mp hvalue
    obtain ⟨s, -, rfl⟩ := Option.map_eq_some_iff.mp hsome
    have hblank : (Text.trim (Text.trim s)).isEmpty = false :=
      Text.isBlank_trim (by simpa using hkept)
    unfold Store.normalizeAccountLabel
    rw [hblank]
    exact ⟨_, rfl⟩
  · exact ⟨_, rfl⟩

/-- Labelling cannot fail, and writes label rows only. -/
theorem labelAccounts_ok {w : WalletInstanceId} {known : List String} {updatedAt : Int} :
    ∀ (accounts : List WalletAccountRecord) (n : Int) (s : Store), ∃ s',
      Store.labelAccounts w known updatedAt accounts n s = .ok s' ∧
      s'.walletInstances = s.walletInstances ∧ s'.walletAccounts = s.walletAccounts
  | [], n, s => ⟨s, rfl, rfl, rfl⟩
  | a :: accounts, n, s => by
    unfold Store.labelAccounts
    split_ifs with hknown
    · exact labelAccounts_ok accounts n s
    · obtain ⟨text, htext⟩ := discoveredAccountLabel_ok a.label n
      rw [htext]
      obtain ⟨s', hs', hinstances, haccounts⟩ := labelAccounts_ok accounts (n + 1)
        (s.upsertWalletAccountLabel ⟨w, a.address, text, n, updatedAt⟩)
      exact ⟨s', hs', hinstances, haccounts⟩

theorem insertWalletAccounts_ok_iff : ∀ {accounts : List WalletAccountRecord} {s : Store},
    (∃ s', Store.insertWalletAccounts accounts s = .ok s') ↔
      (∀ a ∈ accounts, s.getWalletInstance a.walletInstanceId ≠ none) ∧
      (accounts.map WalletAccountRecord.key).Nodup ∧
      ∀ a ∈ accounts, s.walletAccounts.find a.key = none
  | [], s => by simp [Store.insertWalletAccounts]
  | a :: accounts, s => by
    unfold Store.insertWalletAccounts
    cases hwallet : s.getWalletInstance a.walletInstanceId with
    | none => simp [hwallet]
    | some wallet =>
      cases hinsert : s.walletAccounts.insert a with
      | none =>
        have htaken : s.walletAccounts.find a.key ≠ none := fun h => by
          have := Table.insert_isSome.mpr h
          rw [hinsert] at this
          cases this
        simp [htaken]
      | some walletAccounts =>
        have hfree := (Table.insert_eq_some hinsert).1
        have hfind : ∀ k, walletAccounts.find k = none ↔
            k ≠ a.key ∧ s.walletAccounts.find k = none := by
          intro k
          rw [Table.find_insert hinsert]
          by_cases hk : k = a.key
          · simp [hk]
          · simp [hk]
        dsimp only
        rw [insertWalletAccounts_ok_iff]
        have hget : ∀ w, ({ s with walletAccounts := walletAccounts } : Store).getWalletInstance w =
            s.getWalletInstance w := fun _ => rfl
        simp only [hget, hfind, List.mem_cons, forall_eq_or_imp, List.map_cons, List.nodup_cons,
          List.mem_map, not_exists, not_and, hwallet, hfree]
        constructor
        · rintro ⟨hreg, hnodup, hrows⟩
          exact ⟨⟨by simp, hreg⟩, ⟨fun b hb => (hrows b hb).1, hnodup⟩, trivial,
            fun b hb => (hrows b hb).2⟩
        · rintro ⟨⟨-, hreg⟩, ⟨hne, hnodup⟩, -, hrows⟩
          exact ⟨hreg, hnodup, fun b hb => ⟨hne b hb, hrows b hb⟩⟩

/-- The rows of an account list can all be inserted once those of `w` are gone. -/
structure Insertable (s : Store) (w : WalletInstanceId) (accounts : List WalletAccountRecord) :
    Prop where
  registered : ∀ a ∈ accounts, a.walletInstanceId = w ∨
    s.getWalletInstance a.walletInstanceId ≠ none
  distinct : (accounts.map WalletAccountRecord.key).Nodup
  unclaimed : ∀ a ∈ accounts, a.walletInstanceId ≠ w → s.walletAccounts.find a.key = none

theorem replaceWalletAccounts_of_local {s labelled : Store} {w : WalletInstanceId}
    {accounts : List WalletAccountRecord} {t : Int} (hlocal : s.isLocalAccountWallet w = .ok true)
    (hensure : s.ensureLocalAccountLabels w accounts t = .ok labelled) :
    s.replaceWalletAccounts w accounts t = Store.insertWalletAccounts accounts { labelled with
      walletAccounts := labelled.walletAccounts.filter fun a => a.walletInstanceId ≠ w } := by
  unfold Store.replaceWalletAccounts
  rw [hlocal]
  show (s.ensureLocalAccountLabels w accounts t >>= _) = _
  rw [hensure]
  rfl

theorem replaceWalletAccounts_of_not_local {s : Store} {w : WalletInstanceId}
    {accounts : List WalletAccountRecord} {t : Int} (hlocal : s.isLocalAccountWallet w = .ok false) :
    s.replaceWalletAccounts w accounts t = Store.insertWalletAccounts accounts { s with
      walletAccounts := s.walletAccounts.filter fun a => a.walletInstanceId ≠ w } := by
  unfold Store.replaceWalletAccounts
  rw [hlocal]
  rfl

theorem replaceWalletAccounts_ok_iff {s : Store} {w : WalletInstanceId}
    {accounts : List WalletAccountRecord} {t : Int} (hw : s.getWalletInstance w ≠ none) :
    (∃ s', s.replaceWalletAccounts w accounts t = .ok s') ↔ Insertable s w accounts := by
  obtain ⟨wallet, hwallet⟩ := Option.ne_none_iff_exists'.mp hw
  -- whatever labels are written, the accounts go into the same two tables
  have hrest : ∃ labelled : Store, labelled.walletInstances = s.walletInstances ∧
      labelled.walletAccounts = s.walletAccounts ∧
      s.replaceWalletAccounts w accounts t = Store.insertWalletAccounts accounts { labelled with
        walletAccounts := labelled.walletAccounts.filter fun a => a.walletInstanceId ≠ w } := by
    by_cases hlocal : wallet.backendKind = .localAccountDir
    · have hlabels : ∃ labelled, s.ensureLocalAccountLabels w accounts t = .ok labelled ∧
          labelled.walletInstances = s.walletInstances ∧
          labelled.walletAccounts = s.walletAccounts := labelAccounts_ok accounts _ s
      obtain ⟨labelled, hensure, hinstances, haccounts⟩ := hlabels
      refine ⟨labelled, hinstances, haccounts, replaceWalletAccounts_of_local ?_ hensure⟩
      simp [Store.isLocalAccountWallet, hwallet, hlocal]
    · refine ⟨s, rfl, rfl, replaceWalletAccounts_of_not_local ?_⟩
      simp [Store.isLocalAccountWallet, hwallet, hlocal]
  obtain ⟨labelled, hinstances, haccounts, hrest⟩ := hrest
  rw [hrest, insertWalletAccounts_ok_iff]
  have hget : ∀ w', ({ labelled with walletAccounts := labelled.walletAccounts.filter fun a =>
      a.walletInstanceId ≠ w } : Store).getWalletInstance w' = s.getWalletInstance w' := by
    intro w'
    unfold Store.getWalletInstance
    rw [hinstances]
  have hfind : ∀ a : WalletAccountRecord, (labelled.walletAccounts.filter fun b =>
      b.walletInstanceId ≠ w).find a.key = none ↔
      (a.walletInstanceId ≠ w → s.walletAccounts.find a.key = none) := by
    intro a
    rw [haccounts, Table.find_filter_eq_none, Table.find_eq_none]
    constructor
    · intro h hne b hb hkey
      refine h b hb ?_ hkey
      have : b.walletInstanceId = a.walletInstanceId := congrArg Prod.fst hkey
      simpa [this] using hne
    · intro h b hb hne hkey
      have : b.walletInstanceId = a.walletInstanceId := congrArg Prod.fst hkey
      exact h (by simpa [this] using hne) b hb hkey
  simp only [hget, hfind]
  constructor
  · rintro ⟨hreg, hnodup, hrows⟩
    exact ⟨fun a ha => .inr (hreg a ha), hnodup, hrows⟩
  · rintro ⟨hreg, hnodup, hrows⟩
    refine ⟨fun a ha => ?_, hnodup, hrows⟩
    rcases hreg a ha with rfl | h
    · exact hw
    · exact h

/-! ## Writing an instance and then its accounts -/

/-- What the registrations and the account updates end with. -/
def writeInstance (env : Env) (row : WalletInstanceRecord) (accounts : List WalletAccountRecord) :
    CoreM Unit := do
  upsertWalletInstance row
  replaceWalletAccounts env row.walletInstanceId (stampAccounts (env.now 0) accounts)

theorem upsertWalletInstance_eq_iff {s : Store} {row : WalletInstanceRecord} :
    s.upsertWalletInstance row = s ↔ s.getWalletInstance row.walletInstanceId = some row := by
  constructor
  · intro h
    have hfind := Table.find_upsert s.walletInstances row row.walletInstanceId
    rw [if_pos rfl] at hfind
    rw [← h]
    exact hfind
  · intro h
    unfold Store.upsertWalletInstance
    rw [Table.upsert_of_find h]

theorem insertable_stampAccounts {s : Store} {w : WalletInstanceId} {now : TimestampMs}
    {accounts : List WalletAccountRecord} :
    Insertable s w (stampAccounts now accounts) ↔ Insertable s w accounts := by
  have hkeys : (stampAccounts now accounts).map WalletAccountRecord.key =
      accounts.map WalletAccountRecord.key := by
    unfold stampAccounts
    rw [List.map_map]
    rfl
  constructor
  · rintro ⟨hreg, hnodup, hrows⟩
    refine ⟨fun a ha => ?_, hkeys ▸ hnodup, fun a ha => ?_⟩
    · exact hreg { a with lastSeenAt := now } (List.mem_map_of_mem ha)
    · exact hrows { a with lastSeenAt := now } (List.mem_map_of_mem ha)
  · rintro ⟨hreg, hnodup, hrows⟩
    refine ⟨fun a ha => ?_, hkeys.symm ▸ hnodup, fun a ha => ?_⟩
    · obtain ⟨b, hb, rfl⟩ := List.mem_map.mp ha
      exact hreg b hb
    · obtain ⟨b, hb, rfl⟩ := List.mem_map.mp ha
      exact hrows b hb

/-- An instance row is written before the accounts are found to be unacceptable. -/
def WritesThenFails (s : Store) (row : WalletInstanceRecord) (accounts : List WalletAccountRecord) :
    Prop :=
  s.getWalletInstance row.walletInstanceId ≠ some row ∧ ¬ Insertable s row.walletInstanceId accounts

theorem insertable_upsertWalletInstance {s : Store} {row : WalletInstanceRecord}
    {accounts : List WalletAccountRecord} :
    Insertable (s.upsertWalletInstance row) row.walletInstanceId accounts ↔
      Insertable s row.walletInstanceId accounts := by
  have hget : ∀ w, w ≠ row.walletInstanceId →
      (s.upsertWalletInstance row).getWalletInstance w = s.getWalletInstance w := by
    intro w hne
    exact (Table.find_upsert s.walletInstances row w).trans (if_neg hne)
  constructor
  · rintro ⟨hreg, hnodup, hrows⟩
    refine ⟨fun a ha => ?_, hnodup, hrows⟩
    by_cases hw : a.walletInstanceId = row.walletInstanceId
    · exact .inl hw
    · exact .inr (hget _ hw ▸ (hreg a ha).resolve_left hw)
  · rintro ⟨hreg, hnodup, hrows⟩
    refine ⟨fun a ha => ?_, hnodup, hrows⟩
    by_cases hw : a.walletInstanceId = row.walletInstanceId
    · exact .inl hw
    · exact .inr ((hget _ hw).symm ▸ (hreg a ha).resolve_left hw)

theorem atomic_writeInstance_iff {env : Env} {s : Store} {row : WalletInstanceRecord}
    {accounts : List WalletAccountRecord} :
    Atomic (writeInstance env row accounts) s ↔ ¬ WritesThenFails s row accounts := by
  have hregistered : (s.upsertWalletInstance row).getWalletInstance row.walletInstanceId ≠ none := by
    have hfind : (s.upsertWalletInstance row).getWalletInstance row.walletInstanceId = some row :=
      (Table.find_upsert s.walletInstances row row.walletInstanceId).trans (if_pos rfl)
    rw [hfind]
    simp
  have hinsertable : (∃ s', (s.upsertWalletInstance row).replaceWalletAccounts row.walletInstanceId
      (stampAccounts (env.now 0) accounts) env.currentTimestampMs = .ok s') ↔
      Insertable s row.walletInstanceId accounts :=
    (replaceWalletAccounts_ok_iff hregistered).trans
      (insertable_stampAccounts.trans insertable_upsertWalletInstance)
  have hrun : writeInstance env row accounts s = replaceWalletAccounts env row.walletInstanceId
      (stampAccounts (env.now 0) accounts) (s.upsertWalletInstance row) := rfl
  cases hreplace : (s.upsertWalletInstance row).replaceWalletAccounts row.walletInstanceId
      (stampAccounts (env.now 0) accounts) env.currentTimestampMs with
  | ok s' =>
    have hok : Insertable s row.walletInstanceId accounts := hinsertable.mp ⟨s', hreplace⟩
    have hdone : writeInstance env row accounts s = (.ok (), s') := by
      rw [hrun]
      refine storeCall_ok ?_
      rw [hreplace]
      rfl
    exact ⟨fun _ h => h.2 hok, fun _ => .of_ok hdone⟩
  | error e =>
    have hnot : ¬ Insertable s row.walletInstanceId accounts := fun h => by
      obtain ⟨s', hs'⟩ := hinsertable.mpr h
      rw [hreplace] at hs'
      cases hs'
    have hfailed : writeInstance env row accounts s =
        (.error (.repository e), s.upsertWalletInstance row) := by
      rw [hrun]
      refine storeCall_error ?_
      rw [hreplace]
      rfl
    unfold Atomic WritesThenFails
    rw [hfailed, Ne, ← upsertWalletInstance_eq_iff]
    simp [hnot]

/-! ## Where a command stops -/

theorem atomic_reading_bind {α β : Type} {f : Store → CoreResult α} {k : α → CoreM β} {s : Store}
    (hk : ∀ a, f s = .ok a → Atomic (k a) s) : Atomic (reading f >>= k) s := by
  cases hf : f s with
  | error e => exact .of_error (reading_error_bind hf)
  | ok a => exact (atomic_congr (reading_ok_bind hf)).mpr (hk a hf)

/-- The row `register_backend` writes. -/
def registeredRow (env : Env) (command : RegisterBackendCommand) : WalletInstanceRecord where
  walletInstanceId := command.walletInstanceId
  backendKind := command.backendKind
  transportKind := command.transportKind
  approvalSurface := command.approvalSurface
  instanceLabel := command.instanceLabel
  extensionId := command.extensionId
  extensionVersion := command.extensionVersion
  protocolVersion := command.protocolVersion
  capabilities := canonicalCapabilities command.capabilities
  backendMetadata := command.backendMetadata
  profileHint := command.profileHint
  lockState := command.lockState
  connected := true
  lastSeenAt := env.now 0

/-- The row `update_backend_accounts` writes over `wallet`. -/
def updatedRow (env : Env) (command : UpdateBackendAccountsCommand) (wallet : WalletInstanceRecord) :
    WalletInstanceRecord :=
  { wallet with
    connected := true
    lockState := command.lockState
    capabilities := canonicalCapabilities command.capabilities
    lastSeenAt := env.now 0 }

/-- The row `heartbeat_backend` writes over `wallet`. -/
def seenRow (env : Env) (command : HeartbeatBackendCommand) (wallet : WalletInstanceRecord) :
    WalletInstanceRecord :=
  { wallet with
    connected := true
    lastSeenAt := env.now 0
    lockState := command.lockState.getD wallet.lockState }

def RegistrationStopsHalfway (env : Env) (s : Store) (command : RegisterBackendCommand) : Prop :=
  (∀ wallet, s.getWalletInstance command.walletInstanceId = some wallet →
    wallet.backendKind = command.backendKind) ∧
  WritesThenFails s (registeredRow env command) command.accounts

def UpdateStopsHalfway (env : Env) (s : Store) (command : UpdateBackendAccountsCommand) : Prop :=
  ∃ wallet, s.getWalletInstance command.walletInstanceId = some wallet ∧
    WritesThenFails s (updatedRow env command wallet) command.accounts

/-- The row is written before the new presentation deadline is found to overflow. -/
def HeartbeatStopsHalfway (c : Coordinator) (env : Env) (s : Store)
    (command : HeartbeatBackendCommand) : Prop :=
  ∃ wallet, s.getWalletInstance command.walletInstanceId = some wallet ∧
    seenRow env command wallet ≠ wallet ∧ command.presentedRequestIds ≠ [] ∧
    checkedAddSeconds (env.now 0) c.config.presentationLeaseTtl = none

theorem registerBackend_of_kind {env : Env} {s : Store} {command : RegisterBackendCommand}
    (h : ∀ wallet, s.getWalletInstance command.walletInstanceId = some wallet →
      wallet.backendKind = command.backendKind) :
    registerBackend env command s = writeInstance env (registeredRow env command) command.accounts s := by
  refine reading_ok_bind (a := ()) ?_
  cases hwallet : s.getWalletInstance command.walletInstanceId with
  | none => rfl
  | some wallet => simp [h wallet hwallet]

theorem registerBackend_of_other_kind {env : Env} {s : Store} {command : RegisterBackendCommand}
    {wallet : WalletInstanceRecord} (h : s.getWalletInstance command.walletInstanceId = some wallet)
    (hkind : wallet.backendKind ≠ command.backendKind) :
    registerBackend env command s = (.error (sharedError .invalidBackendRegistration
      "wallet_instance_id is already registered for a different backend kind"), s) := by
  refine reading_error_bind ?_
  simp [h, hkind]

theorem atomic_registerBackend_iff {env : Env} {s : Store} {command : RegisterBackendCommand} :
    Atomic (registerBackend env command) s ↔ ¬ RegistrationStopsHalfway env s command := by
  by_cases hkind : ∀ wallet, s.getWalletInstance command.walletInstanceId = some wallet →
      wallet.backendKind = command.backendKind
  · rw [atomic_congr (registerBackend_of_kind hkind), atomic_writeInstance_iff]
    exact not_congr ⟨fun h => ⟨hkind, h⟩, fun h => h.2⟩
  · obtain ⟨wallet, hwallet, hne⟩ : ∃ wallet,
        s.getWalletInstance command.walletInstanceId = some wallet ∧
          wallet.backendKind ≠ command.backendKind := by
      simpa using hkind
    have hrefused : Atomic (registerBackend env command) s :=
      .of_error (registerBackend_of_other_kind hwallet hne)
    exact ⟨fun _ h => hkind h.1, fun _ => hrefused⟩

theorem requireWalletInstance_eq_ok {w : WalletInstanceId} {s : Store} {wallet : WalletInstanceRecord}
    (h : s.getWalletInstance w = some wallet) : requireWalletInstance w s = .ok wallet := by
  unfold requireWalletInstance
  rw [h]

/-- A method that begins with `require_wallet_instance`, for a wallet that is not there. -/
theorem atomic_of_unregistered {α : Type} {w : WalletInstanceId} {k : WalletInstanceRecord → CoreM α}
    {s : Store} (h : s.getWalletInstance w = none) : Atomic
    (reading (requireWalletInstance w) >>= k) s := by
  refine atomic_reading_bind fun wallet hok => ?_
  exact absurd h (requireWalletInstance_ok hok)

theorem updateBackendAccounts_of_registered {env : Env} {s : Store}
    {command : UpdateBackendAccountsCommand} {wallet : WalletInstanceRecord}
    (h : s.getWalletInstance command.walletInstanceId = some wallet) :
    updateBackendAccounts env command s =
      writeInstance env (updatedRow env command wallet) command.accounts s := by
  have hid : wallet.walletInstanceId = command.walletInstanceId := Table.key_of_find h
  refine (reading_ok_bind (requireWalletInstance_eq_ok h)).trans ?_
  rw [← hid]
  rfl

theorem atomic_updateBackendAccounts_iff {env : Env} {s : Store}
    {command : UpdateBackendAccountsCommand} :
    Atomic (updateBackendAccounts env command) s ↔ ¬ UpdateStopsHalfway env s command := by
  unfold UpdateStopsHalfway
  cases hwallet : s.getWalletInstance command.walletInstanceId with
  | none =>
    have hatomic : Atomic (updateBackendAccounts env command) s := atomic_of_unregistered hwallet
    simp [hatomic]
  | some wallet =>
    rw [atomic_congr (updateBackendAccounts_of_registered hwallet), atomic_writeInstance_iff]
    simp

/-- A heartbeat once the row is written: from here on the only error is the overflow. -/
theorem heartbeatBackend_of_registered (c : Coordinator) (env : Env) {s : Store}
    {command : HeartbeatBackendCommand} {wallet : WalletInstanceRecord}
    (h : s.getWalletInstance command.walletInstanceId = some wallet) :
    c.heartbeatBackend env command s = (do
      if command.presentedRequestIds.isEmpty then pure ()
      else do
        let presentationExpiresAt ← FailState.lift (addLease (env.now 0)
          c.config.presentationLeaseTtl "presentation lease timestamp overflow")
        command.presentedRequestIds.forM
          (heartbeatRequest command.walletInstanceId (env.now 0) presentationExpiresAt) : CoreM Unit)
      (s.upsertWalletInstance (seenRow env command wallet)) :=
  reading_ok_bind (requireWalletInstance_eq_ok h)

theorem atomic_heartbeatBackend_iff {c : Coordinator} {env : Env} {s : Store}
    {command : HeartbeatBackendCommand} :
    Atomic (c.heartbeatBackend env command) s ↔ ¬ HeartbeatStopsHalfway c env s command := by
  unfold HeartbeatStopsHalfway
  cases hwallet : s.getWalletInstance command.walletInstanceId with
  | none =>
    have hatomic : Atomic (c.heartbeatBackend env command) s := atomic_of_unregistered hwallet
    simp [hatomic]
  | some wallet =>
    have hid : wallet.walletInstanceId = command.walletInstanceId := Table.key_of_find hwallet
    have hsame : s.upsertWalletInstance (seenRow env command wallet) = s ↔
        seenRow env command wallet = wallet := by
      have hkey : s.getWalletInstance (seenRow env command wallet).walletInstanceId = some wallet := by
        rw [← hwallet, ← hid]
        rfl
      rw [upsertWalletInstance_eq_iff, hkey]
      simp [eq_comm]
    have hrest := heartbeatBackend_of_registered c env hwallet
    by_cases hempty : command.presentedRequestIds = []
    · rw [hempty] at hrest
      simp [hempty, Atomic.of_ok hrest]
    have hisEmpty : ¬ command.presentedRequestIds.isEmpty = true := by simpa using hempty
    rw [if_neg hisEmpty] at hrest
    cases hadd : checkedAddSeconds (env.now 0) c.config.presentationLeaseTtl with
    | some t =>
      unfold addLease at hrest
      rw [hadd] at hrest
      obtain ⟨s', hloop, -⟩ := heartbeat_loop command.walletInstanceId (env.now 0) t
        command.presentedRequestIds (s.upsertWalletInstance (seenRow env command wallet))
      simp [Atomic.of_ok (hrest.trans hloop)]
    | none =>
      unfold addLease at hrest
      rw [hadd, lift_error_bind] at hrest
      unfold Atomic
      rw [hrest]
      simp [hempty, hsame]

/-! ## Every command -/

/-- The registration `register_extension` hands to `register_backend`. -/
def extensionRegistration (command : RegisterExtensionCommand) : RegisterBackendCommand where
  walletInstanceId := command.walletInstanceId
  backendKind := .starmaskExtension
  transportKind := .nativeMessaging
  approvalSurface := .browserUi
  instanceLabel := command.profileHint.getD command.walletInstanceId.value
  extensionId := command.extensionId
  extensionVersion := command.extensionVersion
  protocolVersion := command.protocolVersion
  capabilities := extensionCapabilities
  backendMetadata := extensionMetadata command
  profileHint := command.profileHint
  lockState := command.lockState
  accounts := command.accounts

theorem registerExtension_eq (env : Env) (command : RegisterExtensionCommand) :
    registerExtension env command = registerBackend env (extensionRegistration command) := rfl

/-- The command writes an instance row and is refused only afterwards. -/
def StopsHalfway (c : Coordinator) (env : Env) (s : Store) : CoordinatorCommand → Prop
  | .registerExtension command => RegistrationStopsHalfway env s (extensionRegistration command)
  | .registerBackend command => RegistrationStopsHalfway env s command
  | .updateExtensionAccounts command => UpdateStopsHalfway env s
      ⟨command.walletInstanceId, command.lockState, extensionCapabilities, command.accounts⟩
  | .updateBackendAccounts command => UpdateStopsHalfway env s command
  | .heartbeatExtension command =>
    HeartbeatStopsHalfway c env s ⟨command.walletInstanceId, command.presentedRequestIds, none⟩
  | .heartbeatBackend command => HeartbeatStopsHalfway c env s command
  | _ => False

theorem atomic_createRequest (c : Coordinator) (env : Env) (s : Store) (args : CreateRequestArgs) :
    Atomic (c.createRequest env args) s := by
  rcases createRequest_cases c env s args with ⟨r, -, hrun⟩ | ⟨-, e, hrun⟩ | ⟨-, r, s', -, -, -, -, hrun⟩
  · refine atomic_of_unchanged ?_
    rw [hrun]
  · exact .of_error hrun
  · exact .of_ok hrun

theorem atomic_rewriteOwned {α : Type} {id : RequestId} {w : WalletInstanceId}
    {f : RequestRecord → CoreResult RequestRecord} {g : RequestRecord → α} {s : Store} :
    Atomic (rewriteOwned id w f g) s := by
  unfold rewriteOwned
  refine atomic_reading_bind fun request _ => Atomic.lift_bind fun request' _ => ?_
  exact Atomic.call.bind_pure

theorem atomic_cancelRequest (env : Env) (s : Store) (id : RequestId) :
    Atomic (cancelRequest env id) s := by
  refine Atomic.read_bind ?_
  cases hr : s.getRequest id with
  | none => exact .of_error rfl
  | some r =>
    dsimp only
    split_ifs
    · exact .of_ok rfl
    · exact Atomic.lift_bind fun _ _ => Atomic.call.bind_pure

theorem atomic_walletSetAccountLabel (env : Env) (s : Store) (command : SetAccountLabelCommand) :
    Atomic (walletSetAccountLabel env command) s := by
  refine atomic_reading_bind fun wallet _ => ?_
  split_ifs
  · exact .of_error rfl
  · exact .of_error rfl
  · refine Atomic.read_bind ?_
    split_ifs
    · exact .of_error rfl
    · exact Atomic.call.bind_pure

theorem atomic_pullNextRequest (c : Coordinator) (env : Env) (s : Store) (w : WalletInstanceId) :
    Atomic (c.pullNextRequest env w) s := by
  rcases pullNextRequest_cases c env s w with ⟨e, hrun⟩ | ⟨-, -, hrun⟩ | ⟨r, p, t, -, -, -, -, hrun⟩ |
    ⟨r, lease, -, -, -, -, -, hrun⟩
  · exact .of_error hrun
  · exact .of_ok hrun
  · exact .of_ok hrun
  · exact .of_ok hrun

/-- A command that is refused leaves the four tables as they were, unless it is a registration,
an account update or a heartbeat that stops halfway. -/
theorem dispatch_error_keeps_tables_iff (c : Coordinator) (env : Env) (s : Store)
    (command : CoordinatorCommand) :
    (∀ e, (c.dispatch env command s).1 = .error e → (c.dispatch env command s).2 = s) ↔
      ¬ StopsHalfway c env s command := by
  show Atomic (c.dispatch env command) s ↔ _
  have hplain : ∀ {command}, Atomic (c.dispatch env command) s → StopsHalfway c env s command = False →
      (Atomic (c.dispatch env command) s ↔ ¬ StopsHalfway c env s command) := by
    intro command hatomic hfalse
    simp [hatomic, hfalse]
  cases command with
  | registerExtension command =>
    exact atomic_map_iff.trans (registerExtension_eq env command ▸ atomic_registerBackend_iff)
  | registerBackend command => exact atomic_map_iff.trans atomic_registerBackend_iff
  | updateExtensionAccounts command => exact atomic_map_iff.trans atomic_updateBackendAccounts_iff
  | updateBackendAccounts command => exact atomic_map_iff.trans atomic_updateBackendAccounts_iff
  | heartbeatExtension command => exact atomic_map_iff.trans atomic_heartbeatBackend_iff
  | heartbeatBackend command => exact atomic_map_iff.trans atomic_heartbeatBackend_iff
  | walletSetAccountLabel command =>
    exact hplain (atomic_map_iff.mpr (atomic_walletSetAccountLabel env s command)) rfl
  | createAccount command =>
    exact hplain (atomic_map_iff.mpr (Atomic.lift_bind fun _ _ => atomic_createRequest c env s _)) rfl
  | createExportAccount command =>
    exact hplain (atomic_map_iff.mpr (Atomic.lift_bind fun _ _ => atomic_createRequest c env s _)) rfl
  | createImportAccount command =>
    refine hplain (atomic_map_iff.mpr (Atomic.lift_bind fun _ _ => ?_)) rfl
    split_ifs
    · exact .of_error rfl
    · exact atomic_createRequest c env s _
  | createSignTransaction command =>
    exact hplain (atomic_map_iff.mpr (Atomic.lift_bind fun _ _ => atomic_createRequest c env s _)) rfl
  | createSignMessage command =>
    exact hplain (atomic_map_iff.mpr (Atomic.lift_bind fun _ _ => atomic_createRequest c env s _)) rfl
  | cancelRequest id => exact hplain (atomic_map_iff.mpr (atomic_cancelRequest env s id)) rfl
  | pullNextRequest w => exact hplain (atomic_map_iff.mpr (atomic_pullNextRequest c env s w)) rfl
  | markRequestPresented command => exact hplain (atomic_map_iff.mpr atomic_rewriteOwned) rfl
  | resolveRequest command => exact hplain (atomic_map_iff.mpr atomic_rewriteOwned) rfl
  | rejectRequest command => exact hplain (atomic_map_iff.mpr atomic_rewriteOwned) rfl
  | tickMaintenance =>
    obtain ⟨result, s', hrun, -⟩ := tickMaintenance_spec c env s
    exact hplain (atomic_map_iff.mpr (.of_ok hrun)) rfl
  | systemPing | systemGetInfo | walletStatus | walletListInstances | requestHasAvailable =>
    exact hplain (.of_ok rfl) rfl
  | walletListAccounts | walletGetPublicKey | getRequestStatus =>
    exact hplain (atomic_map_iff.mpr (atomic_of_unchanged rfl)) rfl

namespace Session

def account : WalletAccountRecord := ⟨wallet, "0x1", none, none, true, false, false, 0⟩

/-- One address is reported twice, by a wallet that is locked now and lost its capabilities. -/
def updateTwice (t : TimestampMs) : Step where
  env := env t lease₁
  command := .updateBackendAccounts ⟨wallet, .locked, [], [account, account]⟩

/-- The capabilities and the lock state the store knows the wallet by. -/
def snapshot (s : Store) : Option (List WalletCapability × LockState) :=
  (s.getWalletInstance wallet).map fun w => (w.capabilities, w.lockState)

end Session

open Session in
/-- The account snapshot is refused, the lock state and the capabilities that came with it stay. -/
theorem refused_update_is_half_done :
    ¬ ∀ (c : Coordinator) (steps : List Step) (x : Step) (e : CoreError),
      c.reply (c.run steps) x = .error e → c.step (c.run steps) x = c.run steps := by
  intro h
  have hrefused : coordinator.reply (coordinator.run [register 0]) (updateTwice 1000) =
      .error (.repository (.storage
        "UNIQUE constraint failed: wallet_accounts.wallet_instance_id, wallet_accounts.address")) := by
    decide +kernel
  have hsame := congrArg snapshot (h coordinator [register 0] (updateTwice 1000) _ hrefused)
  exact absurd hsame (by decide +kernel)

end StarcoinMcp.Starmask
