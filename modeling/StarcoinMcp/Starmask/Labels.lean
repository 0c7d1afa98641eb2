import Mathlib.Data.Prod.Lex
import Mathlib.Data.String.Basic
import StarcoinMcp.Starmask.Protection

/-! The labels of the accounts of a local wallet. A label row is written when an address is met
for the first time, with the next free order, and outlives the account; so the order of the rows
is the order in which the addresses were discovered, whatever snapshots come later. -/

namespace StarcoinMcp.Starmask

open Coordinator FailState

/-! ## The labels of one snapshot -/

section Labelling

variable {s s' : Store} {w : WalletInstanceId} {known : List String} {t : Int}

theorem mem_known_iff {a : String} :
    a ∈ (s.labelsOf w).map WalletAccountLabel.address ↔
      ∃ l, s.walletAccountLabels.find (w, a) = some l := by
  constructor
  · intro h
    obtain ⟨l, hl, rfl⟩ := List.mem_map.mp h
    exact ⟨l, (mem_labelsOf.mp hl).2⟩
  · rintro ⟨l, hl⟩
    have hkey : l.key = (w, a) := Table.key_of_find hl
    have haddress : l.address = a := congrArg Prod.snd hkey
    refine List.mem_map.mpr ⟨l, mem_labelsOf.mpr ⟨congrArg Prod.fst hkey, ?_⟩, haddress⟩
    rw [haddress]
    exact hl

theorem find_upsertLabel {l : WalletAccountLabel} {k : WalletInstanceId × String} :
    (s.upsertWalletAccountLabel l).walletAccountLabels.find k =
      if k = l.key then some l else s.walletAccountLabels.find k :=
  Table.find_upsert s.walletAccountLabels l k

/-- The loop leaves every row alone that is known, or of another wallet. -/
theorem labelAccounts_keeps {w' : WalletInstanceId} {a : String} (hkeep : w' ≠ w ∨ a ∈ known) :
    ∀ {accounts : List WalletAccountRecord} {n : Int} {s s' : Store},
      Store.labelAccounts w known t accounts n s = .ok s' →
      s'.walletAccountLabels.find (w', a) = s.walletAccountLabels.find (w', a)
  | [], n, s, s', h => by
    cases h
    rfl
  | b :: accounts, n, s, s', h => by
    unfold Store.labelAccounts at h
    split_ifs at h with hknown
    · exact labelAccounts_keeps hkeep h
    · obtain ⟨text, -, hrest⟩ := bind_eq_ok h
      rw [labelAccounts_keeps hkeep hrest, find_upsertLabel, if_neg]
      intro he
      rcases hkeep with hne | hmem
      · exact hne (congrArg Prod.fst he)
      · have haddress : a = b.address := congrArg Prod.snd he
        exact hknown (haddress ▸ hmem)

/-- An address that is not in the list gets no row. -/
theorem labelAccounts_absent {a : String} :
    ∀ {accounts : List WalletAccountRecord} {n : Int} {s s' : Store},
      a ∉ accounts.map WalletAccountRecord.address →
      Store.labelAccounts w known t accounts n s = .ok s' →
      s'.walletAccountLabels.find (w, a) = s.walletAccountLabels.find (w, a)
  | [], n, s, s', _, h => by
    cases h
    rfl
  | b :: accounts, n, s, s', habsent, h => by
    rw [List.map_cons, List.mem_cons, not_or] at habsent
    unfold Store.labelAccounts at h
    split_ifs at h with hknown
    · exact labelAccounts_absent habsent.2 h
    · obtain ⟨text, -, hrest⟩ := bind_eq_ok h
      rw [labelAccounts_absent habsent.2 hrest, find_upsertLabel, if_neg]
      intro he
      exact habsent.1 (congrArg Prod.snd he)

/-- The addresses of a snapshot that have no row yet, in the order given. -/
def newAddresses (known : List String) (accounts : List WalletAccountRecord) : List String :=
  (accounts.map WalletAccountRecord.address).filter fun a => a ∉ known

theorem mem_newAddresses {a : String} {accounts : List WalletAccountRecord} :
    a ∈ newAddresses known accounts ↔ a ∈ accounts.map WalletAccountRecord.address ∧ a ∉ known := by
  unfold newAddresses
  rw [List.mem_filter, decide_eq_true_eq]

/-- The orders that the loop gives out, by induction on the accounts: the row of an address is
written once, since the addresses do not repeat. -/
theorem labelAccounts_new {a : String} :
    ∀ {accounts : List WalletAccountRecord} {n : Int} {s s' : Store},
      (accounts.map WalletAccountRecord.address).Nodup → a ∈ newAddresses known accounts →
      Store.labelAccounts w known t accounts n s = .ok s' →
      s'.existingAccountOrder w a = some (n + ((newAddresses known accounts).idxOf a : ℕ))
  | [], n, s, s', _, hmem, _ => nomatch hmem
  | b :: accounts, n, s, s', hnodup, hmem, h => by
    rw [List.map_cons, List.nodup_cons] at hnodup
    unfold Store.labelAccounts at h
    split_ifs at h with hknown
    · have hnew : newAddresses known (b :: accounts) = newAddresses known accounts := by
        simp [newAddresses, hknown]
      rw [hnew] at hmem ⊢
      exact labelAccounts_new hnodup.2 hmem h
    · have hnew : newAddresses known (b :: accounts) =
        b.address :: newAddresses known accounts := by
        simp [newAddresses, hknown]
      rw [hnew] at hmem ⊢
      obtain ⟨text, -, hrest⟩ := bind_eq_ok h
      by_cases ha : a = b.address
      · subst ha
        have hkey : (w, b.address) = WalletAccountLabel.key ⟨w, b.address, text, n, t⟩ := rfl
        unfold Store.existingAccountOrder
        rw [labelAccounts_absent hnodup.1 hrest, find_upsertLabel, if_pos hkey,
          List.idxOf_cons_self]
        simp
      · rw [labelAccounts_new hnodup.2 (List.mem_of_ne_of_mem ha hmem) hrest,
          List.idxOf_cons_ne _ (Ne.symm ha)]
        push_cast
        refine congrArg some ?_
        omega

/-! ## The next free order -/

theorem existingAccountOrder_eq_some {a : String} {n : Int} :
    s.existingAccountOrder w a = some n ↔
      ∃ l, s.walletAccountLabels.find (w, a) = some l ∧ l.accountOrder = n := Option.map_eq_some_iff

theorem mem_orders_iff {n : Int} :
    n ∈ (s.labelsOf w).map WalletAccountLabel.accountOrder ↔
      ∃ a, s.existingAccountOrder w a = some n := by
  simp only [existingAccountOrder_eq_some]
  constructor
  · intro h
    obtain ⟨l, hl, rfl⟩ := List.mem_map.mp h
    exact ⟨l.address, l, (mem_labelsOf.mp hl).2, rfl⟩
  · rintro ⟨a, l, hl, rfl⟩
    have hkey : l.key = (w, a) := Table.key_of_find hl
    have haddress : l.address = a := congrArg Prod.snd hkey
    refine List.mem_map_of_mem (mem_labelsOf.mpr ⟨congrArg Prod.fst hkey, ?_⟩)
    rw [haddress]
    exact hl

theorem lt_nextAccountOrder {a : String} {n : Int} (h : s.existingAccountOrder w a = some n) :
    n < s.nextAccountOrder w := by
  have hmem := mem_orders_iff.mpr ⟨a, h⟩
  unfold Store.nextAccountOrder
  cases hmax : ((s.labelsOf w).map WalletAccountLabel.accountOrder).max? with
  | none =>
    rw [List.max?_eq_none_iff.mp hmax] at hmem
    cases hmem
  | some m =>
    have hle : n ≤ m := (List.max?_eq_some_iff.mp hmax).2 n hmem
    rw [Option.getD_some]
    omega

theorem nextAccountOrder_pos (h : ∀ a n, s.existingAccountOrder w a = some n → 0 < n) :
    0 < s.nextAccountOrder w := by
  unfold Store.nextAccountOrder
  cases hmax : ((s.labelsOf w).map WalletAccountLabel.accountOrder).max? with
  | none => simp
  | some m =>
    obtain ⟨a, ha⟩ := mem_orders_iff.mp (List.max?_mem hmax)
    have hpos : 0 < m := h a m ha
    rw [Option.getD_some]
    omega

end Labelling

/-! ## What a command can do to accounts and labels -/

/-- The wallet and the accounts of a registration or an update of accounts. -/
def CoordinatorCommand.snapshot :
    CoordinatorCommand → Option (WalletInstanceId × List WalletAccountRecord)
  | .registerExtension command => some (command.walletInstanceId, command.accounts)
  | .registerBackend command => some (command.walletInstanceId, command.accounts)
  | .updateExtensionAccounts command => some (command.walletInstanceId, command.accounts)
  | .updateBackendAccounts command => some (command.walletInstanceId, command.accounts)
  | _ => none

/-- The accounts that come with a command are stamped with its wallet. -/
def CoordinatorCommand.Stamped (command : CoordinatorCommand) : Prop :=
  ∀ w accounts, command.snapshot = some (w, accounts) → ∀ a ∈ accounts, a.walletInstanceId = w

/-- The daemon stamps the accounts of every command it builds. -/
theorem stamped_of_sent {policy : ServerPolicy} {call : DaemonCall} {command : CoordinatorCommand}
    (h : Sent policy call command) : command.Stamped := by
  intro w accounts hsnapshot a ha
  rcases sent_inNameOf h with hkeeps | ⟨w', hname⟩
  · cases command <;> first | exact hkeeps.elim | cases hsnapshot
  · cases hname <;> cases hsnapshot
    all_goals
      rename_i hw hown
      rw [hw]
      exact hown a ha

def Store.SameLabels (s s' : Store) : Prop :=
  s'.walletAccounts = s.walletAccounts ∧ s'.walletAccountLabels = s.walletAccountLabels

section Steps

variable {c : Coordinator} {env : Env} {s : Store}

/-- A written instance row with its accounts: the accounts are stored, or only the row is. -/
theorem writeInstance_cases (env : Env) (s : Store) (row : WalletInstanceRecord)
    (accounts : List WalletAccountRecord) :
    (∃ e, writeInstance env row accounts s = (.error e, s.upsertWalletInstance row)) ∨
    ∃ s', (s.upsertWalletInstance row).replaceWalletAccounts row.walletInstanceId
        (stampAccounts (env.now 0) accounts) env.currentTimestampMs = .ok s' ∧
      writeInstance env row accounts s = (.ok (), s') := by
  have hrun : writeInstance env row accounts s = replaceWalletAccounts env row.walletInstanceId
      (stampAccounts (env.now 0) accounts) (s.upsertWalletInstance row) := rfl
  rw [hrun]
  cases hreplace : (s.upsertWalletInstance row).replaceWalletAccounts row.walletInstanceId
      (stampAccounts (env.now 0) accounts) env.currentTimestampMs with
  | error e =>
    refine .inl ⟨.repository e, storeCall_error ?_⟩
    rw [hreplace]
    rfl
  | ok s' =>
    refine .inr ⟨s', rfl, storeCall_ok ?_⟩
    rw [hreplace]
    rfl

/-- The outcome `(r, s')` of a registration or an update of accounts of `w`. -/
def Snapshots (env : Env) (w : WalletInstanceId) (accounts : List WalletAccountRecord) (s : Store)
    (r : CoreResult Unit) (s' : Store) : Prop :=
  (s.SameLabels s' ∧ ∃ e, r = .error e) ∨
  ∃ row : WalletInstanceRecord, row.walletInstanceId = w ∧ r = .ok () ∧
    (s.upsertWalletInstance row).replaceWalletAccounts w (stampAccounts (env.now 0) accounts)
      env.currentTimestampMs = .ok s'

theorem snapshots_writeInstance (env : Env) (s : Store) (row : WalletInstanceRecord)
    (accounts : List WalletAccountRecord) :
    Snapshots env row.walletInstanceId accounts s (writeInstance env row accounts s).1
      (writeInstance env row accounts s).2 := by
  rcases writeInstance_cases env s row accounts with ⟨e, hrun⟩ | ⟨s', hreplace, hrun⟩
  · rw [hrun]
    exact .inl ⟨⟨rfl, rfl⟩, e, rfl⟩
  · rw [hrun]
    exact .inr ⟨row, rfl, rfl, hreplace⟩

theorem snapshots_registerBackend (env : Env) (s : Store) (command : RegisterBackendCommand) :
    Snapshots env command.walletInstanceId command.accounts s (registerBackend env command s).1
      (registerBackend env command s).2 := by
  by_cases hkind : ∀ wallet, s.getWalletInstance command.walletInstanceId = some wallet →
      wallet.backendKind = command.backendKind
  · rw [registerBackend_of_kind hkind]
    exact snapshots_writeInstance env s (registeredRow env command) command.accounts
  · obtain ⟨wallet, hwallet, hne⟩ : ∃ wallet, s.getWalletInstance command.walletInstanceId =
        some wallet ∧ wallet.backendKind ≠ command.backendKind := by
      simpa using hkind
    rw [registerBackend_of_other_kind hwallet hne]
    exact .inl ⟨⟨rfl, rfl⟩, _, rfl⟩

theorem snapshots_updateBackendAccounts (env : Env) (s : Store)
    (command : UpdateBackendAccountsCommand) :
    Snapshots env command.walletInstanceId command.accounts s
      (updateBackendAccounts env command s).1
      (updateBackendAccounts env command s).2 := by
  cases hwallet : s.getWalletInstance command.walletInstanceId with
  | none =>
    have hrequire : ∃ e, requireWalletInstance command.walletInstanceId s = .error e := by
      unfold requireWalletInstance
      rw [hwallet]
      exact ⟨_, rfl⟩
    obtain ⟨e, he⟩ := hrequire
    have hrun : updateBackendAccounts env command s = (.error e, s) := reading_error_bind he
    rw [hrun]
    exact .inl ⟨⟨rfl, rfl⟩, e, rfl⟩
  | some wallet =>
    have hid : wallet.walletInstanceId = command.walletInstanceId := Table.key_of_find hwallet
    rw [updateBackendAccounts_of_registered hwallet, ← hid]
    exact snapshots_writeInstance env s (updatedRow env command wallet) command.accounts

/-- Setting a label writes the row of an account that is there, or nothing. -/
theorem walletSetAccountLabel_cases (env : Env) (s : Store) (command : SetAccountLabelCommand) :
    (walletSetAccountLabel env command s).2 = s ∨
    ∃ a, s.setWalletAccountLabel command.walletInstanceId command.address (Text.trim command.label)
      env.currentTimestampMs = .ok (a, (walletSetAccountLabel env command s).2) := by
  unfold walletSetAccountLabel
  cases hwallet : s.getWalletInstance command.walletInstanceId with
  | none =>
    refine .inl ?_
    rw [reading_error_bind (by rw [hwallet])]
  | some wallet =>
    rw [reading_ok_bind (by rw [hwallet])]
    split_ifs
    · exact .inl rfl
    · exact .inl rfl
    · rw [FailState.read_bind]
      split_ifs
      · exact .inl rfl
      · cases hset : s.setWalletAccountLabel command.walletInstanceId command.address
            (Text.trim command.label) env.currentTimestampMs with
        | error e =>
          rw [FailState.bind_error (storeCall_error hset)]
          exact .inl rfl
        | ok x =>
          obtain ⟨a, s'⟩ := x
          rw [FailState.bind_ok (storeCall_ok hset)]
          exact .inr ⟨a, rfl⟩

theorem sameLabels_heartbeatBackend (command : HeartbeatBackendCommand) :
    s.SameLabels (c.heartbeatBackend env command s).2 := by
  cases hwallet : s.getWalletInstance command.walletInstanceId with
  | none =>
    have hstate : (c.heartbeatBackend env command s).2 = s := unregistered_state hwallet
    rw [hstate]
    exact ⟨rfl, rfl⟩
  | some wallet =>
    rw [heartbeatBackend_of_registered c env hwallet]
    split_ifs
    · exact ⟨rfl, rfl⟩
    · cases hlease : addLease (env.now 0) c.config.presentationLeaseTtl
          "presentation lease timestamp overflow" with
      | error e => exact ⟨rfl, rfl⟩
      | ok t =>
        obtain ⟨s', hloop, hrw⟩ := heartbeat_loop command.walletInstanceId (env.now 0) t
          command.presentedRequestIds (s.upsertWalletInstance (seenRow env command wallet))
        rw [FailState.lift_ok_bind, hloop]
        exact hrw.wallets.2

/-- The commands that are neither a snapshot nor a label. -/
theorem step_sameLabels {command : CoordinatorCommand} (hsnapshot : command.snapshot = none)
    (hlabel : ∀ l, command ≠ .walletSetAccountLabel l) : s.SameLabels
    (c.step s ⟨env, command⟩) := by
  by_cases hkeeps : command.KeepsWallets
  · have htables : (c.step s ⟨env, command⟩).walletTables = s.walletTables :=
      step_keepsTables hkeeps hlabel
    exact ⟨congrArg (fun x => x.2.1) htables, congrArg (fun x => x.2.2) htables⟩
  · unfold Coordinator.step
    cases command <;> first | exact absurd trivial hkeeps | cases hsnapshot
    · simp only [dispatch, map_apply, heartbeatExtension]
      exact sameLabels_heartbeatBackend _
    · simp only [dispatch, map_apply]
      exact sameLabels_heartbeatBackend _
    · obtain ⟨result, s', hrun, hticked⟩ := tickMaintenance_spec c env s
      simp only [dispatch, map_apply, hrun]
      exact ⟨hticked.accounts, hticked.labels⟩

/-- The commands that bring a snapshot. -/
theorem dispatch_snapshot (c : Coordinator) (env : Env) {command : CoordinatorCommand}
    {w : WalletInstanceId} {accounts : List WalletAccountRecord}
    (h : command.snapshot = some (w, accounts)) :
    ∃ m : CoreM Unit, c.dispatch env command = (fun _ => .ack) <$> m ∧
      ∀ s, Snapshots env w accounts s (m s).1 (m s).2 := by
  cases command with
  | registerExtension command =>
    cases h
    exact ⟨registerExtension env command, rfl, fun s => snapshots_registerBackend env s _⟩
  | registerBackend command =>
    cases h
    exact ⟨registerBackend env command, rfl, fun s => snapshots_registerBackend env s command⟩
  | updateExtensionAccounts command =>
    cases h
    exact ⟨updateExtensionAccounts env command, rfl,
      fun s => snapshots_updateBackendAccounts env s _⟩
  | updateBackendAccounts command =>
    cases h
    exact ⟨updateBackendAccounts env command, rfl,
      fun s => snapshots_updateBackendAccounts env s command⟩
  | _ => cases h

/-- Everything a command can do to the accounts and their labels. -/
theorem step_labels (c : Coordinator) (s : Store) (x : Step) :
    (s.SameLabels (c.step s x) ∧ (x.command.snapshot = none ∨ ∃ e, c.reply s x = .error e)) ∨
    (∃ w accounts row, x.command.snapshot = some (w, accounts) ∧ c.reply s x = .ok .ack ∧
      row.walletInstanceId = w ∧ (s.upsertWalletInstance row).replaceWalletAccounts w
        (stampAccounts (x.env.now 0) accounts) x.env.currentTimestampMs = .ok (c.step s x)) ∨
    ∃ command a, x.command = .walletSetAccountLabel command ∧
      s.setWalletAccountLabel command.walletInstanceId command.address (Text.trim command.label)
        x.env.currentTimestampMs = .ok (a, c.step s x) := by
  obtain ⟨env, command⟩ := x
  by_cases hlabel : ∀ l, command ≠ .walletSetAccountLabel l
  · cases hcommand : command.snapshot with
    | none => exact .inl ⟨step_sameLabels hcommand hlabel, .inl rfl⟩
    | some p =>
      obtain ⟨w, accounts⟩ := p
      obtain ⟨m, hdispatch, hcases⟩ := dispatch_snapshot c env hcommand
      have hstep : c.step s ⟨env, command⟩ = (m s).2 := by
        unfold Coordinator.step
        rw [hdispatch, map_apply]
      have hreply : c.reply s ⟨env, command⟩ = (m s).1.map fun _ => .ack := by
        unfold Coordinator.reply
        rw [hdispatch, map_apply]
      rw [hstep, hreply]
      rcases hcases s with ⟨hsame, e, he⟩ | ⟨row, hrow, hok, hreplace⟩
      · exact .inl ⟨hsame, .inr ⟨e, by rw [he]; rfl⟩⟩
      · exact .inr (.inl ⟨w, accounts, row, rfl, by rw [hok]; rfl, hrow, hreplace⟩)
  · obtain ⟨l, rfl⟩ : ∃ l, command = .walletSetAccountLabel l := by
      simpa using hlabel
    have hstep : c.step s ⟨env, .walletSetAccountLabel l⟩ = (walletSetAccountLabel env l s).2 := by
      unfold Coordinator.step
      simp only [dispatch, map_apply]
    rw [hstep]
    rcases walletSetAccountLabel_cases env s l with hsame | ⟨a, ha⟩
    · rw [hsame]
      exact .inl ⟨⟨rfl, rfl⟩, .inl rfl⟩
    · exact .inr (.inr ⟨l, a, rfl, ha⟩)

end Steps

/-! ## The kind of a wallet -/

section Kind

variable {c : Coordinator} {env : Env} {s s' : Store} {w : WalletInstanceId}

/-- No backend of another kind is registered under `w`. -/
def Store.Manages (s : Store) (w : WalletInstanceId) : Prop :=
  ∀ row, s.getWalletInstance w = some row → row.backendKind = .localAccountDir

/-- The row of a wallet stays, and keeps its backend kind. -/
def KeepsKind (w : WalletInstanceId) (s s' : Store) : Prop :=
  ∀ row, s.getWalletInstance w = some row →
    ∃ row', s'.getWalletInstance w = some row' ∧ row'.backendKind = row.backendKind

theorem keepsKind_of_eq (h : s'.getWalletInstance w = s.getWalletInstance w) :
    KeepsKind w s s' := by
  intro row hrow
  exact ⟨row, h.trans hrow, rfl⟩

theorem KeepsKind.manages (h : KeepsKind w s s') (hs' : s'.Manages w) : s.Manages w := by
  intro row hrow
  obtain ⟨row', hrow', hkind⟩ := h row hrow
  rw [← hkind]
  exact hs' row' hrow'

theorem keepsKind_registerBackend (command : RegisterBackendCommand)
    (hown : ∀ a ∈ command.accounts, a.walletInstanceId = command.walletInstanceId) :
    KeepsKind w s (registerBackend env command s).2 := by
  by_cases hw : command.walletInstanceId = w
  · subst hw
    intro row hrow
    rcases registerBackend_instance env s command with ⟨-, hsame⟩ | hwritten
    · exact ⟨row, by rw [hsame]; exact hrow, rfl⟩
    · refine ⟨_, hwritten, ?_⟩
      by_contra hne
      -- a registration for another kind is refused before the row is written
      rw [registerBackend_of_other_kind hrow (Ne.symm hne)] at hwritten
      rw [Option.some.inj (hrow.symm.trans hwritten)] at hne
      exact hne rfl
  · have hframe : Alike False (· = w) s (registerBackend env command s).2 :=
      moves_registerBackend hw hown s
    exact keepsKind_of_eq (hframe.1.instances w rfl).symm

theorem keepsKind_updateBackendAccounts (command : UpdateBackendAccountsCommand)
    (hown : ∀ a ∈ command.accounts, a.walletInstanceId = command.walletInstanceId) :
    KeepsKind w s (updateBackendAccounts env command s).2 := by
  by_cases hw : command.walletInstanceId = w
  · subst hw
    intro row hrow
    rcases updateBackendAccounts_instance env s command with ⟨-, hsame⟩ | ⟨wallet,
      hwallet, hwritten⟩
    · exact ⟨row, by rw [hsame]; exact hrow, rfl⟩
    · obtain rfl := Option.some.inj (hwallet.symm.trans hrow)
      exact ⟨_, hwritten, rfl⟩
  · have hframe : Alike False (· = w) s (updateBackendAccounts env command s).2 :=
      alike_updateBackendAccounts hw hown
    exact keepsKind_of_eq (hframe.1.instances w rfl).symm

theorem keepsKind_heartbeatBackend (command : HeartbeatBackendCommand) :
    KeepsKind w s (c.heartbeatBackend env command s).2 := by
  by_cases hw : command.walletInstanceId = w
  · subst hw
    intro row hrow
    rcases heartbeatBackend_instance c env s command with ⟨-, hsame⟩ | ⟨wallet, hwallet, hwritten⟩
    · exact ⟨row, by rw [hsame]; exact hrow, rfl⟩
    · obtain rfl := Option.some.inj (hwallet.symm.trans hrow)
      exact ⟨_, hwritten, rfl⟩
  · have hframe : Alike False (· = w) s (c.heartbeatBackend env command s).2 :=
      alike_heartbeatBackend hw
    exact keepsKind_of_eq (hframe.1.instances w rfl).symm

theorem step_keepsKind {command : CoordinatorCommand} (hstamped : command.Stamped) :
    KeepsKind w s (c.step s ⟨env, command⟩) := by
  by_cases hkeeps : command.KeepsWallets
  · have hwallets : (c.step s ⟨env, command⟩).wallets = s.wallets := step_keepsWallets hkeeps
    have hinstances : (c.step s ⟨env, command⟩).walletInstances = s.walletInstances :=
      congrArg Prod.fst hwallets
    refine keepsKind_of_eq ?_
    unfold Store.getWalletInstance
    rw [hinstances]
  cases command with
  | registerExtension command =>
    simp only [Coordinator.step, dispatch, map_apply]
    exact keepsKind_registerBackend _ (hstamped _ _ rfl)
  | registerBackend command =>
    simp only [Coordinator.step, dispatch, map_apply]
    exact keepsKind_registerBackend _ (hstamped _ _ rfl)
  | updateExtensionAccounts command =>
    simp only [Coordinator.step, dispatch, map_apply]
    exact keepsKind_updateBackendAccounts _ (hstamped _ _ rfl)
  | updateBackendAccounts command =>
    simp only [Coordinator.step, dispatch, map_apply]
    exact keepsKind_updateBackendAccounts _ (hstamped _ _ rfl)
  | heartbeatExtension command =>
    simp only [Coordinator.step, dispatch, map_apply]
    exact keepsKind_heartbeatBackend _
  | heartbeatBackend command =>
    simp only [Coordinator.step, dispatch, map_apply]
    exact keepsKind_heartbeatBackend _
  | tickMaintenance =>
    intro row hrow
    rcases (tickMaintenance_wallets c env s w).2 with hsame | ⟨row', hrow', hwritten⟩
    · exact ⟨row, hsame.trans hrow, rfl⟩
    · obtain rfl := Option.some.inj (hrow'.symm.trans hrow)
      exact ⟨_, hwritten, rfl⟩
  | _ => exact absurd trivial hkeeps

end Kind

/-! ## Rows in the order of discovery -/

section Labelled

variable {s s' : Store} {w : WalletInstanceId} {found : List String}

/-- The label rows of `w` are those of the addresses `found`, in the order of their first
occurrence there, and its accounts are among them. -/
structure Store.Labelled (s : Store) (w : WalletInstanceId) (found : List String) : Prop where
  positive : ∀ a n, s.existingAccountOrder w a = some n → 0 < n
  discovered : ∀ a, a ∈ found ↔ ∃ n, s.existingAccountOrder w a = some n
  ordered : ∀ a b n m, s.existingAccountOrder w a = some n → s.existingAccountOrder w b = some m →
    found.idxOf a < found.idxOf b → n < m
  exposed : ∀ account ∈ s.walletAccounts.rows, account.walletInstanceId = w →
    account.address ∈ found

/-- Orders are given once. -/
theorem Store.Labelled.injective (h : s.Labelled w found) {a b : String} {n : Int}
    (ha : s.existingAccountOrder w a = some n)
    (hb : s.existingAccountOrder w b = some n) : a = b := by
  by_contra hne
  have hmem : a ∈ found := (h.discovered a).mpr ⟨n, ha⟩
  rcases Nat.lt_trichotomy (found.idxOf a) (found.idxOf b) with hlt | heq | hlt
  · exact absurd (h.ordered a b n n ha hb hlt) (lt_irrefl n)
  · exact hne ((List.idxOf_inj hmem).mp heq)
  · exact absurd (h.ordered b a n n hb ha hlt) (lt_irrefl n)

/-- Another wallet's rows do not matter. -/
theorem Store.Labelled.congr (h : s.Labelled w found)
    (horders : ∀ a, s'.existingAccountOrder w a = s.existingAccountOrder w a)
    (haccounts : ∀ account ∈ s'.walletAccounts.rows, account.walletInstanceId = w →
      account ∈ s.walletAccounts.rows) : s'.Labelled w found := by
  constructor
  · simpa only [horders] using h.positive
  · simpa only [horders] using h.discovered
  · simpa only [horders] using h.ordered
  · intro account hmem hw
    exact h.exposed account (haccounts account hmem hw) hw

theorem labelled_empty : Store.empty.Labelled w [] := by
  constructor
  · intro a n h
    cases h
  · intro a
    constructor
    · intro h
      cases h
    · rintro ⟨n, h⟩
      cases h
  · intro a b n m h
    cases h
  · intro account h
    cases h

/-- In a part of a list the first occurrences keep their order. -/
theorem idxOf_filter_lt {p : String → Bool} {a b : String} (ha : p a = true) :
    ∀ {l : List String}, b ∈ l → l.idxOf a < l.idxOf b → (l.filter p).idxOf a < (l.filter p).idxOf b
  | [], hb, _ => nomatch hb
  | x :: l, hb, hlt => by
    by_cases hxb : x = b
    · rw [hxb, List.idxOf_cons_self] at hlt
      exact absurd hlt (Nat.not_lt_zero _)
    have hbl : b ∈ l := List.mem_of_ne_of_mem (Ne.symm hxb) hb
    by_cases hxa : x = a
    · subst hxa
      rw [List.filter_cons_of_pos ha, List.idxOf_cons_self, List.idxOf_cons_ne _ hxb]
      exact Nat.succ_pos _
    rw [List.idxOf_cons_ne _ hxa, List.idxOf_cons_ne _ hxb] at hlt
    have ih := idxOf_filter_lt ha hbl (Nat.lt_of_succ_lt_succ hlt)
    by_cases hx : p x = true
    · rw [List.filter_cons_of_pos hx, List.idxOf_cons_ne _ hxa, List.idxOf_cons_ne _ hxb]
      exact Nat.succ_lt_succ ih
    · rw [List.filter_cons_of_neg hx]
      exact ih

theorem insertWalletAccounts_rows :
    ∀ {accounts : List WalletAccountRecord} {s s' : Store},
      Store.insertWalletAccounts accounts s = .ok s' →
      s'.walletAccountLabels = s.walletAccountLabels ∧
        s'.walletAccounts.rows = s.walletAccounts.rows ++ accounts
  | [], s, s', h => by
    cases h
    exact ⟨rfl, (List.append_nil _).symm⟩
  | a :: accounts, s, s', h => by
    unfold Store.insertWalletAccounts at h
    split at h
    · cases h
    · cases h
    · rename_i hinsert
      obtain ⟨hlabels, hrows⟩ := insertWalletAccounts_rows h
      refine ⟨hlabels, ?_⟩
      rw [hrows, (Table.insert_eq_some hinsert).2, List.append_assoc]
      rfl

/-- A snapshot that was stored: its accounts replace those of the wallet, and if the wallet is a
local one the loop over the labels came first. -/
theorem replaceWalletAccounts_stored {accounts : List WalletAccountRecord} {t : Int}
    (h : s.replaceWalletAccounts w accounts t = .ok s') :
    s'.walletAccounts.rows =
        (s.walletAccounts.rows.filter fun a => decide (a.walletInstanceId ≠ w)) ++ accounts ∧
    ((s.isLocalAccountWallet w = .ok false ∧ s'.walletAccountLabels = s.walletAccountLabels) ∨
      (s.isLocalAccountWallet w = .ok true ∧ ∃ labelled, Store.labelAccounts w
        ((s.labelsOf w).map WalletAccountLabel.address) t accounts (s.nextAccountOrder w) s =
          .ok labelled ∧ s'.walletAccountLabels = labelled.walletAccountLabels)) := by
  obtain ⟨isLocal, hlocal, h₁⟩ := bind_eq_ok h
  cases isLocal with
  | false =>
    obtain ⟨hlabels, hrows⟩ := insertWalletAccounts_rows h₁
    exact ⟨hrows, .inl ⟨hlocal, hlabels⟩⟩
  | true =>
    obtain ⟨labelled, hlabel, h₂⟩ := bind_eq_ok h₁
    obtain ⟨hlabels, hrows⟩ := insertWalletAccounts_rows h₂
    have hensure : Store.labelAccounts w ((s.labelsOf w).map WalletAccountLabel.address) t accounts
        (s.nextAccountOrder w) s = .ok labelled := hlabel
    obtain ⟨labelled', hlabel', -, haccounts⟩ := labelAccounts_ok (w := w) accounts _ s
    have hsame : labelled = labelled' := Except.ok.inj (hensure.symm.trans hlabel')
    refine ⟨?_, .inr ⟨hlocal, labelled, hensure, hlabels⟩⟩
    rw [hrows]
    show (labelled.walletAccounts.filter _).rows ++ accounts = _
    rw [hsame, haccounts]
    rfl

/-- A stored snapshot writes no row that is there, and none of another wallet. -/
theorem replaceWalletAccounts_keeps {accounts : List WalletAccountRecord} {t : Int}
    (h : s.replaceWalletAccounts w accounts t = .ok s') {w' : WalletInstanceId} {a : String}
    (hkeep : w' ≠ w ∨ ∃ l, s.walletAccountLabels.find (w, a) = some l) :
    s'.walletAccountLabels.find (w', a) = s.walletAccountLabels.find (w', a) := by
  rcases (replaceWalletAccounts_stored h).2 with ⟨-, hlabels⟩ | ⟨-, labelled, hloop, hlabels⟩
  · rw [hlabels]
  · rw [hlabels]
    exact labelAccounts_keeps (hkeep.imp_right mem_known_iff.mpr) hloop

/-- New addresses are given orders above all those in use, in the order of the batch. -/
theorem Store.Labelled.extend {batch : List String} {next : Int} (position : String → ℕ)
    (hs : s.Labelled w found) (hpos : 0 < next)
    (hnext : ∀ a n, s.existingAccountOrder w a = some n → n < next)
    (hold : ∀ a ∈ found, s'.existingAccountOrder w a = s.existingAccountOrder w a)
    (hnew : ∀ a ∉ found, a ∈ batch → s'.existingAccountOrder w a = some (next + position a))
    (habsent : ∀ a ∉ found, a ∉ batch → s'.existingAccountOrder w a = none)
    (hposition : ∀ a b, a ∉ found → b ∈ batch → batch.idxOf a < batch.idxOf b →
      position a < position b)
    (hexposed : ∀ account ∈ s'.walletAccounts.rows, account.walletInstanceId = w →
      account.address ∈ found ++ batch) : s'.Labelled w (found ++ batch) := by
  have hfound : ∀ {a n}, s'.existingAccountOrder w a = some n → a ∉ found →
      a ∈ batch ∧ n = next + position a := by
    intro a n ha hnot
    by_cases hbatch : a ∈ batch
    · rw [hnew a hnot hbatch] at ha
      exact ⟨hbatch, (Option.some.inj ha).symm⟩
    · rw [habsent a hnot hbatch] at ha
      cases ha
  refine ⟨fun a n ha => ?_, fun a => ⟨fun ha => ?_, ?_⟩, fun a b n m ha hb hlt => ?_, hexposed⟩
  · by_cases hmem : a ∈ found
    · rw [hold a hmem] at ha
      exact hs.positive a n ha
    · rw [(hfound ha hmem).2]
      omega
  · by_cases hmem : a ∈ found
    · rw [hold a hmem]
      exact (hs.discovered a).mp hmem
    · exact ⟨_, hnew a hmem ((List.mem_append.mp ha).resolve_left hmem)⟩
  · rintro ⟨n, ha⟩
    by_cases hmem : a ∈ found
    · exact List.mem_append_left _ hmem
    · exact List.mem_append_right _ (hfound ha hmem).1
  · by_cases hmemb : b ∈ found
    · -- then `a` occurs before it, so it was there too
      rw [List.idxOf_append_of_mem hmemb] at hlt
      have hmema : a ∈ found := by
        by_contra hnot
        rw [List.idxOf_append_of_notMem hnot] at hlt
        have := List.idxOf_lt_length_of_mem hmemb
        omega
      rw [List.idxOf_append_of_mem hmema] at hlt
      rw [hold a hmema] at ha
      rw [hold b hmemb] at hb
      exact hs.ordered a b n m ha hb hlt
    · obtain ⟨hbatch, rfl⟩ := hfound hb hmemb
      by_cases hmema : a ∈ found
      · rw [hold a hmema] at ha
        have := hnext a n ha
        omega
      · obtain ⟨-, rfl⟩ := hfound ha hmema
        rw [List.idxOf_append_of_notMem hmema, List.idxOf_append_of_notMem hmemb] at hlt
        have := hposition a b hmema hbatch (by omega)
        omega

/-- The next snapshot of `w`: its new addresses are discovered in the order given. -/
theorem Store.Labelled.snapshot {accounts : List WalletAccountRecord} {t : Int}
    (hs : s.Labelled w found) (hown : ∀ a ∈ accounts, a.walletInstanceId = w)
    (hlocal : s.isLocalAccountWallet w = .ok true)
    (h : s.replaceWalletAccounts w accounts t = .ok s') :
    s'.Labelled w (found ++ accounts.map WalletAccountRecord.address) := by
  obtain ⟨hrows, hcases⟩ := replaceWalletAccounts_stored h
  rcases hcases with ⟨hother, -⟩ | ⟨-, labelled, hloop, hlabels⟩
  · rw [hlocal] at hother
    cases hother
  have hknown : ∀ a, a ∈ (s.labelsOf w).map WalletAccountLabel.address ↔ a ∈ found := by
    intro a
    rw [mem_known_iff, hs.discovered]
    unfold Store.existingAccountOrder
    cases s.walletAccountLabels.find (w, a) <;> simp
  have hnodup : (accounts.map WalletAccountRecord.address).Nodup := by
    have hkeys : (accounts.map WalletAccountRecord.key).Nodup := by
      have hall := s'.walletAccounts.nodup
      rw [hrows, List.map_append] at hall
      exact (List.nodup_append.mp hall).2.1
    have hpairs : accounts.map WalletAccountRecord.key =
        (accounts.map WalletAccountRecord.address).map fun a => (w, a) := by
      rw [List.map_map]
      refine List.map_congr_left fun a ha => ?_
      exact Prod.ext (hown a ha) rfl
    rw [hpairs] at hkeys
    exact hkeys.of_map
  have horder : ∀ a, s'.existingAccountOrder w a = labelled.existingAccountOrder w a := by
    intro a
    unfold Store.existingAccountOrder
    rw [hlabels]
  have hkept : ∀ a ∈ found, s'.existingAccountOrder w a = s.existingAccountOrder w a := by
    intro a ha
    rw [horder]
    unfold Store.existingAccountOrder
    rw [labelAccounts_keeps (.inr ((hknown a).mpr ha)) hloop]
  let position : String → ℕ := fun a =>
    (newAddresses ((s.labelsOf w).map WalletAccountLabel.address) accounts).idxOf a
  refine hs.extend position (nextAccountOrder_pos hs.positive)
    (fun a n ha => lt_nextAccountOrder ha) hkept
    (fun a hnot hbatch => ?_) (fun a hnot hbatch => ?_) (fun a b hnot hbatch hlt => ?_) ?_
  · rw [horder]
    refine labelAccounts_new hnodup (mem_newAddresses.mpr ⟨hbatch, ?_⟩) hloop
    rw [hknown]
    exact hnot
  · have hnone : s.existingAccountOrder w a = none := by
      cases hn : s.existingAccountOrder w a with
      | none => rfl
      | some n => exact absurd ((hs.discovered a).mpr ⟨n, hn⟩) hnot
    rw [horder, ← hnone]
    unfold Store.existingAccountOrder
    rw [labelAccounts_absent hbatch hloop]
  · refine idxOf_filter_lt ?_ hbatch hlt
    rw [decide_eq_true_eq, hknown]
    exact hnot
  · intro account hmem hw
    rw [hrows] at hmem
    rcases List.mem_append.mp hmem with hmem | hmem
    · have hne := (List.mem_filter.mp hmem).2
      rw [decide_eq_true_eq] at hne
      exact absurd hw hne
    · exact List.mem_append_right _ (List.mem_map_of_mem hmem)

/-- What a label that was set writes: the row of the address, with its order if it had one. -/
theorem setWalletAccountLabel_ok {address label : String} {t : Int} {account : WalletAccountRecord}
    (h : s.setWalletAccountLabel w address label t = .ok (account, s')) :
    s.isLocalAccountWallet w = .ok true ∧ (∃ a, s.walletAccounts.find (w, address) = some a) ∧
    ∃ normalized, s' = s.upsertWalletAccountLabel ⟨w, address, normalized,
      (s.existingAccountOrder w address).getD (s.nextAccountOrder w), t⟩ := by
  obtain ⟨isLocal, hlocal, h₁⟩ := bind_eq_ok h
  cases isLocal with
  | false => cases h₁
  | true =>
    simp only [Bool.not_true, Bool.false_eq_true, if_false] at h₁
    split at h₁
    · cases h₁
    · rename_i found hfound
      obtain ⟨normalized, -, h₂⟩ := bind_eq_ok h₁
      obtain ⟨a, ha, -⟩ := Option.map_eq_some_iff.mp hfound
      cases h₂
      exact ⟨hlocal, ⟨a, ha⟩, normalized, rfl⟩

/-- Setting a label writes one row. -/
theorem setWalletAccountLabel_find {address label : String} {t : Int}
    {account : WalletAccountRecord}
    (h : s.setWalletAccountLabel w address label t = .ok (account, s')) :
    (∀ k, k ≠ (w, address) → s'.walletAccountLabels.find k = s.walletAccountLabels.find k) ∧
    ∃ l, s'.walletAccountLabels.find (w, address) = some l ∧
      l.accountOrder = (s.existingAccountOrder w address).getD (s.nextAccountOrder w) := by
  obtain ⟨-, -, normalized, rfl⟩ := setWalletAccountLabel_ok h
  refine ⟨fun k hk => ?_, _, find_upsertLabel.trans (if_pos rfl), rfl⟩
  rw [find_upsertLabel, if_neg]
  exact hk

end Labelled

/-! ## Runs -/

namespace Coordinator

/-- The addresses of a snapshot of `w` that was stored. -/
def stored (c : Coordinator) (w : WalletInstanceId) (s : Store) (x : Step) : List String :=
  match x.command.snapshot, c.reply s x with
  | some (w', accounts), .ok _ => if w' = w then accounts.map WalletAccountRecord.address else []
  | _, _ => []

/-- The addresses of all the snapshots of `w` that were stored, one snapshot after the other. -/
def discovered (c : Coordinator) (w : WalletInstanceId) : Store → List Step → List String
  | _, [] => []
  | s, x :: xs => c.stored w s x ++ c.discovered w (c.step s x) xs

theorem discovered_snoc {c : Coordinator} {w : WalletInstanceId} {x : Step} :
    ∀ {s : Store} {xs : List Step}, c.discovered w s (xs ++ [x]) =
      c.discovered w s xs ++ c.stored w (Trace.run c.step s xs) x
  | s, [] => by
    simp [discovered]
  | s, y :: xs => by
    rw [List.cons_append, discovered, discovered, discovered_snoc, List.append_assoc]
    rfl

end Coordinator

section Runs

variable {c : Coordinator} {w : WalletInstanceId} {s : Store} {found : List String}

theorem stored_of_snapshot {x : Step} {w' : WalletInstanceId} {accounts : List WalletAccountRecord}
    {r : CoordinatorResponse} (hsnapshot : x.command.snapshot = some (w', accounts))
    (hreply : c.reply s x = .ok r) :
    c.stored w s x = if w' = w then accounts.map WalletAccountRecord.address else [] := by
  unfold Coordinator.stored
  rw [hsnapshot, hreply]

theorem stored_eq_nil {x : Step}
    (h : x.command.snapshot = none ∨ ∃ e, c.reply s x = .error e) : c.stored w s x = [] := by
  unfold Coordinator.stored
  rcases h with h | ⟨e, he⟩
  · rw [h]
  · rw [he]
    split
    · rename_i hok
      cases hok
    · rfl

theorem map_address_stampAccounts {now : TimestampMs} {accounts : List WalletAccountRecord} :
    (stampAccounts now accounts).map WalletAccountRecord.address =
      accounts.map WalletAccountRecord.address := by
  unfold stampAccounts
  rw [List.map_map]
  rfl

/-- One command, for a wallet that is local or not registered. -/
theorem Store.Labelled.step {x : Step} (hstamped : x.command.Stamped) (hs : s.Labelled w found)
    (hmanages : (c.step s x).Manages w) : (c.step s x).Labelled w (found ++ c.stored w s x) := by
  rcases step_labels c s x with ⟨⟨haccounts, hlabels⟩, hnone⟩ |
    ⟨w', accounts, row, hsnapshot, hreply, hrow, hreplace⟩ | ⟨command, a, hcommand, hset⟩
  · rw [stored_eq_nil hnone, List.append_nil]
    refine hs.congr (fun a => ?_) fun account hmem _ => ?_
    · unfold Store.existingAccountOrder
      rw [hlabels]
    · rw [haccounts] at hmem
      exact hmem
  · have hown : ∀ a ∈ stampAccounts (x.env.now 0) accounts, a.walletInstanceId = w' :=
      stampAccounts_own (hstamped w' accounts hsnapshot)
    have hbefore : (s.upsertWalletInstance row).Labelled w found :=
      hs.congr (fun _ => rfl) fun account hmem _ => hmem
    rw [stored_of_snapshot hsnapshot hreply]
    by_cases hw : w' = w
    · subst hw
      have hregistered : (c.step s x).getWalletInstance w' = some row := by
        unfold Store.getWalletInstance
        rw [replaceWalletAccounts_instances hreplace, ← hrow]
        exact getWalletInstance_upsert s row
      have hlocal : (s.upsertWalletInstance row).isLocalAccountWallet w' = .ok true := by
        unfold Store.isLocalAccountWallet
        rw [← hrow, getWalletInstance_upsert]
        simp [hmanages row hregistered]
      have hmap : accounts.map WalletAccountRecord.address =
          (stampAccounts (x.env.now 0) accounts).map WalletAccountRecord.address :=
        map_address_stampAccounts.symm
      rw [if_pos rfl, hmap]
      exact hbefore.snapshot hown hlocal hreplace
    · rw [if_neg hw, List.append_nil]
      refine hbefore.congr (fun a => ?_) fun account hmem hmine => ?_
      · unfold Store.existingAccountOrder
        rw [replaceWalletAccounts_keeps hreplace (.inl (Ne.symm hw))]
      · rw [(replaceWalletAccounts_stored hreplace).1] at hmem
        rcases List.mem_append.mp hmem with hmem | hmem
        · exact (List.mem_filter.mp hmem).1
        · exact absurd ((hown account hmem).symm.trans hmine) hw
  · have hnone : x.command.snapshot = none := by
      rw [hcommand]
      rfl
    rw [stored_eq_nil (.inl hnone), List.append_nil]
    obtain ⟨-, ⟨account, haccount⟩, normalized, hstate⟩ := setWalletAccountLabel_ok hset
    obtain ⟨hothers, l, hl, horder⟩ := setWalletAccountLabel_find hset
    refine hs.congr (fun address => ?_) fun account hmem _ => ?_
    · by_cases hk : (w, address) = (command.walletInstanceId, command.address)
      · -- the account is exposed, so its address has an order already
        obtain ⟨rfl, rfl⟩ := Prod.mk.inj hk
        have hkey : account.key = (command.walletInstanceId, command.address) :=
          Table.key_of_find haccount
        have haddress : account.address = command.address := congrArg Prod.snd hkey
        have hmem : command.address ∈ found :=
          haddress ▸ hs.exposed account (Table.mem_of_find haccount) (congrArg Prod.fst hkey)
        obtain ⟨n, hn⟩ := (hs.discovered _).mp hmem
        rw [hn]
        rw [hn] at horder
        exact existingAccountOrder_eq_some.mpr ⟨l, hl, horder⟩
      · unfold Store.existingAccountOrder
        rw [hothers _ hk]
    · rw [hstate] at hmem
      exact hmem

/-- Every run, by induction from its end. -/
theorem run_labelled (steps : List Step) (hstamped : ∀ x ∈ steps, x.command.Stamped)
    (hmanages : (c.run steps).Manages w) :
    (c.run steps).Labelled w (c.discovered w Store.empty steps) := by
  induction steps using List.reverseRecOn with
  | nil => exact labelled_empty
  | append_singleton steps x ih =>
    rw [Coordinator.run_snoc] at hmanages ⊢
    rw [Coordinator.discovered_snoc]
    have hx : x.command.Stamped := hstamped x (List.mem_append_right _ (List.mem_singleton_self x))
    have hbefore : (c.run steps).Manages w := (step_keepsKind hx).manages hmanages
    have hlabelled := ih (fun y hy => hstamped y (List.mem_append_left _ hy)) hbefore
    exact hlabelled.step hx hmanages

/-- The command sets the label of `a`. -/
def Step.Relabels (x : Step) (w : WalletInstanceId) (a : String) : Prop :=
  ∃ command, x.command = .walletSetAccountLabel command ∧ command.walletInstanceId = w ∧
    command.address = a

theorem step_keepsLabel {x : Step} {a : String} {l : WalletAccountLabel}
    (h : s.walletAccountLabels.find (w, a) = some l) :
    ∃ l', (c.step s x).walletAccountLabels.find (w, a) = some l' ∧
      l'.accountOrder = l.accountOrder ∧
      (¬ x.Relabels w a → l'.label = l.label) := by
  rcases step_labels c s x with ⟨⟨-, hlabels⟩, -⟩ |
    ⟨w', accounts, row, -, -, -, hreplace⟩ | ⟨command, account, hcommand, hset⟩
  · exact ⟨l, hlabels ▸ h, rfl, fun _ => rfl⟩
  · refine ⟨l, ?_, rfl, fun _ => rfl⟩
    rw [← h]
    refine replaceWalletAccounts_keeps hreplace ?_
    by_cases hw : w = w'
    · exact .inr ⟨l, hw ▸ h⟩
    · exact .inl hw
  · obtain ⟨hothers, l', hl', horder⟩ := setWalletAccountLabel_find hset
    by_cases hk : (w, a) = (command.walletInstanceId, command.address)
    · obtain ⟨rfl, rfl⟩ := Prod.mk.inj hk
      refine ⟨l', hl', ?_, fun hnot => absurd ⟨command, hcommand, rfl, rfl⟩ hnot⟩
      rw [horder, existingAccountOrder_eq_some.mpr ⟨l, h, rfl⟩, Option.getD_some]
    · exact ⟨l, (hothers _ hk).trans h, rfl, fun _ => rfl⟩

/-- A label row stays for good. -/
theorem run_keepsLabel {a : String} (more : List Step) {l : WalletAccountLabel}
    (h : s.walletAccountLabels.find (w, a) = some l) :
    ∃ l', (Trace.run c.step s more).walletAccountLabels.find (w, a) = some l' ∧
      l'.accountOrder = l.accountOrder ∧ ((∀ x ∈ more, ¬ x.Relabels w a) → l'.label = l.label) := by
  induction more generalizing s l with
  | nil => exact ⟨l, h, rfl, fun _ => rfl⟩
  | cons x more ih =>
    obtain ⟨l₁, h₁, horder₁, hlabel₁⟩ := step_keepsLabel (c := c) (x := x) h
    obtain ⟨l₂, h₂, horder₂, hlabel₂⟩ := ih h₁
    refine ⟨l₂, h₂, horder₂.trans horder₁, fun hnone => ?_⟩
    rw [hlabel₂ fun y hy => hnone y (List.mem_cons_of_mem x hy)]
    exact hlabel₁ (hnone x (List.mem_cons_self ..))

end Runs

/-! ## The list of accounts -/

section Listing

variable {c : Coordinator} {w : WalletInstanceId} {s : Store} {found : List String}

def Store.accountPosition (s : Store) (a : WalletAccountRecord) : Int :=
  (s.existingAccountOrder a.walletInstanceId a.address).getD i64Max

theorem accountBefore_iff {a b : WalletAccountRecord} :
    s.accountBefore a b = true ↔
      toLex (a.walletInstanceId.value, toLex (s.accountPosition a, a.address)) ≤
        toLex (b.walletInstanceId.value, toLex (s.accountPosition b, b.address)) := by
  have hposition : ∀ x : WalletAccountRecord, ((s.walletAccountLabels.find x.key).map
      WalletAccountLabel.accountOrder).getD i64Max = s.accountPosition x := fun _ => rfl
  unfold Store.accountBefore
  simp only [hposition, Prod.Lex.le_iff, ofLex_toLex, Bool.or_eq_true, Bool.and_eq_true,
    decide_eq_true_eq, beq_iff_eq]

theorem accountBefore_trans : IsTrans WalletAccountRecord fun a b => s.accountBefore a b = true :=
  ⟨fun _ _ _ hab hbc => accountBefore_iff.mpr
    ((accountBefore_iff.mp hab).trans (accountBefore_iff.mp hbc))⟩

theorem accountBefore_total : Std.Total fun a b => s.accountBefore a b = true :=
  ⟨fun _ _ => (le_total _ _).imp accountBefore_iff.mpr accountBefore_iff.mpr⟩

/-- A row among the listed accounts of `w`. -/
def Store.accountsOf (s : Store) (w : WalletInstanceId) : List WalletAccountRecord :=
  s.walletAccounts.rows.filter fun a => a.walletInstanceId = w

/-- The rows of `w` among the sorted ones, before they are joined with their labels. -/
theorem sorted_accountsOf {rows : List WalletAccountRecord} :
    ((rows.insertionSort fun a b => s.accountBefore a b = true).filter fun a =>
        a.walletInstanceId = w).Pairwise (fun a b => s.accountBefore a b = true) := by
  have := accountBefore_trans (s := s)
  have := accountBefore_total (s := s)
  exact (List.pairwise_insertionSort _ rows).filter _

theorem Store.Labelled.position {a : WalletAccountRecord} (hs : s.Labelled w found)
    (ha : a ∈ s.accountsOf w) :
    a.walletInstanceId = w ∧ s.existingAccountOrder w a.address = some (s.accountPosition a) := by
  obtain ⟨hmem, hw⟩ := List.mem_filter.mp ha
  rw [decide_eq_true_eq] at hw
  obtain ⟨n, hn⟩ := (hs.discovered a.address).mp (hs.exposed a hmem hw)
  refine ⟨hw, ?_⟩
  unfold Store.accountPosition
  rw [hw, hn, Option.getD_some]

theorem Store.Labelled.position_lt {a b : WalletAccountRecord} (hs : s.Labelled w found)
    (ha : a ∈ s.accountsOf w) (hb : b ∈ s.accountsOf w) (hkey : a.key ≠ b.key)
    (h : s.accountBefore a b = true) : s.accountPosition a < s.accountPosition b := by
  obtain ⟨hwa, hna⟩ := hs.position ha
  obtain ⟨hwb, hnb⟩ := hs.position hb
  rw [accountBefore_iff, Prod.Lex.le_iff] at h
  rcases h with hlt | ⟨-, hle⟩
  · rw [ofLex_toLex, ofLex_toLex, hwa, hwb] at hlt
    exact absurd hlt (lt_irrefl _)
  · rcases (Prod.Lex.le_iff.mp hle) with hlt | ⟨heq, -⟩
    · exact hlt
    · have hposition : s.accountPosition a = s.accountPosition b := heq
      have hsame : a.address = b.address := hs.injective hna (hposition ▸ hnb)
      exact absurd (Prod.ext (hwa.trans hwb.symm) hsame) hkey

/-- What an answer says of an account: its label is that of its label row, where it has one. -/
def Store.listedAccount (s : Store) (includePublicKey : Bool) (a : WalletAccountRecord) :
    WalletAccountSummary :=
  { accountSummary (s.joinedAccount a) with publicKey :=
    if includePublicKey then a.publicKey else none }

/-- The accounts listed in a group are those of its wallet, sorted. -/
theorem walletListAccounts_accounts {env : Env} {target : Option WalletInstanceId}
    {includePublicKey : Bool} {groups : List WalletAccountGroup} {g : WalletAccountGroup}
    (h : c.walletListAccounts env target includePublicKey s = .ok groups) (hg : g ∈ groups) :
    ∃ listed : List WalletAccountRecord, listed.Perm (s.accountsOf g.walletInstanceId) ∧
      listed.Pairwise (fun a b => s.accountBefore a b = true) ∧
      g.accounts = listed.map (s.listedAccount includePublicKey) := by
  obtain ⟨-, -, h₁⟩ := bind_eq_ok h
  cases h₁
  obtain ⟨wallet, hwallet, rfl⟩ := List.mem_map.mp hg
  have htarget : target.all (fun t => wallet.walletInstanceId = t) = true :=
    (List.mem_filter.mp hwallet).2
  refine ⟨((s.walletAccounts.rows.filter fun a =>
      target.all fun t => a.walletInstanceId = t).insertionSort
        fun a b => s.accountBefore a b = true).filter fun a =>
          a.walletInstanceId = wallet.walletInstanceId,
    ?_, sorted_accountsOf, ?_⟩
  · refine ((List.perm_insertionSort _ _).filter _).trans ?_
    rw [List.filter_filter]
    refine List.Perm.of_eq (List.filter_congr fun a _ => ?_)
    by_cases hw : a.walletInstanceId = wallet.walletInstanceId
    · simpa [hw] using htarget
    · simp [hw]
  · unfold Store.listWalletAccounts
    rw [List.filter_map, List.map_map]
    rfl

/-- A registered wallet has one group in every answer that is to cover it. -/
theorem walletListAccounts_group {env : Env} {target : Option WalletInstanceId}
    {includePublicKey : Bool}
    {groups : List WalletAccountGroup} {row : WalletInstanceRecord}
    (hrow : s.getWalletInstance w = some row)
    (htarget : ∀ t ∈ target, t = w)
    (h : c.walletListAccounts env target includePublicKey s = .ok groups) :
    ∃ g, groups.filter (fun g => g.walletInstanceId = w) = [g] := by
  obtain ⟨-, -, h₁⟩ := bind_eq_ok h
  cases h₁
  have hkey : row.walletInstanceId = w := Table.key_of_find hrow
  have hrows : s.walletInstances.rows.filter (fun x => x.walletInstanceId = w) = [row] :=
    Table.filter_key_of_find hrow
  have hscanned : (((s.listWalletInstances env.instanceScan false).filter fun x =>
      target.all fun t => x.walletInstanceId = t).filter fun x => x.walletInstanceId = w) =
        [row] := by
    rw [List.filter_filter]
    have hcovered : ∀ x : WalletInstanceRecord, (decide (x.walletInstanceId = w) &&
        target.all fun t => x.walletInstanceId = t) = decide (x.walletInstanceId = w) := by
      intro x
      cases target with
      | none => simp
      | some t => simp [htarget t rfl]
    simp only [hcovered]
    refine List.perm_singleton.mp ?_
    rw [← hrows]
    unfold Store.listWalletInstances
    refine ((Scan.orderBy_perm _ _ _).filter _).trans ?_
    simp
  rw [List.filter_map]
  exact ⟨_, congrArg (List.map _) hscanned⟩

/-- The accounts of a local wallet, sorted, stand in the order of discovery. -/
theorem Store.Labelled.listed {listed : List WalletAccountRecord} (hs : s.Labelled w found)
    (hperm : listed.Perm (s.accountsOf w))
    (hsorted : listed.Pairwise fun a b => s.accountBefore a b = true) :
    ∃ orders : List Int, listed.map (fun a => s.existingAccountOrder w a.address) =
      orders.map some ∧
      orders.Pairwise (· < ·) := by
  have hmem : ∀ a ∈ listed, a ∈ s.accountsOf w := fun a ha => hperm.mem_iff.mp ha
  have hkeys : listed.Pairwise fun a b => a.key ≠ b.key := by
    have hnodup : ((s.accountsOf w).map WalletAccountRecord.key).Nodup :=
      (List.filter_sublist.map _).nodup s.walletAccounts.nodup
    exact List.pairwise_map.mp ((hperm.map _).nodup_iff.mpr hnodup)
  refine ⟨listed.map s.accountPosition, ?_, ?_⟩
  · rw [List.map_map]
    exact List.map_congr_left fun a ha => (hs.position (hmem a ha)).2
  · refine List.pairwise_map.mpr ((hsorted.and hkeys).imp_of_mem ?_)
    rintro a b ha hb ⟨hbefore, hne⟩
    exact hs.position_lt (hmem a ha) (hmem b hb) hne hbefore

end Listing

/-! ## Labels and orders of a run -/

section Contract

variable {c : Coordinator} {w : WalletInstanceId}

/-- What holds of the labels of `w` after the commands `steps`. The addresses of the snapshots of
`w` that were stored are `c.discovered`, so the first occurrence of an address there is when it was
first seen. -/
structure Coordinator.LabelsInOrder (c : Coordinator) (w : WalletInstanceId) (steps : List Step) :
    Prop where
  distinct : (((c.run steps).labelsOf w).map WalletAccountLabel.accountOrder).Nodup
  positive : ∀ l ∈ (c.run steps).labelsOf w, 0 < l.accountOrder
  /-- Whatever commands follow, the row stays, and so do its order and, up to a command that sets
  it, its label. -/
  kept : ∀ (more : List Step) (a : String) (l : WalletAccountLabel),
    (c.run steps).walletAccountLabels.find (w, a) = some l →
    ∃ l', (c.run (steps ++ more)).walletAccountLabels.find (w, a) = some l' ∧
      l'.accountOrder = l.accountOrder ∧ ((∀ x ∈ more, ¬ x.Relabels w a) → l'.label = l.label)
  labelled : ∀ a ∈ c.discovered w Store.empty steps, ∃ n,
    (c.run steps).existingAccountOrder w a = some n
  ordered : ∀ a b n m, (c.run steps).existingAccountOrder w a = some n →
    (c.run steps).existingAccountOrder w b = some m →
    (c.discovered w Store.empty steps).idxOf a < (c.discovered w Store.empty steps).idxOf b → n < m
  /-- `wallet_list_accounts`, where the policy allows it, answers for `w` or for all wallets with
  one group of `w`, which holds the accounts of `w`, each once, and their orders increase. -/
  listed : ∀ (env : Env) (target : Option WalletInstanceId) (includePublicKey : Bool),
    c.policy.checkAccountListing = .ok () → (∀ t ∈ target, t = w) →
    ∃ (groups : List WalletAccountGroup) (g : WalletAccountGroup)
      (accounts : List WalletAccountRecord),
      c.walletListAccounts env target includePublicKey (c.run steps) = .ok groups ∧
      groups.filter (fun g => g.walletInstanceId = w) = [g] ∧
      accounts.Perm ((c.run steps).accountsOf w) ∧
      g.accounts = accounts.map ((c.run steps).listedAccount includePublicKey) ∧
      ∃ orders : List Int, accounts.map (fun a => (c.run steps).existingAccountOrder w a.address) =
        orders.map some ∧ orders.Pairwise (· < ·)
  /-- A snapshot that is refused, of whatever wallet, changes neither accounts nor labels. -/
  undone : ∀ (x : Step) (e : CoreError), x.command.snapshot ≠ none →
    c.reply (c.run steps) x = .error e → (c.run steps).SameLabels (c.step (c.run steps) x)

theorem Store.Labelled.distinct {s : Store} {found : List String} (hs : s.Labelled w found) :
    ((s.labelsOf w).map WalletAccountLabel.accountOrder).Nodup := by
  have hrows : (s.labelsOf w).Nodup :=
    List.filter_sublist.nodup s.walletAccountLabels.nodup.of_map
  refine hrows.map_on fun l hl l' hl' heq => ?_
  obtain ⟨-, hfind⟩ := mem_labelsOf.mp hl
  obtain ⟨-, hfind'⟩ := mem_labelsOf.mp hl'
  have haddress : l.address = l'.address := hs.injective
    (existingAccountOrder_eq_some.mpr ⟨l, hfind, heq⟩)
    (existingAccountOrder_eq_some.mpr ⟨l', hfind', rfl⟩)
  rw [haddress] at hfind
  exact Option.some.inj (hfind.symm.trans hfind')

theorem sameLabels_of_refused {s : Store} {x : Step} {e : CoreError}
    (hsnapshot : x.command.snapshot ≠ none) (hreply : c.reply s x = .error e) :
    s.SameLabels (c.step s x) := by
  rcases step_labels c s x with ⟨hsame, -⟩ | ⟨w', accounts, row, -, hok, -⟩ |
    ⟨command, account, hcommand, -⟩
  · exact hsame
  · rw [hreply] at hok
    cases hok
  · rw [hcommand] at hsnapshot
    exact absurd rfl hsnapshot

theorem registered_of_local {s : Store} (h : s.isLocalAccountWallet w = .ok true) :
    ∃ row, s.getWalletInstance w = some row := by
  unfold Store.isLocalAccountWallet at h
  cases hrow : s.getWalletInstance w with
  | none =>
    rw [hrow] at h
    cases h
  | some row => exact ⟨row, rfl⟩

theorem manages_of_local {s : Store} (h : s.isLocalAccountWallet w = .ok true) : s.Manages w := by
  intro row hrow
  unfold Store.isLocalAccountWallet at h
  rw [hrow] at h
  exact of_decide_eq_true (Except.ok.inj h)

/-- Every run of the daemon is a run of stamped commands. -/
theorem daemon_run_stamped (d : Daemon) (steps : List DaemonStep) :
    ∃ commands : List Step, d.run steps = d.coordinator.run commands ∧
      ∀ x ∈ commands, x.command.Stamped := by
  induction steps using List.reverseRecOn with
  | nil => exact ⟨[], rfl, fun x hx => absurd hx List.not_mem_nil⟩
  | append_singleton steps step ih =>
    obtain ⟨commands, hrun, hstamped⟩ := ih
    have hsnoc : ∀ x : Step, x.command.Stamped → d.run (steps ++ [step]) =
        d.coordinator.step (d.coordinator.run commands) x →
        ∃ commands : List Step, d.run (steps ++ [step]) = d.coordinator.run commands ∧
          ∀ x ∈ commands, x.command.Stamped := by
      intro x hx hstep
      refine ⟨commands ++ [x], hstep.trans (Coordinator.run_snoc _ _ _).symm, fun y hy => ?_⟩
      rcases List.mem_append.mp hy with hold | hnew
      · exact hstamped y hold
      · rw [List.mem_singleton.mp hnew]
        exact hx
    have hlast : d.run (steps ++ [step]) = d.step (d.coordinator.run commands) step := by
      rw [← hrun]
      exact Trace.run_snoc
    cases step with
    | request env request =>
      rcases step_request d env
        (d.coordinator.run commands) request with hsame | ⟨command, hsent, hstep⟩
      · exact ⟨commands, hlast.trans hsame, hstamped⟩
      · exact hsnoc ⟨env, command⟩ (stamped_of_sent hsent) (hlast.trans hstep)
    | tick env =>
      refine hsnoc ⟨env, .tickMaintenance⟩ ?_ hlast
      intro w accounts hsnapshot
      cases hsnapshot

/-- In every run of commands that the daemon stamps, the labels of every local wallet are kept in
the order of discovery. -/
theorem labels_in_order_of_discovery (steps : List Step) (hstamped : ∀ x ∈ steps, x.command.Stamped)
    (hlocal : (c.run steps).isLocalAccountWallet w = .ok true) : c.LabelsInOrder w steps := by
  have hs := run_labelled steps hstamped (manages_of_local hlocal)
  obtain ⟨row, hrow⟩ := registered_of_local hlocal
  constructor
  · exact hs.distinct
  · intro l hl
    obtain ⟨-, hfind⟩ := mem_labelsOf.mp hl
    exact hs.positive l.address _ (existingAccountOrder_eq_some.mpr ⟨l, hfind, rfl⟩)
  · intro more a l hl
    unfold Coordinator.run at hl ⊢
    rw [Trace.run_append]
    exact run_keepsLabel more hl
  · exact fun a ha => (hs.discovered a).mp ha
  · exact hs.ordered
  · intro env target includePublicKey hpolicy htarget
    obtain ⟨groups, hgroups⟩ : ∃ groups,
        c.walletListAccounts env target includePublicKey (c.run steps) = .ok groups := by
      unfold Coordinator.walletListAccounts
      rw [hpolicy]
      exact ⟨_, rfl⟩
    obtain ⟨g, hg⟩ := walletListAccounts_group hrow htarget hgroups
    obtain ⟨hmem, hw⟩ := List.mem_filter.mp (hg ▸ List.mem_singleton_self g)
    rw [decide_eq_true_eq] at hw
    obtain ⟨accounts, hperm, hsorted, haccounts⟩ := walletListAccounts_accounts hgroups hmem
    rw [hw] at hperm
    exact ⟨groups, g, accounts, hgroups, hg, hperm, haccounts, hs.listed hperm hsorted⟩
  · exact fun x e => sameLabels_of_refused

end Contract

namespace Session

def exposed (address : String) (label : Option String) : WalletAccountRecord :=
  ⟨wallet, address, label, none, false, false, false, 0⟩

def update (t : TimestampMs) (accounts : List WalletAccountRecord) : Step :=
  ⟨env t lease₁, .updateBackendAccounts ⟨wallet, .unlocked, [.createAccount], accounts⟩⟩

/-- An account appears, makes room for two others, and comes back under another label. -/
def returning : List Step :=
  [register 0, update 1 [exposed "0xc" none], update 2 [exposed "0xb" none, exposed "0xa" none],
    update 3 [exposed "0xa" none, exposed "0xc" (some "renamed")]]

theorem returning_stamped : ∀ x ∈ returning, x.command.Stamped := by
  intro x hx w accounts hsnapshot a ha
  simp only [returning, List.mem_cons, List.not_mem_nil, or_false] at hx
  rcases hx with rfl | rfl | rfl | rfl <;> cases hsnapshot <;>
    simp only [List.mem_cons, List.not_mem_nil, or_false] at ha
  · rw [ha]
    rfl
  · rcases ha with rfl | rfl <;> rfl
  · rcases ha with rfl | rfl <;> rfl

example : ["0xc", "0xb", "0xa"].map ((coordinator.run returning).existingAccountOrder wallet) =
    [some 1, some 2, some 3] := by decide +kernel

end Session

open Session in
theorem labels_in_order_of_discovery_returning : coordinator.LabelsInOrder wallet returning :=
  labels_in_order_of_discovery returning returning_stamped (by decide +kernel)

end StarcoinMcp.Starmask
