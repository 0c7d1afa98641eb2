import Mathlib.Data.List.Dedup
import StarcoinMcp.Starmask.Isolation
import StarcoinMcp.Starmask.Server

/-! Local backends of the configuration against requests from outside. The `backend.*` methods
ask the policy for the wallet they name; the `extension.*` methods do not, so three of them
reach the rows of a configured local backend. In every run without such a request the rows
stay what the backend itself made of them. -/

namespace StarcoinMcp.Starmask

open Coordinator FailState

/-! ## Commands that leave the wallet tables alone -/

/-- The command writes neither instance rows nor account rows. -/
def CoordinatorCommand.KeepsWallets : CoordinatorCommand → Prop
  | .registerExtension _ | .registerBackend _ | .heartbeatExtension _ | .heartbeatBackend _
  | .updateExtensionAccounts _ | .updateBackendAccounts _ | .tickMaintenance => False
  | _ => True

def Store.wallets (s : Store) :
    Table WalletInstanceRecord.walletInstanceId × Table WalletAccountRecord.key :=
  (s.walletInstances, s.walletAccounts)

section KeepsWallets

variable {c : Coordinator} {env : Env} {s s' : Store}

/-- The tables of the wallets, with the labels. -/
def Store.walletTables (s : Store) : Table WalletInstanceRecord.walletInstanceId ×
    Table WalletAccountRecord.key × Table WalletAccountLabel.key :=
  (s.walletInstances, s.walletAccounts, s.walletAccountLabels)

theorem walletTables_of_sameWallets (h : s.SameWallets s') : s'.walletTables = s.walletTables := by
  obtain ⟨hinstances, haccounts, hlabels⟩ := h
  unfold Store.walletTables
  rw [hinstances, haccounts, hlabels]

theorem wallets_of_walletTables (h : s'.walletTables = s.walletTables) : s'.wallets = s.wallets :=
  congrArg (fun x => (x.1, x.2.1)) h

theorem keepsTables_updateRequest (r : RequestRecord) : Keeps Store.walletTables (updateRequest r) := by
  refine keeps_storeCall fun s x s' h => ?_
  unfold Store.updateRequest at h
  split_ifs at h
  · obtain ⟨-, rfl⟩ := Prod.mk.inj (Except.ok.inj h)
    rfl
  · obtain ⟨-, rfl⟩ := Prod.mk.inj (Except.ok.inj h)
    rfl

theorem keepsTables_rewriteOwned {α : Type} {id : RequestId} {w : WalletInstanceId}
    {f : RequestRecord → CoreResult RequestRecord} {g : RequestRecord → α} :
    Keeps Store.walletTables (rewriteOwned id w f g) :=
  Keeps.bind (fun _ => rfl) fun _ => Keeps.bind (fun _ => rfl) fun _ =>
    (keepsTables_updateRequest _).bind fun _ _ => rfl

theorem keepsTables_createRequest (args : CreateRequestArgs) :
    (c.createRequest env args s).2.walletTables = s.walletTables := by
  rcases createRequest_cases c env s args with ⟨r, -, hrun⟩ | ⟨-, e, hrun⟩ |
    ⟨-, r, s', -, -, -, hins, hrun⟩
  · rw [hrun]
  · rw [hrun]
  · rw [hrun]
    exact walletTables_of_sameWallets (insertRequest_ok hins).2.1

theorem keepsTables_lift_bind {α : Type} {x : CoreResult Unit} {m : CoreM α}
    (h : (m s).2.walletTables = s.walletTables) :
    ((FailState.lift x >>= fun _ => m) s).2.walletTables = s.walletTables := by
  cases x with
  | error e => rfl
  | ok u => exact h

theorem keepsTables_pullNextRequest (w : WalletInstanceId) :
    (c.pullNextRequest env w s).2.walletTables = s.walletTables := by
  rcases pullNextRequest_cases c env s w with ⟨e, hrun⟩ | ⟨-, -, hrun⟩ | ⟨r, p, t, -, -, -, -, hrun⟩ |
    ⟨r, lease, -, -, -, -, -, hrun⟩
  · rw [hrun]
  · rw [hrun]
  · rw [hrun]
    exact walletTables_of_sameWallets (s.sameWallets_writeRequest _)
  · rw [hrun]
    exact walletTables_of_sameWallets (s.sameWallets_writeRequest _)

theorem keepsTables_cancelRequest (id : RequestId) :
    Keeps Store.walletTables (cancelRequest env id) := by
  refine Keeps.bind (fun _ => rfl) fun found => ?_
  cases found with
  | none => exact fun _ => rfl
  | some r =>
    dsimp only
    split_ifs
    · exact fun _ => rfl
    · exact Keeps.bind (fun _ => rfl) fun _ => (keepsTables_updateRequest _).bind fun _ _ => rfl

theorem step_keepsTables {command : CoordinatorCommand} (h : command.KeepsWallets)
    (hlabel : ∀ l, command ≠ .walletSetAccountLabel l) :
    (c.step s ⟨env, command⟩).walletTables = s.walletTables := by
  unfold Coordinator.step
  cases command <;> simp only [dispatch, map_apply]
  case walletSetAccountLabel command => exact absurd rfl (hlabel command)
  case createAccount command => exact keepsTables_lift_bind (keepsTables_createRequest _)
  case createExportAccount command => exact keepsTables_lift_bind (keepsTables_createRequest _)
  case createImportAccount command =>
    refine keepsTables_lift_bind ?_
    split_ifs
    · rfl
    · exact keepsTables_createRequest _
  case createSignTransaction command => exact keepsTables_lift_bind (keepsTables_createRequest _)
  case createSignMessage command => exact keepsTables_lift_bind (keepsTables_createRequest _)
  case cancelRequest id => exact keepsTables_cancelRequest id s
  case pullNextRequest w => exact keepsTables_pullNextRequest w
  case markRequestPresented command => exact keepsTables_rewriteOwned s
  case resolveRequest command => exact keepsTables_rewriteOwned s
  case rejectRequest command => exact keepsTables_rewriteOwned s
  case registerExtension => exact h.elim
  case registerBackend => exact h.elim
  case heartbeatExtension => exact h.elim
  case heartbeatBackend => exact h.elim
  case updateExtensionAccounts => exact h.elim
  case updateBackendAccounts => exact h.elim
  case tickMaintenance => exact h.elim
  all_goals rfl

theorem setWalletAccountLabel_wallets {w : WalletInstanceId} {address label : String} {t : Int}
    {a : WalletAccountRecord} (h : s.setWalletAccountLabel w address label t = .ok (a, s')) :
    s'.wallets = s.wallets := by
  obtain ⟨isLocal, -, h₁⟩ := bind_eq_ok h
  cases isLocal with
  | false => cases h₁
  | true =>
    simp only [Bool.not_true, Bool.false_eq_true, if_false] at h₁
    split at h₁
    · cases h₁
    · obtain ⟨normalized, -, h₂⟩ := bind_eq_ok h₁
      cases h₂
      rfl

theorem keepsWallets_walletSetAccountLabel (command : SetAccountLabelCommand) :
    Keeps Store.wallets (walletSetAccountLabel env command) := by
  refine Keeps.bind (fun _ => rfl) fun wallet => ?_
  split_ifs
  · exact fun _ => rfl
  · exact fun _ => rfl
  · refine Keeps.bind (fun _ => rfl) fun account => ?_
    split_ifs
    · exact fun _ => rfl
    · exact (keeps_storeCall fun s a s' h => setWalletAccountLabel_wallets h).bind fun _ _ => rfl

theorem step_keepsWallets {command : CoordinatorCommand} (h : command.KeepsWallets) :
    (c.step s ⟨env, command⟩).wallets = s.wallets := by
  by_cases hlabel : ∀ l, command ≠ .walletSetAccountLabel l
  · exact wallets_of_walletTables (step_keepsTables h hlabel)
  · obtain ⟨l, rfl⟩ : ∃ l, command = .walletSetAccountLabel l := by
      simpa using hlabel
    unfold Coordinator.step
    simp only [dispatch, map_apply]
    exact keepsWallets_walletSetAccountLabel l s

end KeepsWallets

/-! ## The tick -/

section Tick

/-- What a tick can do to the rows of one wallet. -/
theorem tickMaintenance_wallets (c : Coordinator) (env : Env) (s : Store) (w : WalletInstanceId) :
    (c.step s ⟨env, .tickMaintenance⟩).walletAccounts = s.walletAccounts ∧
    ((c.step s ⟨env, .tickMaintenance⟩).getWalletInstance w = s.getWalletInstance w ∨
      ∃ row, s.getWalletInstance w = some row ∧
        (c.step s ⟨env, .tickMaintenance⟩).getWalletInstance w = some { row with connected := false }) := by
  obtain ⟨result, s', hrun, hticked⟩ := tickMaintenance_spec c env s
  have hstep : c.step s ⟨env, .tickMaintenance⟩ = s' := by
    unfold Coordinator.step
    simp only [dispatch, map_apply, hrun]
  rw [hstep]
  refine ⟨hticked.accounts, ?_⟩
  rw [hticked.instances]
  cases hrow : s.getWalletInstance w with
  | none => exact .inl rfl
  | some row =>
    rw [Option.map_some]
    unfold WalletInstanceRecord.checked
    split_ifs
    · exact .inr ⟨row, rfl, rfl⟩
    · exact .inl rfl

end Tick

/-! ## What a request sends to the coordinator -/

/-- The commands a JSON-RPC request can lead to, with the checks it passed on the way. -/
inductive Sent (policy : ServerPolicy) : DaemonCall → CoordinatorCommand → Prop
  | extensionRegister {v : Versioned ExtensionRegisterParams} {config : StarmaskExtensionBackendConfig}
      (hversion : v.protocolVersion = daemonProtocolVersion)
      (haccepted : policy.acceptsExtension v.params.extensionId = some config) :
      Sent policy (.extensionRegister (.ok v)) (.registerBackend (extensionRegisterCommand config v))
  | extensionHeartbeat {v : Versioned HeartbeatExtensionCommand}
      (hversion : v.protocolVersion = daemonProtocolVersion) :
      Sent policy (.extensionHeartbeat (.ok v)) (.heartbeatExtension v.params)
  | extensionUpdateAccounts {v : Versioned ExtensionUpdateAccountsParams}
      (hversion : v.protocolVersion = daemonProtocolVersion) :
      Sent policy (.extensionUpdateAccounts (.ok v))
        (.updateExtensionAccounts ⟨v.params.walletInstanceId, v.params.lockState, v.params.accounts.map
          (bridgeAccountToWalletAccount v.params.walletInstanceId v.params.lockState)⟩)
  | backendRegister {v : Versioned BackendRegisterParams} {config : LocalAccountDirBackendConfig}
      (hconfig : policy.configuredLocalBackend v.params.walletInstanceId = some config)
      (hvalid : validateGenericBackendRegistration config v.params = .ok ()) :
      Sent policy (.backendRegister (.ok v)) (.registerBackend (backendRegisterCommand v))
  | backendHeartbeat {v : Versioned HeartbeatBackendCommand} {config : LocalAccountDirBackendConfig}
      (hconfig : policy.configuredLocalBackend v.params.walletInstanceId = some config) :
      Sent policy (.backendHeartbeat (.ok v)) (.heartbeatBackend v.params)
  | backendUpdateAccounts {v : Versioned BackendUpdateAccountsParams}
      {config : LocalAccountDirBackendConfig}
      (hconfig : policy.configuredLocalBackend v.params.walletInstanceId = some config)
      (hvalid : validateLocalBackendCapabilities config v.params.capabilities = .ok ()) :
      Sent policy (.backendUpdateAccounts (.ok v))
        (.updateBackendAccounts ⟨v.params.walletInstanceId, v.params.lockState,
          canonicalCapabilities v.params.capabilities,
          v.params.accounts.map (backendAccountToWalletAccount v.params.walletInstanceId)⟩)
  | request {call : DaemonCall} {command : CoordinatorCommand} (hcommand : command.KeepsWallets) :
      Sent policy call command

section Requests

variable {d : Daemon} {env : Env} {s : Store} {id : String} {call : DaemonCall}

theorem expectResponse_state {α : Type} (command : CoordinatorCommand)
    (project : CoordinatorResponse → Option α) :
    (d.expectResponse env command project s).2 = d.coordinator.step s ⟨env, command⟩ := by
  unfold Daemon.expectResponse Coordinator.step
  cases hrun : d.coordinator.dispatch env command s with
  | mk x s' =>
    cases x with
    | error e => rfl
    | ok response =>
      dsimp only
      cases project response <;> rfl

theorem decodeProtocolOneOf_ok {α : Type} {value : Decoded α} {versions : List Nat} {v : Versioned α}
    (h : decodeProtocolOneOf id value versions = .ok v) : value = .ok v ∧ v.protocolVersion ∈ versions := by
  unfold decodeProtocolOneOf at h
  cases value with
  | error text => cases h
  | ok w =>
    dsimp only at h
    split_ifs at h with hversion
    obtain rfl := Except.ok.inj h
    exact ⟨rfl, hversion⟩

theorem decodeProtocol_ok {α : Type} {value : Decoded α} {v : Versioned α}
    (h : decodeProtocol id value = .ok v) :
    value = .ok v ∧ v.protocolVersion = daemonProtocolVersion := by
  obtain ⟨hvalue, hversion⟩ := decodeProtocolOneOf_ok h
  exact ⟨hvalue, List.mem_singleton.mp hversion⟩

/-- The effect of a request: none, or that of one command. -/
def Effect (d : Daemon) (env : Env) (s : Store) (call : DaemonCall) (s' : Store) : Prop :=
  s' = s ∨ ∃ command, Sent d.policy call command ∧ s' = d.coordinator.step s ⟨env, command⟩

theorem effect_expectResponse {α : Type} {command : CoordinatorCommand}
    {project : CoordinatorResponse → Option α} (h : Sent d.policy call command) :
    Effect d env s call (d.expectResponse env command project s).2 :=
  .inr ⟨command, h, expectResponse_state command project⟩

theorem effect_forwardCommand {α : Type} {decoded : Except JsonRpcErrorResponse (Versioned α)}
    {command : α → CoordinatorCommand} {project : CoordinatorResponse → Option DaemonResult}
    (h : ∀ v, decoded = .ok v → Sent d.policy call (command v.params)) :
    Effect d env s call (d.forwardCommand env decoded command project s).2 := by
  unfold Daemon.forwardCommand
  cases hdecoded : decoded with
  | error e => exact .inl rfl
  | ok v => exact effect_expectResponse (h v hdecoded)

theorem effect_dispatchCall (call : DaemonCall) :
    Effect d env s call (d.dispatchCall env id call s).2 := by
  cases call with
  | extensionRegister value =>
    change Effect d env s _ (d.extensionRegister env id value s).2
    unfold Daemon.extensionRegister
    cases hdecoded : decodeProtocol id value with
    | error e => exact .inl rfl
    | ok v =>
      obtain ⟨rfl, hversion⟩ := decodeProtocol_ok hdecoded
      rw [lift_ok_bind]
      cases haccepted : d.policy.acceptsExtension v.params.extensionId with
      | none => exact .inl rfl
      | some config => exact effect_expectResponse (.extensionRegister hversion haccepted)
  | extensionHeartbeat value =>
    refine effect_forwardCommand fun v hv => ?_
    obtain ⟨rfl, hversion⟩ := decodeProtocol_ok hv
    exact .extensionHeartbeat hversion
  | extensionUpdateAccounts value =>
    refine effect_forwardCommand fun v hv => ?_
    obtain ⟨rfl, hversion⟩ := decodeProtocol_ok hv
    exact .extensionUpdateAccounts hversion
  | backendRegister value =>
    change Effect d env s _ (d.backendRegister env id value s).2
    unfold Daemon.backendRegister
    cases hdecoded : decodeProtocolExact id value genericBackendProtocolVersion with
    | error e => exact .inl rfl
    | ok v =>
      obtain ⟨rfl, -⟩ := decodeProtocolOneOf_ok hdecoded
      rw [lift_ok_bind]
      cases hconfig : d.policy.configuredLocalBackend v.params.walletInstanceId with
      | none => exact .inl rfl
      | some config =>
        dsimp only
        cases hvalid : validateGenericBackendRegistration config v.params with
        | error e => exact .inl rfl
        | ok u => exact effect_expectResponse (.backendRegister hconfig hvalid)
  | backendHeartbeat value =>
    change Effect d env s _ (d.backendHeartbeat env id value s).2
    unfold Daemon.backendHeartbeat
    cases hdecoded : decodeProtocolExact id value genericBackendProtocolVersion with
    | error e => exact .inl rfl
    | ok v =>
      obtain ⟨rfl, -⟩ := decodeProtocolOneOf_ok hdecoded
      rw [lift_ok_bind]
      cases hconfig : d.policy.configuredLocalBackend v.params.walletInstanceId with
      | none => exact .inl rfl
      | some config => exact effect_expectResponse (.backendHeartbeat hconfig)
  | backendUpdateAccounts value =>
    change Effect d env s _ (d.backendUpdateAccounts env id value s).2
    unfold Daemon.backendUpdateAccounts
    cases hdecoded : decodeProtocolExact id value genericBackendProtocolVersion with
    | error e => exact .inl rfl
    | ok v =>
      obtain ⟨rfl, -⟩ := decodeProtocolOneOf_ok hdecoded
      rw [lift_ok_bind]
      cases hconfig : d.policy.configuredLocalBackend v.params.walletInstanceId with
      | none => exact .inl rfl
      | some config =>
        dsimp only
        cases hvalid : validateLocalBackendCapabilities config v.params.capabilities with
        | error e => exact .inl rfl
        | ok u => exact effect_expectResponse (.backendUpdateAccounts hconfig hvalid)
  | requestResolve value =>
    change Effect d env s _ (d.requestResolve env id value s).2
    unfold Daemon.requestResolve
    cases decodeProtocolOneOf id value Daemon.eitherVersion with
    | error e => exact .inl rfl
    | ok v =>
      rw [lift_ok_bind]
      cases requestResultFromParams v.params with
      | error e => exact .inl rfl
      | ok result => exact effect_expectResponse (.request trivial)
  | other method => exact .inl rfl
  | _ => exact effect_forwardCommand fun _ _ => .request trivial

end Requests

/-! ## Runs of the daemon -/

inductive DaemonStep
  | request (env : Env) (request : JsonRpcRequest)
  | tick (env : Env)

namespace Daemon

def step (d : Daemon) (s : Store) : DaemonStep → Store
  | .request env request => (d.dispatchRequest env request s).2
  | .tick env => d.coordinator.step s ⟨env, .tickMaintenance⟩

def run (d : Daemon) (steps : List DaemonStep) : Store := Trace.run d.step Store.empty steps

end Daemon

theorem step_request (d : Daemon) (env : Env) (s : Store) (request : JsonRpcRequest) :
    Effect d env s request.call (d.step s (.request env request)) := by
  have hstate : d.step s (.request env request) = (d.dispatchCall env request.id request.call s).2 := by
    unfold Daemon.step Daemon.dispatchRequest
    cases hrun : d.dispatchCall env request.id request.call s with
    | mk x s' =>
      cases x with
      | ok result =>
        dsimp only
        rw [bind_ok hrun]
        rfl
      | error e =>
        dsimp only
        rw [bind_error hrun]
  rw [hstate]
  exact effect_dispatchCall request.call

/-- A request of one of the `backend.*` methods that names `w`. -/
def BackendRequestFor (w : WalletInstanceId) : DaemonStep → Prop
  | .request _ ⟨_, .backendRegister (.ok v)⟩ => v.params.walletInstanceId = w
  | .request _ ⟨_, .backendHeartbeat (.ok v)⟩ => v.params.walletInstanceId = w
  | .request _ ⟨_, .backendUpdateAccounts (.ok v)⟩ => v.params.walletInstanceId = w
  | _ => False

/-- A request of one of the `extension.*` methods that names `w` and gets through to its rows: an
allowed extension registers under the name while it is free, or an extension reports under it once
the backend is registered. -/
def Trespasses (d : Daemon) (w : WalletInstanceId) (s : Store) : DaemonStep → Prop
  | .request _ ⟨_, .extensionRegister (.ok v)⟩ => v.params.walletInstanceId = w ∧
      v.protocolVersion = daemonProtocolVersion ∧
      d.policy.acceptsExtension v.params.extensionId ≠ none ∧ s.getWalletInstance w = none
  | .request _ ⟨_, .extensionHeartbeat (.ok v)⟩ => v.params.walletInstanceId = w ∧
      v.protocolVersion = daemonProtocolVersion ∧ s.getWalletInstance w ≠ none
  | .request _ ⟨_, .extensionUpdateAccounts (.ok v)⟩ => v.params.walletInstanceId = w ∧
      v.protocolVersion = daemonProtocolVersion ∧ s.getWalletInstance w ≠ none
  | _ => False

/-- The record of a local backend: of its kind, with capabilities the configuration allows. -/
structure LocalRow (config : LocalAccountDirBackendConfig) (row : WalletInstanceRecord) : Prop where
  backendKind : row.backendKind = .localAccountDir
  capabilities : ∀ capability ∈ row.capabilities,
    capability ∈ (WalletBackendConfig.localAccountDir config).allowedCapabilities

def Guarded (config : LocalAccountDirBackendConfig) (w : WalletInstanceId) (s : Store) : Prop :=
  ∀ row, s.getWalletInstance w = some row → LocalRow config row

/-- The instance row and the account rows of `w` are the same in both stores. -/
def SameRows (w : WalletInstanceId) (s s' : Store) : Prop :=
  s'.getWalletInstance w = s.getWalletInstance w ∧
    ∀ address, s'.walletAccounts.find (w, address) = s.walletAccounts.find (w, address)

/-- `w` is marked as disconnected, and nothing else of it changes. -/
def MarkedDisconnected (w : WalletInstanceId) (s s' : Store) : Prop :=
  (∃ row, s.getWalletInstance w = some row ∧
    s'.getWalletInstance w = some { row with connected := false }) ∧
  ∀ address, s'.walletAccounts.find (w, address) = s.walletAccounts.find (w, address)

section Guard

variable {d : Daemon} {env : Env} {s s' : Store} {w : WalletInstanceId}
  {config : LocalAccountDirBackendConfig}

theorem SameRows.guarded (h : SameRows w s s') (hs : Guarded config w s) : Guarded config w s' := by
  intro row hrow
  exact hs row (h.1.symm.trans hrow)

theorem sameRows_of_wallets (h : s'.wallets = s.wallets) : SameRows w s s' := by
  obtain ⟨hinstances, haccounts⟩ := Prod.mk.inj h
  refine ⟨?_, fun address => by rw [haccounts]⟩
  unfold Store.getWalletInstance
  rw [hinstances]

theorem sameRows_of_agreeOn (h : AgreeOn (· = w) s s') : SameRows w s s' :=
  ⟨(h.instances w rfl).symm, fun address => (h.accounts w address rfl).symm⟩

/-- A command in the name of another wallet. -/
theorem sameRows_of_inNameOf {c : Coordinator} {w' : WalletInstanceId} {command : CoordinatorCommand}
    (hname : InNameOf w' command) (hne : w' ≠ w) : SameRows w s (c.step s ⟨env, command⟩) := by
  have hframe : Alike False (· = w) s (c.step s ⟨env, command⟩) := dispatch_frame hname hne
  exact sameRows_of_agreeOn hframe.1

theorem sent_inNameOf {policy : ServerPolicy} {call : DaemonCall} {command : CoordinatorCommand}
    (h : Sent policy call command) : command.KeepsWallets ∨ ∃ w', InNameOf w' command := by
  have hbridge : ∀ (w' : WalletInstanceId) (lock : LockState) (accounts : List NativeBridgeAccount),
      ∀ a ∈ accounts.map (bridgeAccountToWalletAccount w' lock), a.walletInstanceId = w' := by
    intro w' lock accounts a ha
    obtain ⟨b, -, rfl⟩ := List.mem_map.mp ha
    rfl
  have hbackend : ∀ (w' : WalletInstanceId) (accounts : List BackendAccount),
      ∀ a ∈ accounts.map (backendAccountToWalletAccount w'), a.walletInstanceId = w' := by
    intro w' accounts a ha
    obtain ⟨b, -, rfl⟩ := List.mem_map.mp ha
    rfl
  cases h with
  | extensionRegister => exact .inr ⟨_, .registerBackend rfl (hbridge _ _ _)⟩
  | extensionHeartbeat => exact .inr ⟨_, .heartbeatExtension rfl⟩
  | extensionUpdateAccounts => exact .inr ⟨_, .updateExtensionAccounts rfl (hbridge _ _ _)⟩
  | backendRegister => exact .inr ⟨_, .registerBackend rfl (hbackend _ _)⟩
  | backendHeartbeat => exact .inr ⟨_, .heartbeatBackend rfl⟩
  | backendUpdateAccounts => exact .inr ⟨_, .updateBackendAccounts rfl (hbackend _ _)⟩
  | request hcommand => exact .inl hcommand

/-! The rows the three methods write. -/

theorem insertWalletAccounts_instances :
    ∀ {accounts : List WalletAccountRecord} {s s' : Store},
      Store.insertWalletAccounts accounts s = .ok s' → s'.walletInstances = s.walletInstances
  | [], s, s', h => by
    cases h
    rfl
  | a :: accounts, s, s', h => by
    unfold Store.insertWalletAccounts at h
    split at h
    · cases h
    · cases h
    · exact (insertWalletAccounts_instances h).trans rfl

theorem replaceWalletAccounts_instances {s s' : Store} {w : WalletInstanceId}
    {accounts : List WalletAccountRecord} {t : Int}
    (h : s.replaceWalletAccounts w accounts t = .ok s') : s'.walletInstances = s.walletInstances := by
  obtain ⟨isLocal, -, h₁⟩ := bind_eq_ok h
  cases isLocal with
  | false => exact (insertWalletAccounts_instances h₁).trans rfl
  | true =>
    obtain ⟨labelled, hlabel, h₂⟩ := bind_eq_ok h₁
    obtain ⟨labelled', hlabel', hinstances, -⟩ := labelAccounts_ok (w := w) accounts _ s
    have hsame : labelled = labelled' := Except.ok.inj (hlabel.symm.trans hlabel')
    exact (insertWalletAccounts_instances h₂).trans (hsame ▸ hinstances)

theorem keepsInstances_replaceWalletAccounts (env : Env) (w : WalletInstanceId)
    (accounts : List WalletAccountRecord) :
    Keeps Store.walletInstances (replaceWalletAccounts env w accounts) := by
  refine keeps_storeCall fun s a s' h => ?_
  cases hreplace : s.replaceWalletAccounts w accounts env.currentTimestampMs with
  | error e =>
    rw [hreplace] at h
    cases h
  | ok s₁ =>
    rw [hreplace] at h
    obtain rfl : s₁ = s' := (Prod.mk.inj (Except.ok.inj h)).2
    exact replaceWalletAccounts_instances hreplace

theorem getWalletInstance_of_keeps {m : CoreM Unit} (h : Keeps Store.walletInstances m)
    (s : Store) (w : WalletInstanceId) : (m s).2.getWalletInstance w = s.getWalletInstance w := by
  unfold Store.getWalletInstance
  rw [h s]

theorem getWalletInstance_upsert (s : Store) (row : WalletInstanceRecord) :
    (s.upsertWalletInstance row).getWalletInstance row.walletInstanceId = some row :=
  (Table.find_upsert s.walletInstances row row.walletInstanceId).trans (if_pos rfl)

theorem writeInstance_instance (env : Env) (s : Store) (row : WalletInstanceRecord)
    (accounts : List WalletAccountRecord) :
    (writeInstance env row accounts s).2.getWalletInstance row.walletInstanceId = some row :=
  (getWalletInstance_of_keeps (keepsInstances_replaceWalletAccounts env _ _) _ _).trans
    (getWalletInstance_upsert s row)

/-- A method that begins with `require_wallet_instance`, for a wallet that is not there. -/
theorem unregistered_state {α : Type} {k : WalletInstanceRecord → CoreM α}
    (h : s.getWalletInstance w = none) : ((reading (requireWalletInstance w) >>= k) s).2 = s := by
  cases hwallet : requireWalletInstance w s with
  | error e => rw [reading_error_bind hwallet]
  | ok wallet => exact absurd h (requireWalletInstance_ok hwallet)

theorem registerBackend_instance (env : Env) (s : Store) (command : RegisterBackendCommand) :
    ((∃ row, s.getWalletInstance command.walletInstanceId = some row ∧
        row.backendKind ≠ command.backendKind) ∧ (registerBackend env command s).2 = s) ∨
    (registerBackend env command s).2.getWalletInstance command.walletInstanceId =
      some (registeredRow env command) := by
  by_cases hkind : ∀ wallet, s.getWalletInstance command.walletInstanceId = some wallet →
      wallet.backendKind = command.backendKind
  · rw [registerBackend_of_kind hkind]
    exact .inr (writeInstance_instance env s (registeredRow env command) command.accounts)
  · obtain ⟨row, hrow, hne⟩ : ∃ wallet, s.getWalletInstance command.walletInstanceId = some wallet ∧
        wallet.backendKind ≠ command.backendKind := by
      simpa using hkind
    rw [registerBackend_of_other_kind hrow hne]
    exact .inl ⟨⟨row, hrow, hne⟩, rfl⟩

theorem updateBackendAccounts_instance (env : Env) (s : Store) (command : UpdateBackendAccountsCommand) :
    (s.getWalletInstance command.walletInstanceId = none ∧ (updateBackendAccounts env command s).2 = s) ∨
    ∃ wallet, s.getWalletInstance command.walletInstanceId = some wallet ∧
      (updateBackendAccounts env command s).2.getWalletInstance command.walletInstanceId =
        some (updatedRow env command wallet) := by
  cases hwallet : s.getWalletInstance command.walletInstanceId with
  | none => exact .inl ⟨rfl, unregistered_state hwallet⟩
  | some wallet =>
    have hid : wallet.walletInstanceId = command.walletInstanceId := Table.key_of_find hwallet
    refine .inr ⟨wallet, rfl, ?_⟩
    rw [updateBackendAccounts_of_registered hwallet, ← hid]
    exact writeInstance_instance env s (updatedRow env command wallet) command.accounts

theorem heartbeatBackend_instance (c : Coordinator) (env : Env) (s : Store)
    (command : HeartbeatBackendCommand) :
    (s.getWalletInstance command.walletInstanceId = none ∧ (c.heartbeatBackend env command s).2 = s) ∨
    ∃ wallet, s.getWalletInstance command.walletInstanceId = some wallet ∧
      (c.heartbeatBackend env command s).2.getWalletInstance command.walletInstanceId =
        some (seenRow env command wallet) := by
  cases hwallet : s.getWalletInstance command.walletInstanceId with
  | none => exact .inl ⟨rfl, unregistered_state hwallet⟩
  | some wallet =>
    have hid : wallet.walletInstanceId = command.walletInstanceId := Table.key_of_find hwallet
    refine .inr ⟨wallet, rfl, ?_⟩
    rw [heartbeatBackend_of_registered c env hwallet]
    -- the loop over the presented requests leaves the instances alone
    refine (getWalletInstance_of_keeps ?_ (s.upsertWalletInstance (seenRow env command wallet)) _).trans ?_
    · split_ifs
      · exact fun _ => rfl
      refine Keeps.bind (fun _ => rfl) fun t s => ?_
      obtain ⟨s', hloop, hrw⟩ := heartbeat_loop command.walletInstanceId (env.now 0) t
        command.presentedRequestIds s
      rw [hloop]
      exact hrw.wallets.1
    · rw [← hid]
      exact getWalletInstance_upsert s (seenRow env command wallet)

theorem mem_canonicalCapabilities {capabilities : List WalletCapability} {capability : WalletCapability} :
    capability ∈ canonicalCapabilities capabilities ↔ capability ∈ capabilities := by
  unfold canonicalCapabilities
  rw [List.mem_dedup, List.mem_insertionSort]

theorem allowed_of_validateLocalBackendCapabilities {capabilities : List WalletCapability}
    (h : validateLocalBackendCapabilities config capabilities = .ok ()) {capability : WalletCapability}
    (hmem : capability ∈ canonicalCapabilities (canonicalCapabilities capabilities)) :
    capability ∈ (WalletBackendConfig.localAccountDir config).allowedCapabilities := by
  unfold validateLocalBackendCapabilities at h
  split at h
  · cases h
  · next hnone =>
    have hallowed := List.find?_eq_none.mp hnone capability (mem_canonicalCapabilities.mp hmem)
    simpa using hallowed

theorem validateGenericBackendRegistration_ok {params : BackendRegisterParams}
    (h : validateGenericBackendRegistration config params = .ok ()) :
    params.backendKind = .localAccountDir ∧
      validateLocalBackendCapabilities config params.capabilities = .ok () := by
  unfold validateGenericBackendRegistration at h
  split_ifs at h with hkind
  exact ⟨not_not.mp hkind, h⟩

/-- What a step may do to the rows of `w`: a `backend.*` request that names `w` may change them, a
tick may mark `w` as disconnected, and nothing else touches them. -/
def Permitted (w : WalletInstanceId) (x : DaemonStep) (s s' : Store) : Prop :=
  BackendRequestFor w x ∨ SameRows w s s' ∨ (∃ env, x = .tick env) ∧ MarkedDisconnected w s s'

theorem step_tick_permitted (hs : Guarded config w s) :
    Guarded config w (d.step s (.tick env)) ∧ Permitted w (.tick env) s (d.step s (.tick env)) := by
  obtain ⟨haccounts, hrow⟩ := tickMaintenance_wallets d.coordinator env s w
  have hfind : ∀ address, (d.step s (.tick env)).walletAccounts.find (w, address) =
      s.walletAccounts.find (w, address) := fun address => congrArg (fun t => t.find (w, address)) haccounts
  rcases hrow with hsame | ⟨row, hrow, hmarked⟩
  · have hrows : SameRows w s (d.step s (.tick env)) := ⟨hsame, hfind⟩
    exact ⟨hrows.guarded hs, .inr (.inl hrows)⟩
  · refine ⟨fun row' hrow' => ?_, .inr (.inr ⟨⟨env, rfl⟩, ⟨row, hrow, hmarked⟩, hfind⟩)⟩
    obtain rfl : { row with connected := false } = row' := Option.some.inj (hmarked.symm.trans hrow')
    exact ⟨(hs row hrow).backendKind, (hs row hrow).capabilities⟩

theorem step_registerBackend (c : Coordinator) (command : RegisterBackendCommand) :
    c.step s ⟨env, .registerBackend command⟩ = (registerBackend env command s).2 := by
  unfold Coordinator.step
  simp only [dispatch, map_apply]

theorem step_heartbeatExtension (c : Coordinator) (command : HeartbeatExtensionCommand) :
    c.step s ⟨env, .heartbeatExtension command⟩ = (c.heartbeatExtension env command s).2 := by
  unfold Coordinator.step
  simp only [dispatch, map_apply]

theorem step_heartbeatBackend (c : Coordinator) (command : HeartbeatBackendCommand) :
    c.step s ⟨env, .heartbeatBackend command⟩ = (c.heartbeatBackend env command s).2 := by
  unfold Coordinator.step
  simp only [dispatch, map_apply]

theorem step_updateExtensionAccounts (c : Coordinator) (command : UpdateExtensionAccountsCommand) :
    c.step s ⟨env, .updateExtensionAccounts command⟩ = (updateExtensionAccounts env command s).2 := by
  unfold Coordinator.step
  simp only [dispatch, map_apply]

theorem step_updateBackendAccounts (c : Coordinator) (command : UpdateBackendAccountsCommand) :
    c.step s ⟨env, .updateBackendAccounts command⟩ = (updateBackendAccounts env command s).2 := by
  unfold Coordinator.step
  simp only [dispatch, map_apply]

theorem SameRows.refl : SameRows w s s := ⟨rfl, fun _ => rfl⟩

/-- The rows of a wallet after a command that did not write. -/
theorem unchanged_permitted {x : DaemonStep} (hs : Guarded config w s) (h : s' = s) :
    Guarded config w s' ∧ (BackendRequestFor w x ∨ SameRows w s s') := by
  rw [h]
  exact ⟨hs, .inr .refl⟩

/-- A command sent for a request that names `w`, with the store it leaves. -/
theorem sent_permitted (hconfig : d.policy.configuredLocalBackend w = some config)
    (hs : Guarded config w s) {request : JsonRpcRequest} {command : CoordinatorCommand}
    (hsent : Sent d.policy request.call command) (hname : InNameOf w command)
    (hquiet : ¬ Trespasses d w s (.request env request)) :
    Guarded config w (d.coordinator.step s ⟨env, command⟩) ∧
      (BackendRequestFor w (.request env request) ∨
        SameRows w s (d.coordinator.step s ⟨env, command⟩)) := by
  obtain ⟨id, call⟩ := request
  cases hsent with
  | @extensionRegister v config' hversion haccepted =>
    obtain rfl : v.params.walletInstanceId = w := by
      cases hname with
      | registerBackend hw _ => exact hw
    -- the name is taken by the backend, whose kind is another
    have htaken : s.getWalletInstance v.params.walletInstanceId ≠ none := by
      intro hfree
      exact hquiet ⟨rfl, hversion, by simp [haccepted], hfree⟩
    obtain ⟨row, hrow⟩ := Option.ne_none_iff_exists'.mp htaken
    have hkind : row.backendKind ≠ .starmaskExtension := by
      rw [(hs row hrow).backendKind]
      decide
    refine unchanged_permitted hs ?_
    rw [step_registerBackend, registerBackend_of_other_kind hrow hkind]
  | @extensionHeartbeat v hversion =>
    obtain rfl : v.params.walletInstanceId = w := by
      cases hname with
      | heartbeatExtension hw => exact hw
    have hfree : s.getWalletInstance v.params.walletInstanceId = none := by
      by_contra htaken
      exact hquiet ⟨rfl, hversion, htaken⟩
    refine unchanged_permitted hs ?_
    rw [step_heartbeatExtension]
    exact unregistered_state hfree
  | @extensionUpdateAccounts v hversion =>
    obtain rfl : v.params.walletInstanceId = w := by
      cases hname with
      | updateExtensionAccounts hw _ => exact hw
    have hfree : s.getWalletInstance v.params.walletInstanceId = none := by
      by_contra htaken
      exact hquiet ⟨rfl, hversion, htaken⟩
    refine unchanged_permitted hs ?_
    rw [step_updateExtensionAccounts]
    exact unregistered_state hfree
  | @backendRegister v config' hconfig' hvalid =>
    obtain rfl : v.params.walletInstanceId = w := by
      cases hname with
      | registerBackend hw _ => exact hw
    obtain rfl : config' = config := Option.some.inj (hconfig'.symm.trans hconfig)
    obtain ⟨hkind, hcapabilities⟩ := validateGenericBackendRegistration_ok hvalid
    refine ⟨fun row hrow => ?_, .inl rfl⟩
    rw [step_registerBackend] at hrow
    rcases registerBackend_instance env s (backendRegisterCommand v) with ⟨-, hsame⟩ | hwritten
    · rw [hsame] at hrow
      exact hs row hrow
    · obtain rfl : registeredRow env (backendRegisterCommand v) = row :=
        Option.some.inj (hwritten.symm.trans hrow)
      exact ⟨hkind, fun capability => allowed_of_validateLocalBackendCapabilities hcapabilities⟩
  | @backendHeartbeat v config' hconfig' =>
    obtain rfl : v.params.walletInstanceId = w := by
      cases hname with
      | heartbeatBackend hw => exact hw
    refine ⟨fun row hrow => ?_, .inl rfl⟩
    rw [step_heartbeatBackend] at hrow
    rcases heartbeatBackend_instance d.coordinator env s v.params with ⟨-, hsame⟩ | ⟨wallet, hold, hwritten⟩
    · rw [hsame] at hrow
      exact hs row hrow
    · obtain rfl : seenRow env v.params wallet = row := Option.some.inj (hwritten.symm.trans hrow)
      exact ⟨(hs wallet hold).backendKind, (hs wallet hold).capabilities⟩
  | @backendUpdateAccounts v config' hconfig' hvalid =>
    obtain rfl : v.params.walletInstanceId = w := by
      cases hname with
      | updateBackendAccounts hw _ => exact hw
    obtain rfl : config' = config := Option.some.inj (hconfig'.symm.trans hconfig)
    refine ⟨fun row hrow => ?_, .inl rfl⟩
    rw [step_updateBackendAccounts] at hrow
    rcases updateBackendAccounts_instance env s _ with ⟨-, hsame⟩ | ⟨wallet, hold, hwritten⟩
    · rw [hsame] at hrow
      exact hs row hrow
    · obtain rfl := Option.some.inj (hwritten.symm.trans hrow)
      exact ⟨(hs wallet hold).backendKind,
        fun capability => allowed_of_validateLocalBackendCapabilities hvalid⟩
  | request hcommand =>
    have hrows : SameRows w s (d.coordinator.step s ⟨env, command⟩) :=
      sameRows_of_wallets (step_keepsWallets hcommand)
    exact ⟨hrows.guarded hs, .inr hrows⟩

theorem step_permitted (hconfig : d.policy.configuredLocalBackend w = some config)
    (hs : Guarded config w s) {x : DaemonStep} (hquiet : ¬ Trespasses d w s x) :
    Guarded config w (d.step s x) ∧ Permitted w x s (d.step s x) := by
  cases x with
  | tick env => exact step_tick_permitted hs
  | request env request =>
    rcases step_request d env s request with hsame | ⟨command, hsent, hstep⟩
    · rw [hsame]
      exact ⟨hs, .inr (.inl .refl)⟩
    rw [hstep]
    have hrows : SameRows w s (d.coordinator.step s ⟨env, command⟩) →
        Guarded config w (d.coordinator.step s ⟨env, command⟩) ∧
          Permitted w (.request env request) s (d.coordinator.step s ⟨env, command⟩) :=
      fun h => ⟨h.guarded hs, .inr (.inl h)⟩
    rcases sent_inNameOf hsent with hkeeps | ⟨w', hname⟩
    · exact hrows (sameRows_of_wallets (step_keepsWallets hkeeps))
    by_cases hw : w' = w
    · obtain ⟨hguarded, hpermitted⟩ := sent_permitted hconfig hs hsent (hw ▸ hname) hquiet
      exact ⟨hguarded, hpermitted.imp_right .inl⟩
    · exact hrows (sameRows_of_inNameOf hname hw)

end Guard

/-- The protection of a configured local backend along a run: its record is a local one in every
state, and every step of the run is permitted. -/
def Protected (d : Daemon) (config : LocalAccountDirBackendConfig) (w : WalletInstanceId)
    (steps : List DaemonStep) : Prop :=
  (∀ before after, steps = before ++ after → Guarded config w (d.run before)) ∧
  ∀ before x after, steps = before ++ x :: after →
    Permitted w x (d.run before) (d.run (before ++ [x]))

theorem run_guarded {d : Daemon} {config : LocalAccountDirBackendConfig} {w : WalletInstanceId}
    (hconfig : d.policy.configuredLocalBackend w = some config) :
    ∀ {steps : List DaemonStep} {s : Store}, Guarded config w s →
      Trace.Along d.step (fun s x => ¬ Trespasses d w s x) s steps →
      Guarded config w (Trace.run d.step s steps)
  | [], s, hs, _ => hs
  | x :: steps, s, hs, h => by
    rw [Trace.run_cons]
    exact run_guarded hconfig (step_permitted hconfig hs h.1).1 h.2

/-- In a run in which no `extension.*` request reaches the rows of a configured local backend,
the backend is protected. -/
theorem local_backend_protected {d : Daemon} {config : LocalAccountDirBackendConfig}
    {w : WalletInstanceId} (hconfig : d.policy.configuredLocalBackend w = some config)
    {steps : List DaemonStep}
    (h : Trace.Along d.step (fun s x => ¬ Trespasses d w s x) Store.empty steps) :
    Protected d config w steps := by
  have hempty : Guarded config w Store.empty := fun row hrow => by cases hrow
  constructor
  · rintro before after rfl
    exact run_guarded hconfig hempty (Trace.along_append.mp h).1
  · rintro before x after rfl
    have hbefore : Guarded config w (d.run before) :=
      run_guarded hconfig hempty (Trace.along_append.mp h).1
    have hstep := (step_permitted hconfig hbefore h.at_split).2
    unfold Daemon.run at hstep ⊢
    rw [Trace.run_snoc]
    exact hstep

namespace Session

def localConfig : LocalAccountDirBackendConfig := ⟨"wallet-1", "local", .ttyPrompt⟩

def extensionConfig : StarmaskExtensionBackendConfig :=
  ⟨"browser", "browser", .browserUi, ["extension-1"], "com.starcoin.starmask", none⟩

/-- A daemon with an extension backend and a local one. -/
def daemon : Daemon :=
  ⟨coordinator, ⟨[.starmaskExtension extensionConfig, .localAccountDir localConfig]⟩, fun _ => ""⟩

def wallet₂ : WalletInstanceId := ⟨"wallet-2", .refl false⟩

def backendRegister (t : TimestampMs) : DaemonStep :=
  .request (env t lease₁) ⟨"1", .backendRegister (.ok ⟨3, wallet, .localAccountDir, .localSocket,
    .ttyPrompt, "local", .locked, [.signTransaction], ⟨"\x7b\x7d"⟩, []⟩)⟩

def extensionRegister (t : TimestampMs) (w : WalletInstanceId) : DaemonStep :=
  .request (env t lease₁)
    ⟨"2", .extensionRegister (.ok ⟨2, w, "extension-1", "1.0.0", none, .unlocked, []⟩)⟩

def extensionHeartbeat (t : TimestampMs) (w : WalletInstanceId) : DaemonStep :=
  .request (env t lease₁) ⟨"3", .extensionHeartbeat (.ok ⟨2, w, []⟩)⟩

def extensionUpdateAccounts (t : TimestampMs) (w : WalletInstanceId) : DaemonStep :=
  .request (env t lease₁) ⟨"4", .extensionUpdateAccounts (.ok ⟨2, w, .unlocked, []⟩)⟩

/-- The backend next to an extension that keeps to its own name. -/
def sideBySide : List DaemonStep :=
  [backendRegister 0, extensionRegister 1000 wallet₂, extensionRegister 2000 wallet,
    extensionHeartbeat 3000 wallet₂, .tick (env 100000 lease₁)]

end Session

open Session in
/-- The refused registration under the backend's name is part of the run. -/
theorem local_backend_protected_sideBySide :
    Protected daemon localConfig wallet sideBySide ∧
      ((daemon.run sideBySide).getWalletInstance wallet).map (fun row => (row.lastSeenAt, row.connected)) =
        some (0, false) := by
  refine ⟨local_backend_protected (by decide) ?_, by decide +kernel⟩
  have hother : wallet₂ ≠ wallet := by decide
  refine ⟨id, fun h => hother h.1, fun h => ?_, fun h => hother h.1, id, trivial⟩
  have hregistered : ((daemon.run (sideBySide.take 2)).getWalletInstance wallet).isSome = true := by
    decide +kernel
  exact absurd h.2.2.2 (Option.isSome_iff_ne_none.mp hregistered)

open Session in
/-- An allowed extension takes the name of a backend that is not registered yet; once it is, an
extension reports its last sign of life and its lock state. -/
theorem extension_reaches_local_backend :
    daemon.policy.configuredLocalBackend wallet = some localConfig ∧
    ¬ Protected daemon localConfig wallet [extensionRegister 0 wallet] ∧
    ¬ Protected daemon localConfig wallet [backendRegister 0, extensionHeartbeat 1000 wallet] ∧
    ¬ Protected daemon localConfig wallet [backendRegister 0, extensionUpdateAccounts 0 wallet] := by
  refine ⟨by decide, fun h => ?_, fun h => ?_, fun h => ?_⟩
  · have hkind : ((daemon.run [extensionRegister 0 wallet]).getWalletInstance wallet).map
        WalletInstanceRecord.backendKind = some .starmaskExtension := by decide +kernel
    obtain ⟨row, hrow, hkind⟩ := Option.map_eq_some_iff.mp hkind
    have hlocal := (h.1 [extensionRegister 0 wallet] [] rfl row hrow).backendKind
    rw [hkind] at hlocal
    cases hlocal
  · have hseen : ((daemon.run [backendRegister 0, extensionHeartbeat 1000 wallet]).getWalletInstance
        wallet).map WalletInstanceRecord.lastSeenAt ≠
        ((daemon.run [backendRegister 0]).getWalletInstance wallet).map
          WalletInstanceRecord.lastSeenAt := by
      decide +kernel
    rcases h.2 [backendRegister 0] (extensionHeartbeat 1000 wallet) [] rfl with
      hfor | hsame | ⟨⟨env, htick⟩, -⟩
    · exact hfor
    · exact hseen (congrArg (Option.map WalletInstanceRecord.lastSeenAt) hsame.1)
    · cases htick
  · have hlock : ((daemon.run [backendRegister 0, extensionUpdateAccounts 0 wallet]).getWalletInstance
        wallet).map WalletInstanceRecord.lockState ≠
        ((daemon.run [backendRegister 0]).getWalletInstance wallet).map WalletInstanceRecord.lockState := by
      decide +kernel
    rcases h.2 [backendRegister 0] (extensionUpdateAccounts 0 wallet) [] rfl with
      hfor | hsame | ⟨⟨env, htick⟩, -⟩
    · exact hfor
    · exact hlock (congrArg (Option.map WalletInstanceRecord.lockState) hsame.1)
    · cases htick

end StarcoinMcp.Starmask
