import StarcoinMcp.Starmask.Coordinator

/-! The daemon behind its socket: the configured wallet backends, the parameters of the
JSON-RPC methods, and the dispatcher, which decodes the parameters, applies the server policy
and hands one command to the coordinator. What `serde_json` makes of the parameters is an
input of the model: either typed parameters or the text of its error. -/

namespace StarcoinMcp.Starmask

/-! ## Configured backends -/

structure StarmaskExtensionBackendConfig where
  backendId : String
  instanceLabel : String
  approvalSurface : ApprovalSurface
  allowedExtensionIds : List String
  nativeHostName : String
  profileHint : Option String
deriving DecidableEq, Repr

structure LocalAccountDirBackendConfig where
  backendId : String
  instanceLabel : String
  approvalSurface : ApprovalSurface
deriving DecidableEq, Repr

inductive WalletBackendConfig
  | starmaskExtension (config : StarmaskExtensionBackendConfig)
  | localAccountDir (config : LocalAccountDirBackendConfig)
deriving DecidableEq, Repr

namespace WalletBackendConfig

def backendId : WalletBackendConfig → String
  | .starmaskExtension config => config.backendId
  | .localAccountDir config => config.backendId

def allowedCapabilities : WalletBackendConfig → List WalletCapability
  | .starmaskExtension _ => [.getPublicKey, .signMessage, .signTransaction]
  | .localAccountDir _ => [.unlock, .getPublicKey, .signMessage, .signTransaction, .createAccount,
      .exportAccount, .importAccount]

def asExtension : WalletBackendConfig → Option StarmaskExtensionBackendConfig
  | .starmaskExtension config => some config
  | .localAccountDir _ => none

def asLocalAccountDir : WalletBackendConfig → Option LocalAccountDirBackendConfig
  | .starmaskExtension _ => none
  | .localAccountDir config => some config

end WalletBackendConfig

structure ServerPolicy where
  walletBackends : List WalletBackendConfig
deriving DecidableEq, Repr

namespace ServerPolicy

def acceptsExtension (policy : ServerPolicy) (extensionId : String) :
    Option StarmaskExtensionBackendConfig :=
  (policy.walletBackends.filterMap WalletBackendConfig.asExtension).find? fun backend =>
    extensionId ∈ backend.allowedExtensionIds

def configuredBackend (policy : ServerPolicy) (walletInstanceId : WalletInstanceId) :
    Option WalletBackendConfig :=
  policy.walletBackends.find? fun backend => backend.backendId = walletInstanceId.value

def configuredLocalBackend (policy : ServerPolicy) (walletInstanceId : WalletInstanceId) :
    Option LocalAccountDirBackendConfig :=
  (policy.configuredBackend walletInstanceId).bind WalletBackendConfig.asLocalAccountDir

end ServerPolicy

/-! ## Parameters -/

/-- Parameters with the protocol version every one of them carries. -/
structure Versioned (α : Type) where
  protocolVersion : Nat
  params : α
deriving DecidableEq, Repr

/-- What `serde_json::from_value` returns for the parameters of a method. -/
abbrev Decoded (α : Type) := Except String (Versioned α)

structure NativeBridgeAccount where
  address : String
  label : Option String
  publicKey : Option String
  isDefault : Bool
deriving DecidableEq, Repr

structure BackendAccount where
  address : String
  label : Option String
  publicKey : Option String
  isDefault : Bool
  isReadOnly : Bool
  isLocked : Bool
deriving DecidableEq, Repr

structure ExtensionRegisterParams where
  walletInstanceId : WalletInstanceId
  extensionId : String
  extensionVersion : String
  profileHint : Option String
  lockState : LockState
  accountsSummary : List NativeBridgeAccount
deriving DecidableEq, Repr

structure ExtensionUpdateAccountsParams where
  walletInstanceId : WalletInstanceId
  lockState : LockState
  accounts : List NativeBridgeAccount
deriving DecidableEq, Repr

structure BackendRegisterParams where
  walletInstanceId : WalletInstanceId
  backendKind : BackendKind
  transportKind : TransportKind
  approvalSurface : ApprovalSurface
  instanceLabel : String
  lockState : LockState
  capabilities : List WalletCapability
  backendMetadata : JsonDocument
  accounts : List BackendAccount
deriving DecidableEq, Repr

structure BackendUpdateAccountsParams where
  walletInstanceId : WalletInstanceId
  lockState : LockState
  capabilities : List WalletCapability
  accounts : List BackendAccount
deriving DecidableEq, Repr

structure RequestResolveParams where
  walletInstanceId : WalletInstanceId
  requestId : RequestId
  presentationId : PresentationId
  resultKind : ResultKind
  signedTxnBcsHex : Option String
  signature : Option String
  createdAccountAddress : Option String
  createdAccountPublicKey : Option String
  createdAccountCurve : Option Curve
  createdAccountIsDefault : Option Bool
  createdAccountIsLocked : Option Bool
  exportedAccountAddress : Option String
  exportedAccountOutputFile : Option String
  importedAccountAddress : Option String
  importedAccountPublicKey : Option String
  importedAccountCurve : Option Curve
  importedAccountIsDefault : Option Bool
  importedAccountIsLocked : Option Bool
deriving DecidableEq, Repr

/-- A method and its parameters. Where the parameters are the fields of the command the method
sends, the command stands for them. -/
inductive DaemonCall
  | systemPing (params : Decoded Unit)
  | systemGetInfo (params : Decoded Unit)
  | walletStatus (params : Decoded Unit)
  | walletListInstances (params : Decoded Bool)
  | walletListAccounts (params : Decoded (Option WalletInstanceId × Bool))
  | walletGetPublicKey (params : Decoded (String × Option WalletInstanceId))
  | walletSetAccountLabel (params : Decoded SetAccountLabelCommand)
  | requestCreateAccount (params : Decoded CreateAccountCommand)
  | requestCreateExportAccount (params : Decoded CreateExportAccountCommand)
  | requestCreateImportAccount (params : Decoded CreateImportAccountCommand)
  | requestCreateSignTransaction (params : Decoded CreateSignTransactionCommand)
  | requestCreateSignMessage (params : Decoded CreateSignMessageCommand)
  | requestGetStatus (params : Decoded RequestId)
  | requestHasAvailable (params : Decoded WalletInstanceId)
  | requestCancel (params : Decoded RequestId)
  | extensionRegister (params : Decoded ExtensionRegisterParams)
  | extensionHeartbeat (params : Decoded HeartbeatExtensionCommand)
  | extensionUpdateAccounts (params : Decoded ExtensionUpdateAccountsParams)
  | backendRegister (params : Decoded BackendRegisterParams)
  | backendHeartbeat (params : Decoded HeartbeatBackendCommand)
  | backendUpdateAccounts (params : Decoded BackendUpdateAccountsParams)
  | requestPullNext (params : Decoded WalletInstanceId)
  | requestPresented (params : Decoded MarkRequestPresentedCommand)
  | requestResolve (params : Decoded RequestResolveParams)
  | requestReject (params : Decoded RejectRequestCommand)
  | other (method : String)

structure JsonRpcRequest where
  id : String
  call : DaemonCall

structure JsonRpcErrorResponse where
  id : String
  error : SharedError
deriving DecidableEq, Repr

inductive DaemonResult
  | response (response : CoordinatorResponse)
  | ack (ok : Bool)
  | extensionRegistered (walletInstanceId : WalletInstanceId) (daemonProtocolVersion : Nat)
      (accepted : Bool)
  | backendRegistered (walletInstanceId : WalletInstanceId) (daemonProtocolVersion : Nat) (accepted : Bool)
deriving DecidableEq, Repr

structure JsonRpcSuccess where
  id : String
  result : DaemonResult
deriving DecidableEq, Repr

/-! ## Errors -/

def SharedError.withRetryable (error : SharedError) (retryable : Bool) : SharedError :=
  { error with retryable := some retryable }

def errorResponse (id : Option String) (text : String) : JsonRpcErrorResponse :=
  ⟨id.getD "", SharedError.new .internalBridgeError text⟩

def statusName : RequestStatus → String
  | .created => "Created"
  | .dispatched => "Dispatched"
  | .pendingUserApproval => "PendingUserApproval"
  | .approved => "Approved"
  | .rejected => "Rejected"
  | .expired => "Expired"
  | .cancelled => "Cancelled"
  | .failed => "Failed"

/-- A failed command is answered without the id of its request. Errors that are not shared ones
are printed. -/
def mapRuntimeError : CoreError → JsonRpcErrorResponse
  | .shared error => ⟨"", error⟩
  | .repository (.storage message) => errorResponse none ("storage error: " ++ message)
  | .invalidStateTransition source target => errorResponse none
      ("invalid state transition from " ++ statusName source ++ " to " ++ statusName target)
  | .validation message => errorResponse none ("validation error: " ++ message)
  | .invariant message => errorResponse none ("internal invariant violated: " ++ message)

def decodeProtocolOneOf {α : Type} (id : String) (value : Decoded α) (expectedVersions : List Nat) :
    Except JsonRpcErrorResponse (Versioned α) :=
  match value with
  | .error text => .error (errorResponse (some id) text)
  | .ok params =>
    if params.protocolVersion ∉ expectedVersions then
      .error ⟨id, SharedError.new .protocolVersionMismatch
        ("Unsupported daemon protocol version " ++ toString params.protocolVersion)⟩
    else .ok params

def decodeProtocolExact {α : Type} (id : String) (value : Decoded α) (expected : Nat) :
    Except JsonRpcErrorResponse (Versioned α) := decodeProtocolOneOf id value [expected]

def genericBackendProtocolVersion : Nat := 3

def decodeProtocol {α : Type} (id : String) (value : Decoded α) :
    Except JsonRpcErrorResponse (Versioned α) :=
  decodeProtocolExact id value Coordinator.daemonProtocolVersion

def invalidRequestError (message : String) : SharedError :=
  (SharedError.new .invalidRequest message).withRetryable false

def requiredRequestField {α : Type} (value : Option α) (message : String) : Except SharedError α :=
  match value with
  | some a => .ok a
  | none => .error (invalidRequestError message)

def requestResultFromParams (params : RequestResolveParams) : Except SharedError RequestResult :=
  match params.resultKind with
  | .signedTransaction => do
    let signedTxnBcsHex ← requiredRequestField params.signedTxnBcsHex
      "signed_txn_bcs_hex is required for signed_transaction"
    pure (.signedTransaction signedTxnBcsHex)
  | .signedMessage => do
    let signature ← requiredRequestField params.signature "signature is required for signed_message"
    pure (.signedMessage signature)
  | .createdAccount => do
    let address ← requiredRequestField params.createdAccountAddress
      "created_account_address is required for created_account"
    let publicKey ← requiredRequestField params.createdAccountPublicKey
      "created_account_public_key is required for created_account"
    let curve ← requiredRequestField params.createdAccountCurve
      "created_account_curve is required for created_account"
    let isDefault ← requiredRequestField params.createdAccountIsDefault
      "created_account_is_default is required for created_account"
    let isLocked ← requiredRequestField params.createdAccountIsLocked
      "created_account_is_locked is required for created_account"
    pure (.createdAccount address publicKey curve isDefault isLocked)
  | .exportedAccount => do
    let address ← requiredRequestField params.exportedAccountAddress
      "exported_account_address is required for exported_account"
    let outputFile ← requiredRequestField params.exportedAccountOutputFile
      "exported_account_output_file is required for exported_account"
    pure (.exportedAccount address outputFile)
  | .importedAccount => do
    let address ← requiredRequestField params.importedAccountAddress
      "imported_account_address is required for imported_account"
    let publicKey ← requiredRequestField params.importedAccountPublicKey
      "imported_account_public_key is required for imported_account"
    let curve ← requiredRequestField params.importedAccountCurve
      "imported_account_curve is required for imported_account"
    let isDefault ← requiredRequestField params.importedAccountIsDefault
      "imported_account_is_default is required for imported_account"
    let isLocked ← requiredRequestField params.importedAccountIsLocked
      "imported_account_is_locked is required for imported_account"
    pure (.importedAccount address publicKey curve isDefault isLocked)
  | .none => .error (invalidRequestError "result_kind none is not valid for request.resolve")

/-! ## Accounts and registrations -/

def bridgeAccountToWalletAccount (walletInstanceId : WalletInstanceId) (lockState : LockState)
    (account : NativeBridgeAccount) : WalletAccountRecord where
  walletInstanceId := walletInstanceId
  address := account.address
  label := account.label
  publicKey := account.publicKey
  isDefault := account.isDefault
  isReadOnly := false
  isLocked := lockState ≠ .unlocked
  lastSeenAt := 0

def backendAccountToWalletAccount (walletInstanceId : WalletInstanceId) (account : BackendAccount) :
    WalletAccountRecord where
  walletInstanceId := walletInstanceId
  address := account.address
  label := account.label
  publicKey := account.publicKey
  isDefault := account.isDefault
  isReadOnly := account.isReadOnly
  isLocked := account.isLocked
  lastSeenAt := 0

def invalidBackendRegistration (message : String) : SharedError :=
  (SharedError.new .invalidBackendRegistration message).withRetryable false

def validateLocalBackendCapabilities (config : LocalAccountDirBackendConfig)
    (capabilities : List WalletCapability) : Except SharedError Unit :=
  match (canonicalCapabilities capabilities).find? fun capability =>
      capability ∉ (WalletBackendConfig.localAccountDir config).allowedCapabilities with
  | some capability =>
    .error (invalidBackendRegistration
      ("unsupported capability advertised: " ++ capabilityName capability))
  | none => .ok ()

/-- The document is an object; its text is the compact one `serde_json` writes. -/
def JsonDocument.isObject (document : JsonDocument) : Bool := document.text.startsWith "\x7b"

def validateGenericBackendRegistration (config : LocalAccountDirBackendConfig)
    (params : BackendRegisterParams) : Except SharedError Unit :=
  if params.backendKind ≠ .localAccountDir then
    .error (invalidBackendRegistration "backend_kind does not match the configured backend")
  else if params.transportKind ≠ .localSocket then
    .error (invalidBackendRegistration
      "transport_kind must be local_socket for generic backend registration")
  else if params.approvalSurface ≠ config.approvalSurface then
    .error (invalidBackendRegistration "approval_surface does not match the configured backend")
  else if Text.isBlank params.instanceLabel then
    .error (invalidBackendRegistration "instance_label cannot be empty")
  else if !params.backendMetadata.isObject then
    .error (invalidBackendRegistration "backend_metadata must be a JSON object")
  else if params.backendMetadata.text.utf8ByteSize > 4 * 1024 then
    .error (invalidBackendRegistration "backend_metadata exceeds the 4 KiB phase-2 limit")
  else validateLocalBackendCapabilities config params.capabilities

def backendNotAllowed : SharedError :=
  (SharedError.new .backendNotAllowed
    "wallet_instance_id is not configured as an enabled local backend").withRetryable false

def jsonField (name : String) (value : List Char) : List Char := JsonText.string name ++ ':' :: value

def extensionBackendMetadata (config : StarmaskExtensionBackendConfig) (params : ExtensionRegisterParams)
    (profileHint : Option String) : JsonDocument :=
  ⟨String.ofList ('{' :: (jsonField "backend_id" (JsonText.string config.backendId) ++
    ',' :: jsonField "extension_id" (JsonText.string params.extensionId) ++
    ',' :: jsonField "extension_version" (JsonText.string params.extensionVersion) ++
    ',' :: jsonField "native_host_name" (JsonText.string config.nativeHostName) ++
    ',' :: jsonField "profile_hint" ((profileHint.map JsonText.string).getD "null".toList) ++ ['}']))⟩

/-- The command of an accepted `extension.register`. -/
def extensionRegisterCommand (config : StarmaskExtensionBackendConfig)
    (versioned : Versioned ExtensionRegisterParams) : RegisterBackendCommand :=
  let params := versioned.params
  let profileHint := params.profileHint.or config.profileHint
  { walletInstanceId := params.walletInstanceId
    backendKind := .starmaskExtension
    transportKind := .nativeMessaging
    approvalSurface := .browserUi
    instanceLabel := params.profileHint.getD config.instanceLabel
    extensionId := params.extensionId
    extensionVersion := params.extensionVersion
    protocolVersion := versioned.protocolVersion
    capabilities := [.getPublicKey, .signMessage, .signTransaction]
    backendMetadata := extensionBackendMetadata config params profileHint
    profileHint := profileHint
    lockState := params.lockState
    accounts := params.accountsSummary.map
      (bridgeAccountToWalletAccount params.walletInstanceId params.lockState) }

/-- The command of a valid `backend.register`. -/
def backendRegisterCommand (versioned : Versioned BackendRegisterParams) : RegisterBackendCommand :=
  let params := versioned.params
  { walletInstanceId := params.walletInstanceId
    backendKind := params.backendKind
    transportKind := params.transportKind
    approvalSurface := params.approvalSurface
    instanceLabel := params.instanceLabel
    extensionId := ""
    extensionVersion := ""
    protocolVersion := versioned.protocolVersion
    capabilities := canonicalCapabilities params.capabilities
    backendMetadata := params.backendMetadata
    profileHint := none
    lockState := params.lockState
    accounts := params.accounts.map (backendAccountToWalletAccount params.walletInstanceId) }

/-! ## The dispatcher -/

abbrev ServerM := FailState Store JsonRpcErrorResponse

/-- The daemon: the coordinator it owns, its policy, and how a response is printed with `{:?}`. -/
structure Daemon where
  coordinator : Coordinator
  policy : ServerPolicy
  debug : CoordinatorResponse → String

namespace Daemon

def unexpectedResponse (d : Daemon) (response : CoordinatorResponse) : JsonRpcErrorResponse :=
  ⟨"", SharedError.new .internalBridgeError ("unexpected coordinator response: " ++ d.debug response)⟩

/-- `expect_response(handle.dispatch(command).await, …)`. -/
def expectResponse {α : Type} (d : Daemon) (env : Env) (command : CoordinatorCommand)
    (project : CoordinatorResponse → Option α) : ServerM α := fun s =>
  match d.coordinator.dispatch env command s with
  | (.error e, s') => (.error (mapRuntimeError e), s')
  | (.ok response, s') =>
    match project response with
    | some result => (.ok result, s')
    | none => (.error (d.unexpectedResponse response), s')

/-- The projection of a method that forwards the response. -/
def forward (p : CoordinatorResponse → Bool) (response : CoordinatorResponse) : Option DaemonResult :=
  if p response then some (.response response) else none

def acknowledge (p : CoordinatorResponse → Bool) (response : CoordinatorResponse) : Option DaemonResult :=
  if p response then some (.ack true) else none

def isAck : CoordinatorResponse → Bool
  | .ack => true
  | _ => false

/-- The projection of a registration, which builds its own result. -/
def onAck (result : DaemonResult) (response : CoordinatorResponse) : Option DaemonResult :=
  if isAck response then some result else none

def isRequestCreated : CoordinatorResponse → Bool
  | .requestCreated _ => true
  | _ => false

/-- A method that decodes its parameters and sends one command. -/
def forwardCommand {α : Type} (d : Daemon) (env : Env)
    (decoded : Except JsonRpcErrorResponse (Versioned α)) (command : α → CoordinatorCommand)
    (project : CoordinatorResponse → Option DaemonResult) : ServerM DaemonResult := do
  let versioned ← FailState.lift decoded
  d.expectResponse env (command versioned.params) project

def eitherVersion : List Nat := [Coordinator.daemonProtocolVersion, genericBackendProtocolVersion]

def extensionRegister (d : Daemon) (env : Env) (id : String) (value : Decoded ExtensionRegisterParams) :
    ServerM DaemonResult := do
  let versioned ← FailState.lift (decodeProtocol id value)
  match d.policy.acceptsExtension versioned.params.extensionId with
  | none =>
    pure (.extensionRegistered versioned.params.walletInstanceId Coordinator.daemonProtocolVersion false)
  | some config =>
    d.expectResponse env (.registerBackend (extensionRegisterCommand config versioned))
      (onAck (.extensionRegistered versioned.params.walletInstanceId
        Coordinator.daemonProtocolVersion true))

def extensionUpdateAccounts (d : Daemon) (env : Env) (id : String)
    (value : Decoded ExtensionUpdateAccountsParams) : ServerM DaemonResult :=
  d.forwardCommand env (decodeProtocol id value)
    (fun params => .updateExtensionAccounts ⟨params.walletInstanceId, params.lockState,
      params.accounts.map (bridgeAccountToWalletAccount params.walletInstanceId params.lockState)⟩)
    (acknowledge isAck)

def backendRegister (d : Daemon) (env : Env) (id : String) (value : Decoded BackendRegisterParams) :
    ServerM DaemonResult := do
  let versioned ← FailState.lift (decodeProtocolExact id value genericBackendProtocolVersion)
  match d.policy.configuredLocalBackend versioned.params.walletInstanceId with
  | none => FailState.throw ⟨id, backendNotAllowed⟩
  | some config => do
    FailState.lift ((validateGenericBackendRegistration config versioned.params).mapError
      (JsonRpcErrorResponse.mk id))
    d.expectResponse env (.registerBackend (backendRegisterCommand versioned))
      (onAck (.backendRegistered versioned.params.walletInstanceId genericBackendProtocolVersion true))

def backendHeartbeat (d : Daemon) (env : Env) (id : String) (value : Decoded HeartbeatBackendCommand) :
    ServerM DaemonResult := do
  let versioned ← FailState.lift (decodeProtocolExact id value genericBackendProtocolVersion)
  match d.policy.configuredLocalBackend versioned.params.walletInstanceId with
  | none => FailState.throw ⟨id, backendNotAllowed⟩
  | some _ => d.expectResponse env (.heartbeatBackend versioned.params) (acknowledge isAck)

def backendUpdateAccounts (d : Daemon) (env : Env) (id : String)
    (value : Decoded BackendUpdateAccountsParams) : ServerM DaemonResult := do
  let versioned ← FailState.lift (decodeProtocolExact id value genericBackendProtocolVersion)
  let params := versioned.params
  match d.policy.configuredLocalBackend params.walletInstanceId with
  | none => FailState.throw ⟨id, backendNotAllowed⟩
  | some config => do
    FailState.lift ((validateLocalBackendCapabilities config params.capabilities).mapError
      (JsonRpcErrorResponse.mk id))
    d.expectResponse env (.updateBackendAccounts ⟨params.walletInstanceId, params.lockState,
      canonicalCapabilities params.capabilities,
      params.accounts.map (backendAccountToWalletAccount params.walletInstanceId)⟩) (acknowledge isAck)

def requestResolve (d : Daemon) (env : Env) (id : String) (value : Decoded RequestResolveParams) :
    ServerM DaemonResult := do
  let versioned ← FailState.lift (decodeProtocolOneOf id value eitherVersion)
  let params := versioned.params
  let result ← FailState.lift ((requestResultFromParams params).mapError (JsonRpcErrorResponse.mk id))
  d.expectResponse env (.resolveRequest ⟨params.requestId, params.walletInstanceId,
    params.presentationId, result⟩)
    (acknowledge fun | .requestResolved _ => true | _ => false)

def dispatchCall (d : Daemon) (env : Env) (id : String) : DaemonCall → ServerM DaemonResult
  | .systemPing value => d.forwardCommand env (decodeProtocol id value) (fun _ => .systemPing)
      (forward fun | .systemPing _ => true | _ => false)
  | .systemGetInfo value => d.forwardCommand env (decodeProtocol id value) (fun _ => .systemGetInfo)
      (forward fun | .systemInfo _ => true | _ => false)
  | .walletStatus value => d.forwardCommand env (decodeProtocol id value) (fun _ => .walletStatus)
      (forward fun | .walletStatus _ => true | _ => false)
  | .walletListInstances value => d.forwardCommand env (decodeProtocol id value) .walletListInstances
      (forward fun | .walletInstances _ => true | _ => false)
  | .walletListAccounts value => d.forwardCommand env (decodeProtocol id value)
      (fun params => .walletListAccounts params.1 params.2)
      (forward fun | .walletAccounts _ => true | _ => false)
  | .walletGetPublicKey value => d.forwardCommand env (decodeProtocol id value)
      (fun params => .walletGetPublicKey params.1 params.2)
      (forward fun | .walletPublicKey _ => true | _ => false)
  | .walletSetAccountLabel value => d.forwardCommand env (decodeProtocol id value)
      .walletSetAccountLabel (forward fun | .walletAccountLabelSet _ => true | _ => false)
  | .requestCreateAccount value => d.forwardCommand env (decodeProtocol id value) .createAccount
      (forward isRequestCreated)
  | .requestCreateExportAccount value => d.forwardCommand env (decodeProtocol id value)
      .createExportAccount (forward isRequestCreated)
  | .requestCreateImportAccount value => d.forwardCommand env (decodeProtocol id value)
      .createImportAccount (forward isRequestCreated)
  | .requestCreateSignTransaction value => d.forwardCommand env (decodeProtocol id value)
      .createSignTransaction (forward isRequestCreated)
  | .requestCreateSignMessage value => d.forwardCommand env (decodeProtocol id value)
      .createSignMessage (forward isRequestCreated)
  | .requestGetStatus value => d.forwardCommand env (decodeProtocol id value) .getRequestStatus
      (forward fun | .requestStatus _ => true | _ => false)
  | .requestHasAvailable value => d.forwardCommand env (decodeProtocolOneOf id value eitherVersion)
      .requestHasAvailable (forward fun | .requestHasAvailable _ => true | _ => false)
  | .requestCancel value => d.forwardCommand env (decodeProtocol id value) .cancelRequest
      (forward fun | .requestCancelled _ => true | _ => false)
  | .extensionRegister value => d.extensionRegister env id value
  | .extensionHeartbeat value => d.forwardCommand env (decodeProtocol id value) .heartbeatExtension
      (acknowledge isAck)
  | .extensionUpdateAccounts value => d.extensionUpdateAccounts env id value
  | .backendRegister value => d.backendRegister env id value
  | .backendHeartbeat value => d.backendHeartbeat env id value
  | .backendUpdateAccounts value => d.backendUpdateAccounts env id value
  | .requestPullNext value => d.forwardCommand env (decodeProtocolOneOf id value eitherVersion)
      .pullNextRequest (forward fun | .pullNextRequest _ => true | _ => false)
  | .requestPresented value => d.forwardCommand env (decodeProtocolOneOf id value eitherVersion)
      .markRequestPresented (acknowledge fun | .requestPresented _ => true | _ => false)
  | .requestResolve value => d.requestResolve env id value
  | .requestReject value => d.forwardCommand env (decodeProtocolOneOf id value eitherVersion)
      .rejectRequest (acknowledge fun | .requestRejected _ => true | _ => false)
  | .other method => FailState.throw ⟨id, (SharedError.new .unsupportedOperation
      ("Unsupported daemon method: " ++ method)).withRetryable false⟩

def dispatchRequest (d : Daemon) (env : Env) (request : JsonRpcRequest) : ServerM JsonRpcSuccess := do
  let result ← d.dispatchCall env request.id request.call
  pure ⟨request.id, result⟩

end Daemon

end StarcoinMcp.Starmask
