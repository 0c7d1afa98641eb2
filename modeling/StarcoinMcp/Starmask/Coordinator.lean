import StarcoinMcp.Lib.FailState
import StarcoinMcp.Starmask.Commands
import StarcoinMcp.Starmask.PayloadHash

/-! The coordinator: one function for each method of `Coordinator`, over the store
it owns. A method that only reads is a function of the store; a method that writes
is a `CoreM`, so what it wrote before an error stays written. `env.now i` is the
`i`-th reading of the clock within one command. -/

namespace StarcoinMcp.Starmask

structure Coordinator where
  config : CoordinatorConfig
  policy : PolicyEngine
  sha256 : ByteArray → PayloadHash

abbrev CoreM := FailState Store CoreError

/-- A read-only method, with the store as it is at this point. -/
def reading {α : Type} (f : Store → CoreResult α) : CoreM α := fun s => (f s, s)

/-- A call of the repository, in its own transaction. -/
def storeCall {α : Type} (f : Store → Except RepositoryError (α × Store)) : CoreM α :=
  FailState.call fun s => (f s).mapError CoreError.repository

def updateRequest (request : RequestRecord) : CoreM RequestRecord :=
  storeCall fun s => s.updateRequest request

/-! ## Free functions on one record -/

def transitionRequest (request : RequestRecord) (next : RequestStatus) (now : TimestampMs) :
    CoreResult RequestRecord :=
  if request.status = next then .ok request
  else if !request.status.canTransitionTo next then .error (.invalidStateTransition request.status next)
  else .ok { request with status := next, updatedAt := now }

def validateDeliveryLease (request : RequestRecord) (deliveryLeaseId : DeliveryLeaseId)
    (now : TimestampMs) : CoreResult Unit :=
  match request.deliveryLease with
  | none => .error (sharedError .leaseMismatch "request does not have an active delivery lease")
  | some lease =>
    if lease.deliveryLeaseId ≠ deliveryLeaseId then
      .error (sharedError .leaseMismatch "delivery lease does not match the active claim")
    else if lease.deliveryLeaseExpiresAt ≤ now then
      .error (sharedError .leaseMismatch "delivery lease already expired")
    else .ok ()

def validatePresentation (request : RequestRecord) (presentationId : PresentationId)
    (now : TimestampMs) : CoreResult Unit :=
  if request.status ≠ .pendingUserApproval then
    .error (.invalidStateTransition request.status .approved)
  else match request.presentation with
    | none => .error (sharedError .leaseMismatch "request does not have an active presentation lease")
    | some presentation =>
      if presentation.presentationId ≠ presentationId then
        .error (sharedError .leaseMismatch
          "presentation id does not match the active request presentation")
      else if presentation.presentationExpiresAt ≤ now then
        .error (sharedError .leaseMismatch "presentation lease already expired")
      else .ok ()

def resultKindName : ResultKind → String
  | .signedTransaction => "SignedTransaction"
  | .signedMessage => "SignedMessage"
  | .createdAccount => "CreatedAccount"
  | .exportedAccount => "ExportedAccount"
  | .importedAccount => "ImportedAccount"
  | .none => "None"

def validateRequestResult (request : RequestRecord) (result : RequestResult) : CoreResult Unit :=
  if request.kind.expectedResultKind ≠ result.resultKind then
    .error (.validation ("request expects result kind " ++
      resultKindName request.kind.expectedResultKind ++ " but received " ++
      resultKindName result.resultKind))
  else .ok ()

def mapRejectReason : RejectReasonCode → RequestStatus × SharedErrorCode × String
  | .requestRejected => (.rejected, .requestRejected, "Request rejected by user")
  | .requestExpired => (.expired, .requestExpired, "Request expired before approval completed")
  | .walletLocked => (.failed, .walletLocked, "Wallet became locked before signing completed")
  | .unsupportedOperation =>
    (.failed, .unsupportedOperation, "Wallet cannot safely approve this operation")
  | .invalidTransactionPayload =>
    (.failed, .invalidTransactionPayload, "Wallet rejected an invalid transaction payload")
  | .invalidMessagePayload =>
    (.failed, .invalidMessagePayload, "Wallet rejected an invalid message payload")
  | .backendUnavailable =>
    (.failed, .backendUnavailable, "Backend became unavailable before signing completed")
  | .backendPolicyBlocked => (.failed, .backendPolicyBlocked, "Backend policy blocked the request")
  | .internalError => (.failed, .internalBridgeError, "Wallet failed to complete the request")

def addLease (now : TimestampMs) (ttl : DurationSeconds) (overflow : String) : CoreResult TimestampMs :=
  match checkedAddSeconds now ttl with
  | some t => .ok t
  | none => .error (.invariant overflow)

def projectRequestSummary (request : RequestRecord) : CreateRequestResult where
  requestId := request.requestId
  clientRequestId := request.clientRequestId
  kind := request.kind
  status := request.status
  walletInstanceId := request.walletInstanceId
  createdAt := request.createdAt
  expiresAt := request.expiresAt

def projectRequestStatus (request : RequestRecord) : GetRequestStatusResult where
  requestId := request.requestId
  clientRequestId := request.clientRequestId
  kind := request.kind
  status := request.status
  walletInstanceId := request.walletInstanceId
  createdAt := request.createdAt
  expiresAt := request.expiresAt
  resultKind := (request.result.map RequestResult.resultKind).getD request.kind.expectedResultKind
  resultAvailable := request.result.isSome
  resultExpiresAt := request.resultExpiresAt
  errorCode := request.lastErrorCode
  errorMessage := request.lastErrorMessage
  result := request.result

def RequestPayload.displayHint : RequestPayload → Option String
  | .signTransaction p => p.displayHint
  | .signMessage p => p.displayHint
  | .createAccount p => p.displayHint
  | .exportAccount p => p.displayHint
  | .importAccount p => p.displayHint

def RequestPayload.clientContext : RequestPayload → Option String
  | .signTransaction p => p.clientContext
  | .signMessage p => p.clientContext
  | .createAccount p => p.clientContext
  | .exportAccount p => p.clientContext
  | .importAccount p => p.clientContext

def projectPulledRequest (request : RequestRecord) (resumeRequired : Bool) : PulledRequest where
  requestId := request.requestId
  clientRequestId := request.clientRequestId
  kind := request.kind
  accountAddress := request.accountAddress
  payloadHash := request.payloadHash
  displayHint := request.payload.displayHint
  clientContext := request.payload.clientContext
  resumeRequired := resumeRequired
  deliveryLeaseId :=
    if !resumeRequired then request.deliveryLease.map DeliveryLease.deliveryLeaseId else none
  leaseExpiresAt :=
    if !resumeRequired then request.deliveryLease.map DeliveryLease.deliveryLeaseExpiresAt else none
  presentationId :=
    if resumeRequired then request.presentation.map PresentationLease.presentationId else none
  presentationExpiresAt :=
    if resumeRequired then request.presentation.map PresentationLease.presentationExpiresAt else none
  rawTxnBcsHex := match request.payload with | .signTransaction p => some p.rawTxnBcsHex | _ => none
  message := match request.payload with | .signMessage p => some p.message | _ => none
  messageFormat := match request.payload with | .signMessage p => some p.format | _ => none
  outputFile := match request.payload with | .exportAccount p => some p.outputFile | _ => none
  force := match request.payload with | .exportAccount p => p.force | _ => false
  privateKeyFile := match request.payload with | .importAccount p => some p.privateKeyFile | _ => none

/-! ## Wallet lookups and routing -/

def capabilityForRequest : RequestKind → WalletCapability
  | .signTransaction => .signTransaction
  | .signMessage => .signMessage
  | .createAccount => .createAccount
  | .exportAccount => .exportAccount
  | .importAccount => .importAccount

def capabilityName : WalletCapability → String
  | .unlock => "Unlock"
  | .getPublicKey => "GetPublicKey"
  | .signMessage => "SignMessage"
  | .signTransaction => "SignTransaction"
  | .createAccount => "CreateAccount"
  | .exportAccount => "ExportAccount"
  | .importAccount => "ImportAccount"

def capabilityRank : WalletCapability → Nat
  | .unlock => 0
  | .getPublicKey => 1
  | .signMessage => 2
  | .signTransaction => 3
  | .createAccount => 4
  | .exportAccount => 5
  | .importAccount => 6

def canonicalCapabilities (capabilities : List WalletCapability) : List WalletCapability :=
  (capabilities.insertionSort fun a b => capabilityRank a ≤ capabilityRank b).dedup

def requireWalletInstance (walletInstanceId : WalletInstanceId) (s : Store) :
    CoreResult WalletInstanceRecord :=
  match s.getWalletInstance walletInstanceId with
  | some wallet => .ok wallet
  | none => .error (sharedError .walletInstanceNotFound "Wallet instance was not found")

def requireOwnedRequest (requestId : RequestId) (walletInstanceId : WalletInstanceId) (s : Store) :
    CoreResult RequestRecord :=
  match s.getRequest requestId with
  | none => .error (sharedError .requestNotFound "Request not found")
  | some request =>
    if request.walletInstanceId ≠ walletInstanceId then
      .error (sharedError .requestNotOwned "wallet instance does not own this request")
    else .ok request

/-- The instances that expose the address: sorted, then without neighbours that repeat. -/
def exposingInstances (accounts : List WalletAccountRecord) (address : String) : List WalletInstanceId :=
  (((accounts.filter fun a => a.address = address).map
    WalletAccountRecord.walletInstanceId).insertionSort (fun a b => a.value ≤ b.value)).destutter (· ≠ ·)

/-- The instance of an account when the caller names none. -/
def selectInstance (accounts : List WalletAccountRecord) (address : String) : CoreResult WalletInstanceId :=
  match exposingInstances accounts address with
  | [] => .error (sharedError .invalidAccount "Account is not exposed by any known wallet instance")
  | [walletInstanceId] => .ok walletInstanceId
  | _ => .error (sharedError .walletSelectionRequired
      "Multiple wallet instances expose the requested account")

def resolveWalletInstanceForAccount (address : String) (walletInstanceId : Option WalletInstanceId)
    (s : Store) : CoreResult WalletInstanceId :=
  match walletInstanceId with
  | some walletInstanceId =>
    if (s.getWalletAccount walletInstanceId address).isNone then
      .error (sharedError .invalidAccount "Account is not exposed by the selected wallet instance")
    else .ok walletInstanceId
  | none => selectInstance (s.listWalletAccounts none) address

def unsupportedCapability (capability : WalletCapability) : CoreError :=
  sharedError .unsupportedOperation
    ("Selected wallet instance does not support " ++ capabilityName capability)

def resolveWalletForSigning (kind : RequestKind) (address : String)
    (walletInstanceId : Option WalletInstanceId) (s : Store) : CoreResult WalletInstanceId := do
  let selected ← resolveWalletInstanceForAccount address walletInstanceId s
  let wallet ← requireWalletInstance selected s
  if capabilityForRequest kind ∉ wallet.capabilities then
    throw (unsupportedCapability (capabilityForRequest kind))
  if !wallet.connected then
    throw (sharedError .walletUnavailable "Selected wallet instance is not connected")
  if wallet.lockState ≠ .unlocked ∧ WalletCapability.unlock ∉ wallet.capabilities then
    throw (sharedError .walletLocked "Selected wallet instance is locked")
  match s.getWalletAccount selected address with
  | none =>
    throw (sharedError .invalidAccount "Account is not exposed by the selected wallet instance")
  | some account =>
    if account.isReadOnly then
      throw (sharedError .unsupportedOperation "Selected account is read-only and cannot sign")
    pure selected

def resolveWalletForRequest (kind : RequestKind) (address : String)
    (walletInstanceId : Option WalletInstanceId) (s : Store) : CoreResult WalletInstanceId :=
  match kind with
  | .createAccount | .importAccount =>
    match walletInstanceId with
    | none => .error (sharedError .walletSelectionRequired
        "wallet_instance_id is required for wallet mutation requests")
    | some walletInstanceId => do
      let wallet ← requireWalletInstance walletInstanceId s
      if capabilityForRequest kind ∉ wallet.capabilities then
        throw (unsupportedCapability (capabilityForRequest kind))
      if !wallet.connected then
        throw (sharedError .walletUnavailable "Selected wallet instance is not connected")
      pure walletInstanceId
  | .signTransaction | .signMessage | .exportAccount =>
    resolveWalletForSigning kind address walletInstanceId s

namespace Coordinator

/-! ## System and wallet queries -/

def daemonProtocolVersion : Nat := 2

def systemPing (c : Coordinator) : SystemPingResult :=
  ⟨true, daemonProtocolVersion, c.config.daemonVersion⟩

def systemGetInfo (c : Coordinator) : SystemGetInfoResult where
  daemonProtocolVersion := daemonProtocolVersion
  daemonVersion := c.config.daemonVersion
  socketScope := c.config.socketScope
  dbSchemaVersion := c.config.dbSchemaVersion
  resultRetentionSeconds := c.config.resultRetention
  defaultRequestTtlSeconds := c.config.defaultRequestTtl

def instanceSummary (w : WalletInstanceRecord) : WalletInstanceSummary :=
  ⟨w.walletInstanceId, w.connected, w.lockState, w.profileHint, w.lastSeenAt⟩

def accountSummary (a : WalletAccountRecord) : WalletAccountSummary :=
  ⟨a.address, a.label, a.publicKey, a.isDefault, a.isReadOnly, a.isLocked⟩

def walletStatus (env : Env) (s : Store) : WalletStatusResult :=
  let instances := s.listWalletInstances env.instanceScan false
  { walletAvailable := !instances.isEmpty
    walletOnline := instances.any WalletInstanceRecord.connected
    defaultWalletInstanceId :=
      ((instances.find? fun w => w.connected ∧ w.lockState = .unlocked).or
        (instances.find? WalletInstanceRecord.connected)).map WalletInstanceRecord.walletInstanceId
    walletInstances := instances.map instanceSummary }

def walletListInstances (env : Env) (connectedOnly : Bool) (s : Store) : List WalletInstanceSummary :=
  (s.listWalletInstances env.instanceScan connectedOnly).map instanceSummary

def walletListAccounts (c : Coordinator) (env : Env) (walletInstanceId : Option WalletInstanceId)
    (includePublicKey : Bool) (s : Store) : CoreResult (List WalletAccountGroup) := do
  c.policy.checkAccountListing
  let accounts := s.listWalletAccounts walletInstanceId
  let instances := (s.listWalletInstances env.instanceScan false).filter fun w =>
    walletInstanceId.all fun target => w.walletInstanceId = target
  pure (instances.map fun w =>
    { walletInstanceId := w.walletInstanceId
      instanceLabel := w.instanceLabel
      extensionConnected := w.connected
      lockState := w.lockState
      accounts := (accounts.filter fun a => a.walletInstanceId = w.walletInstanceId).map fun a =>
        { accountSummary a with publicKey := if includePublicKey then a.publicKey else none } })

def walletGetPublicKey (c : Coordinator) (address : String)
    (walletInstanceId : Option WalletInstanceId) (s : Store) : CoreResult WalletGetPublicKeyResult := do
  c.policy.checkPublicKeyLookup address
  let selected ← resolveWalletInstanceForAccount address walletInstanceId s
  let wallet ← requireWalletInstance selected s
  match s.getWalletAccount selected address with
  | none => throw (sharedError .invalidAccount "Account not found")
  | some account =>
    match account.publicKey with
    | some publicKey => pure ⟨selected, address, publicKey, .ed25519⟩
    | none =>
      if wallet.lockState = .locked then
        throw (sharedError .walletLocked "Wallet is locked and no cached public key is available")
      else throw (sharedError .resultUnavailable "Public key is not cached for this account")

def walletSetAccountLabel (env : Env) (command : SetAccountLabelCommand) :
    CoreM WalletSetAccountLabelResult := do
  let wallet ← reading fun s => match s.getWalletInstance command.walletInstanceId with
    | some wallet => .ok wallet
    | none => .error (sharedError .walletInstanceNotFound
        ("wallet instance " ++ command.walletInstanceId.value ++ " was not found"))
  if wallet.backendKind ≠ .localAccountDir then
    FailState.throw (sharedError .unsupportedOperation ("wallet instance " ++
      command.walletInstanceId.value ++ " does not support daemon-managed account labels"))
  else if (Text.trim command.label).isEmpty then
    FailState.throw (sharedError .invalidAccount "account label cannot be empty")
  else do
    let account ← FailState.read fun s => s.getWalletAccount command.walletInstanceId command.address
    if account.isNone then
      FailState.throw (sharedError .invalidAccount ("account " ++ command.address ++ " was not found"))
    else do
      let account ← storeCall fun s => s.setWalletAccountLabel command.walletInstanceId command.address
        (Text.trim command.label) env.currentTimestampMs
      pure ⟨command.walletInstanceId, accountSummary account⟩

/-! ## Creating requests -/

def clampTtl (c : Coordinator) (ttlSeconds : Option DurationSeconds) : DurationSeconds :=
  min (max (ttlSeconds.getD c.config.defaultRequestTtl) c.config.minRequestTtl) c.config.maxRequestTtl

/-- What the five create methods hand to `create_request`. -/
structure CreateRequestArgs where
  clientRequestId : ClientRequestId
  accountAddress : String
  walletInstanceId : Option WalletInstanceId
  kind : RequestKind
  payload : RequestPayload
  ttlSeconds : Option DurationSeconds
deriving DecidableEq, Repr

def newRequest (args : CreateRequestArgs) (payloadHash : PayloadHash) (requestId : RequestId)
    (walletInstanceId : WalletInstanceId) (now expiresAt : TimestampMs) : RequestRecord where
  requestId := requestId
  clientRequestId := args.clientRequestId
  kind := args.kind
  status := .created
  walletInstanceId := walletInstanceId
  accountAddress := args.accountAddress
  payloadHash := payloadHash
  payload := args.payload
  result := none
  createdAt := now
  expiresAt := expiresAt
  updatedAt := now
  approvedAt := none
  rejectedAt := none
  cancelledAt := none
  failedAt := none
  resultExpiresAt := none
  lastErrorCode := none
  lastErrorMessage := none
  rejectReasonCode := none
  deliveryLease := none
  presentation := none

/-- The stored request is the one the arguments ask for. -/
def sameRequest (c : Coordinator) (args : CreateRequestArgs) (existing : RequestRecord) : Bool :=
  existing.payloadHash = calculatePayloadHash c.sha256 args.payload ∧
    existing.accountAddress = args.accountAddress ∧
    args.walletInstanceId.all fun requested => requested = existing.walletInstanceId

def createRequest (c : Coordinator) (env : Env) (args : CreateRequestArgs) :
    CoreM CreateRequestResult := do
  let payloadHash := calculatePayloadHash c.sha256 args.payload
  match ← FailState.read fun s => s.getRequestByClientRequestId args.clientRequestId with
  | some existing =>
    if c.sameRequest args existing then pure (projectRequestSummary existing)
    else FailState.throw (sharedError .idempotencyKeyConflict
      "client_request_id already exists with a different payload or signing target")
  | none => do
    let selected ← reading (resolveWalletForRequest args.kind args.accountAddress args.walletInstanceId)
    let now := env.now 0
    let expiresAt ← FailState.lift
      (addLease now (c.clampTtl args.ttlSeconds) "request expiration overflowed timestamp range")
    let requestId ← FailState.lift env.newRequestId
    let request ← storeCall fun s =>
      s.insertRequest (newRequest args payloadHash requestId selected now expiresAt)
    pure (projectRequestSummary request)

def signTransactionArgs (command : CreateSignTransactionCommand) : CreateRequestArgs where
  clientRequestId := command.clientRequestId
  accountAddress := command.accountAddress
  walletInstanceId := command.walletInstanceId
  kind := .signTransaction
  payload := .signTransaction ⟨command.chainId, command.rawTxnBcsHex, command.txKind,
    command.displayHint, command.clientContext⟩
  ttlSeconds := command.ttlSeconds

def createAccountArgs (command : CreateAccountCommand) : CreateRequestArgs where
  clientRequestId := command.clientRequestId
  accountAddress := ""
  walletInstanceId := some command.walletInstanceId
  kind := .createAccount
  payload := .createAccount ⟨command.displayHint, command.clientContext⟩
  ttlSeconds := command.ttlSeconds

def exportAccountArgs (command : CreateExportAccountCommand) : CreateRequestArgs where
  clientRequestId := command.clientRequestId
  accountAddress := command.accountAddress
  walletInstanceId := command.walletInstanceId
  kind := .exportAccount
  payload := .exportAccount ⟨command.outputFile, command.force, command.displayHint,
    command.clientContext⟩
  ttlSeconds := command.ttlSeconds

def importAccountArgs (command : CreateImportAccountCommand) : CreateRequestArgs where
  clientRequestId := command.clientRequestId
  accountAddress := command.accountAddress
  walletInstanceId := some command.walletInstanceId
  kind := .importAccount
  payload := .importAccount ⟨command.privateKeyFile, command.displayHint, command.clientContext⟩
  ttlSeconds := command.ttlSeconds

def signMessageArgs (command : CreateSignMessageCommand) : CreateRequestArgs where
  clientRequestId := command.clientRequestId
  accountAddress := command.accountAddress
  walletInstanceId := command.walletInstanceId
  kind := .signMessage
  payload := .signMessage ⟨command.message, command.format, command.displayHint,
    command.clientContext⟩
  ttlSeconds := command.ttlSeconds

def createSignTransactionRequest (c : Coordinator) (env : Env)
    (command : CreateSignTransactionCommand) : CoreM CreateRequestResult := do
  FailState.lift (c.policy.checkCreateSignTransaction command)
  c.createRequest env (signTransactionArgs command)

def createAccountRequest (c : Coordinator) (env : Env) (command : CreateAccountCommand) :
    CoreM CreateRequestResult := do
  FailState.lift (c.policy.checkCreateAccount command)
  c.createRequest env (createAccountArgs command)

def createExportAccountRequest (c : Coordinator) (env : Env) (command : CreateExportAccountCommand) :
    CoreM CreateRequestResult := do
  FailState.lift (c.policy.checkCreateExportAccount command)
  c.createRequest env (exportAccountArgs command)

def createImportAccountRequest (c : Coordinator) (env : Env) (command : CreateImportAccountCommand) :
    CoreM CreateRequestResult := do
  FailState.lift (c.policy.checkCreateImportAccount command)
  if Text.isBlank command.accountAddress then
    FailState.throw (sharedError .invalidAccount "account_address is required for import requests")
  else c.createRequest env (importAccountArgs command)

def createSignMessageRequest (c : Coordinator) (env : Env) (command : CreateSignMessageCommand) :
    CoreM CreateRequestResult := do
  FailState.lift (c.policy.checkCreateSignMessage command)
  c.createRequest env (signMessageArgs command)

/-! ## Reading and cancelling requests -/

def getRequestStatus (requestId : RequestId) (s : Store) : CoreResult GetRequestStatusResult :=
  match s.getRequest requestId with
  | none => .error (sharedError .requestNotFound "Request not found")
  | some request => .ok (projectRequestStatus request)

def requestHasAvailable (env : Env) (walletInstanceId : WalletInstanceId) (s : Store) :
    RequestHasAvailableResult :=
  ⟨walletInstanceId, (s.listNonTerminalRequests env.requestScan).any fun r =>
    r.walletInstanceId = walletInstanceId ∧ (r.status = .created ∨ r.status = .pendingUserApproval)⟩

def cancelledRecord (env : Env) (request : RequestRecord) : CoreResult RequestRecord := do
  let request ← transitionRequest request .cancelled (env.now 0)
  pure { request with
    cancelledAt := some (env.now 1)
    lastErrorCode := some .requestCancelled
    lastErrorMessage := some "Request cancelled by caller"
    deliveryLease := none
    presentation := none }

def cancelRequest (env : Env) (requestId : RequestId) : CoreM CancelRequestResult := do
  match ← FailState.read fun s => s.getRequest requestId with
  | none => FailState.throw (sharedError .requestNotFound "Request not found")
  | some request =>
    if request.status.isTerminal then
      pure ⟨request.requestId, request.status, request.lastErrorCode⟩
    else do
      let request ← FailState.lift (cancelledRecord env request)
      let request ← updateRequest request
      pure ⟨request.requestId, request.status, request.lastErrorCode⟩

/-! ## Backend sessions -/

def stampAccounts (now : TimestampMs) (accounts : List WalletAccountRecord) : List WalletAccountRecord :=
  accounts.map fun a => { a with lastSeenAt := now }

def replaceWalletAccounts (env : Env) (walletInstanceId : WalletInstanceId)
    (accounts : List WalletAccountRecord) : CoreM Unit :=
  storeCall fun s => (s.replaceWalletAccounts walletInstanceId accounts env.currentTimestampMs).map
    fun s => ((), s)

def upsertWalletInstance (walletInstance : WalletInstanceRecord) : CoreM Unit :=
  fun s => (.ok (), s.upsertWalletInstance walletInstance)

def registerBackend (env : Env) (command : RegisterBackendCommand) : CoreM Unit := do
  reading fun s => match s.getWalletInstance command.walletInstanceId with
    | some existing =>
      if existing.backendKind ≠ command.backendKind then
        .error (sharedError .invalidBackendRegistration
          "wallet_instance_id is already registered for a different backend kind")
      else .ok ()
    | none => .ok ()
  let now := env.now 0
  upsertWalletInstance
    { walletInstanceId := command.walletInstanceId
      backendKind := command.backendKind
      transportKind := command.transportKind
      approvalSurface := command.approvalSurface
      instanceLabel := command.instanceLabel
      extensionId := command.extensionId
      extensionVersion := command.extensionVersion
      protocolVersion := command.protocolVersion
      capabilities := canonicalCapabilities command.capabilities
      backendMetadata := command.backendMetadata
      profileHint := command.profileHint
      lockState := command.lockState
      connected := true
      lastSeenAt := now }
  replaceWalletAccounts env command.walletInstanceId (stampAccounts now command.accounts)

def extensionCapabilities : List WalletCapability := [.getPublicKey, .signMessage, .signTransaction]

def extensionMetadata (command : RegisterExtensionCommand) : JsonDocument :=
  ⟨String.ofList (JsonText.compact (.obj
    (.cons "extension_id" (.str command.extensionId)
      (.cons "extension_version" (.str command.extensionVersion)
        (optionalField "profile_hint" command.profileHint .nil)))))⟩

def registerExtension (env : Env) (command : RegisterExtensionCommand) : CoreM Unit :=
  registerBackend env
    { walletInstanceId := command.walletInstanceId
      backendKind := .starmaskExtension
      transportKind := .nativeMessaging
      approvalSurface := .browserUi
      instanceLabel := command.profileHint.getD command.walletInstanceId.value
      extensionId := command.extensionId
      extensionVersion := command.extensionVersion
      protocolVersion := command.protocolVersion
      capabilities := extensionCapabilities
      backendMetadata := extensionMetadata command
      profileHint := command.profileHint
      lockState := command.lockState
      accounts := command.accounts }

/-- One round of the heartbeat loop: the presentation lease is extended whatever its old expiry. -/
def heartbeatRequest (walletInstanceId : WalletInstanceId) (now presentationExpiresAt : TimestampMs)
    (requestId : RequestId) : CoreM Unit := do
  match ← FailState.read fun s => s.getRequest requestId with
  | none => pure ()
  | some request =>
    if request.walletInstanceId ≠ walletInstanceId ∨ request.status ≠ .pendingUserApproval then pure ()
    else match request.presentation with
      | none => pure ()
      | some presentation => do
        let _ ← updateRequest { request with
          presentation := some { presentation with presentationExpiresAt := presentationExpiresAt }
          updatedAt := now }
        pure ()

def heartbeatBackend (c : Coordinator) (env : Env) (command : HeartbeatBackendCommand) : CoreM Unit := do
  let wallet ← reading (requireWalletInstance command.walletInstanceId)
  let now := env.now 0
  upsertWalletInstance { wallet with
    connected := true
    lastSeenAt := now
    lockState := command.lockState.getD wallet.lockState }
  if command.presentedRequestIds.isEmpty then pure ()
  else do
    let presentationExpiresAt ← FailState.lift
      (addLease now c.config.presentationLeaseTtl "presentation lease timestamp overflow")
    command.presentedRequestIds.forM
      (heartbeatRequest command.walletInstanceId now presentationExpiresAt)

def heartbeatExtension (c : Coordinator) (env : Env) (command : HeartbeatExtensionCommand) : CoreM Unit :=
  c.heartbeatBackend env ⟨command.walletInstanceId, command.presentedRequestIds, none⟩

def updateBackendAccounts (env : Env) (command : UpdateBackendAccountsCommand) : CoreM Unit := do
  let now := env.now 0
  let wallet ← reading (requireWalletInstance command.walletInstanceId)
  upsertWalletInstance { wallet with
    connected := true
    lockState := command.lockState
    capabilities := canonicalCapabilities command.capabilities
    lastSeenAt := now }
  replaceWalletAccounts env command.walletInstanceId (stampAccounts now command.accounts)

def updateExtensionAccounts (env : Env) (command : UpdateExtensionAccountsCommand) : CoreM Unit :=
  updateBackendAccounts env
    ⟨command.walletInstanceId, command.lockState, extensionCapabilities, command.accounts⟩

/-! ## Delivery and resolution -/

def resumable (walletInstanceId : WalletInstanceId) (now : TimestampMs) (request : RequestRecord) : Bool :=
  request.walletInstanceId = walletInstanceId ∧ request.status = .pendingUserApproval ∧
    request.presentation.any fun p => p.presentationExpiresAt > now

/-- `min_by_key` keeps the first of equal elements, and the list comes sorted by `created_at`. -/
def findResumableRequest (env : Env) (walletInstanceId : WalletInstanceId) (s : Store) :
    Option RequestRecord :=
  ((s.listNonTerminalRequests env.requestScan).filter (resumable walletInstanceId (env.now 1))).head?

def resumedRecord (c : Coordinator) (env : Env) (request : RequestRecord) : CoreResult RequestRecord := do
  let presentation ← match request.presentation with
    | none => pure none
    | some presentation => do
      let expiresAt ← addLease (env.now 0) c.config.presentationLeaseTtl
        "presentation lease timestamp overflow"
      pure (some { presentation with presentationExpiresAt := expiresAt })
  pure { request with presentation := presentation, updatedAt := env.now 0 }

def pullNextRequest (c : Coordinator) (env : Env) (walletInstanceId : WalletInstanceId) :
    CoreM PullNextRequestResult := do
  let _ ← reading (requireWalletInstance walletInstanceId)
  match ← FailState.read (findResumableRequest env walletInstanceId) with
  | some request => do
    let request ← FailState.lift (c.resumedRecord env request)
    let request ← updateRequest request
    pure ⟨walletInstanceId, some (projectPulledRequest request true)⟩
  | none => do
    let deliveryLeaseId ← FailState.lift env.newDeliveryLeaseId
    let expiresAt ← FailState.lift
      (addLease (env.now 2) c.config.deliveryLeaseTtl "delivery lease timestamp overflow")
    let request ← storeCall fun s =>
      s.claimNextRequestForWallet env.requestScan walletInstanceId ⟨deliveryLeaseId, expiresAt⟩ (env.now 0)
    pure ⟨walletInstanceId, request.map fun request => projectPulledRequest request false⟩

def presentedRecord (c : Coordinator) (env : Env) (command : MarkRequestPresentedCommand)
    (request : RequestRecord) : CoreResult RequestRecord :=
  match request.status with
  | .dispatched =>
    match command.deliveryLeaseId with
    | none => .error (sharedError .leaseMismatch
        "delivery_lease_id is required for the first presentation")
    | some deliveryLeaseId => do
      validateDeliveryLease request deliveryLeaseId (env.now 0)
      let request ← transitionRequest request .pendingUserApproval (env.now 0)
      let expiresAt ← addLease (env.now 0) c.config.presentationLeaseTtl
        "presentation lease timestamp overflow"
      pure { request with
        presentation := some ⟨command.presentationId, expiresAt⟩
        deliveryLease := none }
  | .pendingUserApproval =>
    if command.deliveryLeaseId.isSome then
      .error (sharedError .leaseMismatch
        "delivery_lease_id is not valid when resuming an existing presentation")
    else do
      validatePresentation request command.presentationId (env.now 0)
      c.resumedRecord env request
  | other => .error (.invalidStateTransition other .pendingUserApproval)

def markRequestPresented (c : Coordinator) (env : Env) (command : MarkRequestPresentedCommand) :
    CoreM RequestPresentedResult := do
  let request ← reading (requireOwnedRequest command.requestId command.walletInstanceId)
  let request ← FailState.lift (c.presentedRecord env command request)
  let request ← updateRequest request
  pure ⟨request.requestId, request.status⟩

def resolvedRecord (c : Coordinator) (env : Env) (command : ResolveRequestCommand)
    (request : RequestRecord) : CoreResult RequestRecord := do
  validateRequestResult request command.result
  validatePresentation request command.presentationId (env.now 0)
  let request ← transitionRequest request .approved (env.now 0)
  pure { request with
    approvedAt := some (env.now 0)
    resultExpiresAt := checkedAddSeconds (env.now 0) c.config.resultRetention
    result := some command.result
    lastErrorCode := none
    lastErrorMessage := none
    rejectReasonCode := none
    deliveryLease := none
    presentation := none }

def resolveRequest (c : Coordinator) (env : Env) (command : ResolveRequestCommand) :
    CoreM RequestResolvedResult := do
  let request ← reading (requireOwnedRequest command.requestId command.walletInstanceId)
  let request ← FailState.lift (c.resolvedRecord env command request)
  let request ← updateRequest request
  pure ⟨request.requestId, request.status, command.result.resultKind, request.resultExpiresAt⟩

def validateReject (env : Env) (command : RejectRequestCommand) (request : RequestRecord) :
    CoreResult Unit :=
  match request.status with
  | .pendingUserApproval =>
    match command.presentationId with
    | none => .error (sharedError .leaseMismatch
        "presentation_id is required after request presentation")
    | some presentationId => validatePresentation request presentationId (env.now 0)
  | .dispatched =>
    if command.presentationId.isSome then
      .error (sharedError .leaseMismatch "presentation_id is not valid before request presentation")
    else .ok ()
  | other => .error (.invalidStateTransition other (mapRejectReason command.reasonCode).1)

def rejectedRecord (env : Env) (command : RejectRequestCommand) (request : RequestRecord) :
    CoreResult RequestRecord := do
  validateReject env command request
  let (status, errorCode, defaultMessage) := mapRejectReason command.reasonCode
  let request ← transitionRequest request status (env.now 0)
  pure { request with
    approvedAt := none
    rejectedAt := if status = .rejected then some (env.now 0) else none
    failedAt := if status = .failed then some (env.now 0) else none
    rejectReasonCode := some command.reasonCode
    lastErrorCode := some errorCode
    lastErrorMessage := some (command.message.getD defaultMessage)
    deliveryLease := none
    presentation := none }

def rejectRequest (env : Env) (command : RejectRequestCommand) : CoreM RequestRejectedResult := do
  let request ← reading (requireOwnedRequest command.requestId command.walletInstanceId)
  let request ← FailState.lift (rejectedRecord env command request)
  let request ← updateRequest request
  pure ⟨request.requestId, request.status, (mapRejectReason command.reasonCode).2.1⟩

/-! ## Maintenance -/

def expiredRecord (now : TimestampMs) (request : RequestRecord) : CoreResult RequestRecord := do
  let request ← transitionRequest request .expired now
  pure { request with
    lastErrorCode := some .requestExpired
    lastErrorMessage := some "Request reached its TTL"
    deliveryLease := none
    presentation := none }

def releasedRecord (now : TimestampMs) (request : RequestRecord) : CoreResult RequestRecord := do
  let request ← transitionRequest request .created now
  pure { request with deliveryLease := none, presentation := none }

def deliveryLeaseExpired (now : TimestampMs) (request : RequestRecord) : Bool :=
  request.status = .dispatched ∧ request.deliveryLease.any fun l => l.deliveryLeaseExpiresAt ≤ now

def presentationExpired (now : TimestampMs) (request : RequestRecord) : Bool :=
  request.status = .pendingUserApproval ∧
    request.presentation.any fun p => p.presentationExpiresAt ≤ now

/-- One round of the first loop of `tick_maintenance`; the counters are
`(expired_requests, released_delivery_leases)`. -/
def sweepRequest (now : TimestampMs) (counts : Nat × Nat) (request : RequestRecord) : CoreM (Nat × Nat) :=
  if request.expiresAt ≤ now then do
    let request ← FailState.lift (expiredRecord now request)
    let _ ← updateRequest request
    pure (counts.1 + 1, counts.2)
  else if deliveryLeaseExpired now request then do
    let request ← FailState.lift (releasedRecord now request)
    let _ ← updateRequest request
    pure (counts.1, counts.2 + 1)
  else if presentationExpired now request then do
    let request ← FailState.lift (releasedRecord now request)
    let _ ← updateRequest request
    pure counts
  else pure counts

def saturatingSub (a b : TimestampMs) : TimestampMs := max i64Min (min i64Max (a - b))

def isWalletStale (lastSeenAt now : TimestampMs) (staleAfter : DurationSeconds) : Bool :=
  let threshold : Int :=
    if staleAfter * 1000 ≤ u64Max ∧ (staleAfter * 1000 : Int) ≤ i64Max then staleAfter * 1000 else i64Max
  saturatingSub now lastSeenAt ≥ threshold

def disconnectIfStale (c : Coordinator) (now : TimestampMs) (wallet : WalletInstanceRecord) : CoreM Unit :=
  if isWalletStale wallet.lastSeenAt now c.config.walletOfflineAfter then
    upsertWalletInstance { wallet with connected := false }
  else pure ()

def evictResult (evicted : Nat) (request : RequestRecord) : CoreM Nat :=
  if request.result.isSome then do
    let _ ← updateRequest { request with result := none, resultExpiresAt := none }
    pure (evicted + 1)
  else pure evicted

def tickMaintenance (c : Coordinator) (env : Env) : CoreM TickMaintenanceResult := do
  let now := env.now 0
  let requests ← FailState.read fun s => s.listNonTerminalRequests env.requestScan
  let counts ← requests.foldlM (sweepRequest now) (0, 0)
  let wallets ← FailState.read fun s => s.listWalletInstances env.instanceScan true
  wallets.forM (c.disconnectIfStale now)
  let expired ← FailState.read fun s => s.listTerminalRequestsWithExpiredResults env.requestScan now
  let evicted ← expired.foldlM evictResult 0
  pure ⟨counts.1, counts.2, evicted⟩

/-! ## Dispatch -/

def dispatch (c : Coordinator) (env : Env) : CoordinatorCommand → CoreM CoordinatorResponse
  | .systemPing => pure (.systemPing c.systemPing)
  | .systemGetInfo => pure (.systemInfo c.systemGetInfo)
  | .walletStatus => FailState.read fun s => .walletStatus (walletStatus env s)
  | .walletListInstances connectedOnly =>
    FailState.read fun s => .walletInstances (walletListInstances env connectedOnly s)
  | .walletListAccounts walletInstanceId includePublicKey =>
    CoordinatorResponse.walletAccounts <$> reading
      (c.walletListAccounts env walletInstanceId includePublicKey)
  | .walletGetPublicKey address walletInstanceId =>
    CoordinatorResponse.walletPublicKey <$> reading (c.walletGetPublicKey address walletInstanceId)
  | .walletSetAccountLabel command =>
    CoordinatorResponse.walletAccountLabelSet <$> walletSetAccountLabel env command
  | .createAccount command => CoordinatorResponse.requestCreated <$> c.createAccountRequest env command
  | .createExportAccount command =>
    CoordinatorResponse.requestCreated <$> c.createExportAccountRequest env command
  | .createImportAccount command =>
    CoordinatorResponse.requestCreated <$> c.createImportAccountRequest env command
  | .createSignTransaction command =>
    CoordinatorResponse.requestCreated <$> c.createSignTransactionRequest env command
  | .createSignMessage command =>
    CoordinatorResponse.requestCreated <$> c.createSignMessageRequest env command
  | .getRequestStatus requestId =>
    CoordinatorResponse.requestStatus <$> reading (getRequestStatus requestId)
  | .requestHasAvailable walletInstanceId =>
    FailState.read fun s => .requestHasAvailable (requestHasAvailable env walletInstanceId s)
  | .cancelRequest requestId => CoordinatorResponse.requestCancelled <$> cancelRequest env requestId
  | .registerExtension command => (fun _ => .ack) <$> registerExtension env command
  | .registerBackend command => (fun _ => .ack) <$> registerBackend env command
  | .heartbeatExtension command => (fun _ => .ack) <$> c.heartbeatExtension env command
  | .heartbeatBackend command => (fun _ => .ack) <$> c.heartbeatBackend env command
  | .updateExtensionAccounts command => (fun _ => .ack) <$> updateExtensionAccounts env command
  | .updateBackendAccounts command => (fun _ => .ack) <$> updateBackendAccounts env command
  | .pullNextRequest walletInstanceId =>
    CoordinatorResponse.pullNextRequest <$> c.pullNextRequest env walletInstanceId
  | .markRequestPresented command =>
    CoordinatorResponse.requestPresented <$> c.markRequestPresented env command
  | .resolveRequest command => CoordinatorResponse.requestResolved <$> c.resolveRequest env command
  | .rejectRequest command => CoordinatorResponse.requestRejected <$> rejectRequest env command
  | .tickMaintenance => CoordinatorResponse.tickMaintenance <$> c.tickMaintenance env

end Coordinator

end StarcoinMcp.Starmask
