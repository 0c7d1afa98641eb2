import StarcoinMcp.Starmask.Store

/-! What the coordinator is asked and what it answers: one constructor for each
`CoordinatorCommand` and each `CoordinatorResponse`, the policy hooks, the
configuration, and the environment one command runs in. -/

namespace StarcoinMcp.Starmask

/-! ## Commands -/

structure CreateSignTransactionCommand where
  clientRequestId : ClientRequestId
  accountAddress : String
  walletInstanceId : Option WalletInstanceId
  chainId : Nat
  rawTxnBcsHex : String
  txKind : String
  displayHint : Option String
  clientContext : Option String
  ttlSeconds : Option DurationSeconds
deriving DecidableEq, Repr

structure CreateSignMessageCommand where
  clientRequestId : ClientRequestId
  accountAddress : String
  walletInstanceId : Option WalletInstanceId
  message : String
  format : MessageFormat
  displayHint : Option String
  clientContext : Option String
  ttlSeconds : Option DurationSeconds
deriving DecidableEq, Repr

structure CreateAccountCommand where
  clientRequestId : ClientRequestId
  walletInstanceId : WalletInstanceId
  displayHint : Option String
  clientContext : Option String
  ttlSeconds : Option DurationSeconds
deriving DecidableEq, Repr

structure CreateExportAccountCommand where
  clientRequestId : ClientRequestId
  accountAddress : String
  walletInstanceId : Option WalletInstanceId
  outputFile : String
  force : Bool
  displayHint : Option String
  clientContext : Option String
  ttlSeconds : Option DurationSeconds
deriving DecidableEq, Repr

structure CreateImportAccountCommand where
  clientRequestId : ClientRequestId
  accountAddress : String
  walletInstanceId : WalletInstanceId
  privateKeyFile : String
  displayHint : Option String
  clientContext : Option String
  ttlSeconds : Option DurationSeconds
deriving DecidableEq, Repr

structure SetAccountLabelCommand where
  walletInstanceId : WalletInstanceId
  address : String
  label : String
deriving DecidableEq, Repr

structure RegisterExtensionCommand where
  walletInstanceId : WalletInstanceId
  extensionId : String
  extensionVersion : String
  protocolVersion : Nat
  profileHint : Option String
  lockState : LockState
  accounts : List WalletAccountRecord
deriving DecidableEq, Repr

structure RegisterBackendCommand where
  walletInstanceId : WalletInstanceId
  backendKind : BackendKind
  transportKind : TransportKind
  approvalSurface : ApprovalSurface
  instanceLabel : String
  extensionId : String
  extensionVersion : String
  protocolVersion : Nat
  capabilities : List WalletCapability
  backendMetadata : JsonDocument
  profileHint : Option String
  lockState : LockState
  accounts : List WalletAccountRecord
deriving DecidableEq, Repr

structure HeartbeatExtensionCommand where
  walletInstanceId : WalletInstanceId
  presentedRequestIds : List RequestId
deriving DecidableEq, Repr

structure HeartbeatBackendCommand where
  walletInstanceId : WalletInstanceId
  presentedRequestIds : List RequestId
  lockState : Option LockState
deriving DecidableEq, Repr

structure UpdateExtensionAccountsCommand where
  walletInstanceId : WalletInstanceId
  lockState : LockState
  accounts : List WalletAccountRecord
deriving DecidableEq, Repr

structure UpdateBackendAccountsCommand where
  walletInstanceId : WalletInstanceId
  lockState : LockState
  capabilities : List WalletCapability
  accounts : List WalletAccountRecord
deriving DecidableEq, Repr

structure MarkRequestPresentedCommand where
  requestId : RequestId
  walletInstanceId : WalletInstanceId
  deliveryLeaseId : Option DeliveryLeaseId
  presentationId : PresentationId
deriving DecidableEq, Repr

structure ResolveRequestCommand where
  requestId : RequestId
  walletInstanceId : WalletInstanceId
  presentationId : PresentationId
  result : RequestResult
deriving DecidableEq, Repr

structure RejectRequestCommand where
  requestId : RequestId
  walletInstanceId : WalletInstanceId
  presentationId : Option PresentationId
  reasonCode : RejectReasonCode
  message : Option String
deriving DecidableEq, Repr

inductive CoordinatorCommand
  | systemPing
  | systemGetInfo
  | walletStatus
  | walletListInstances (connectedOnly : Bool)
  | walletListAccounts (walletInstanceId : Option WalletInstanceId) (includePublicKey : Bool)
  | walletGetPublicKey (address : String) (walletInstanceId : Option WalletInstanceId)
  | walletSetAccountLabel (command : SetAccountLabelCommand)
  | createAccount (command : CreateAccountCommand)
  | createExportAccount (command : CreateExportAccountCommand)
  | createImportAccount (command : CreateImportAccountCommand)
  | createSignTransaction (command : CreateSignTransactionCommand)
  | createSignMessage (command : CreateSignMessageCommand)
  | getRequestStatus (requestId : RequestId)
  | requestHasAvailable (walletInstanceId : WalletInstanceId)
  | cancelRequest (requestId : RequestId)
  | registerExtension (command : RegisterExtensionCommand)
  | registerBackend (command : RegisterBackendCommand)
  | heartbeatExtension (command : HeartbeatExtensionCommand)
  | heartbeatBackend (command : HeartbeatBackendCommand)
  | updateExtensionAccounts (command : UpdateExtensionAccountsCommand)
  | updateBackendAccounts (command : UpdateBackendAccountsCommand)
  | pullNextRequest (walletInstanceId : WalletInstanceId)
  | markRequestPresented (command : MarkRequestPresentedCommand)
  | resolveRequest (command : ResolveRequestCommand)
  | rejectRequest (command : RejectRequestCommand)
  | tickMaintenance
deriving DecidableEq, Repr

/-! ## Responses -/

structure SystemPingResult where
  ok : Bool
  daemonProtocolVersion : Nat
  daemonVersion : String
deriving DecidableEq, Repr

structure SystemGetInfoResult where
  daemonProtocolVersion : Nat
  daemonVersion : String
  socketScope : String
  dbSchemaVersion : Nat
  resultRetentionSeconds : Nat
  defaultRequestTtlSeconds : Nat
deriving DecidableEq, Repr

structure WalletInstanceSummary where
  walletInstanceId : WalletInstanceId
  extensionConnected : Bool
  lockState : LockState
  profileHint : Option String
  lastSeenAt : TimestampMs
deriving DecidableEq, Repr

structure WalletStatusResult where
  walletAvailable : Bool
  walletOnline : Bool
  defaultWalletInstanceId : Option WalletInstanceId
  walletInstances : List WalletInstanceSummary
deriving DecidableEq, Repr

structure WalletAccountSummary where
  address : String
  label : Option String
  publicKey : Option String
  isDefault : Bool
  isReadOnly : Bool
  isLocked : Bool
deriving DecidableEq, Repr

structure WalletAccountGroup where
  walletInstanceId : WalletInstanceId
  instanceLabel : String
  extensionConnected : Bool
  lockState : LockState
  accounts : List WalletAccountSummary
deriving DecidableEq, Repr

structure WalletGetPublicKeyResult where
  walletInstanceId : WalletInstanceId
  address : String
  publicKey : String
  curve : Curve
deriving DecidableEq, Repr

structure WalletSetAccountLabelResult where
  walletInstanceId : WalletInstanceId
  account : WalletAccountSummary
deriving DecidableEq, Repr

structure CreateRequestResult where
  requestId : RequestId
  clientRequestId : ClientRequestId
  kind : RequestKind
  status : RequestStatus
  walletInstanceId : WalletInstanceId
  createdAt : TimestampMs
  expiresAt : TimestampMs
deriving DecidableEq, Repr

structure GetRequestStatusResult where
  requestId : RequestId
  clientRequestId : ClientRequestId
  kind : RequestKind
  status : RequestStatus
  walletInstanceId : WalletInstanceId
  createdAt : TimestampMs
  expiresAt : TimestampMs
  resultKind : ResultKind
  resultAvailable : Bool
  resultExpiresAt : Option TimestampMs
  errorCode : Option SharedErrorCode
  errorMessage : Option String
  result : Option RequestResult
deriving DecidableEq, Repr

structure RequestHasAvailableResult where
  walletInstanceId : WalletInstanceId
  available : Bool
deriving DecidableEq, Repr

structure CancelRequestResult where
  requestId : RequestId
  status : RequestStatus
  errorCode : Option SharedErrorCode
deriving DecidableEq, Repr

structure PulledRequest where
  requestId : RequestId
  clientRequestId : ClientRequestId
  kind : RequestKind
  accountAddress : String
  payloadHash : PayloadHash
  displayHint : Option String
  clientContext : Option String
  resumeRequired : Bool
  deliveryLeaseId : Option DeliveryLeaseId
  leaseExpiresAt : Option TimestampMs
  presentationId : Option PresentationId
  presentationExpiresAt : Option TimestampMs
  rawTxnBcsHex : Option String
  message : Option String
  messageFormat : Option MessageFormat
  outputFile : Option String
  force : Bool
  privateKeyFile : Option String
deriving DecidableEq, Repr

structure PullNextRequestResult where
  walletInstanceId : WalletInstanceId
  request : Option PulledRequest
deriving DecidableEq, Repr

structure RequestPresentedResult where
  requestId : RequestId
  status : RequestStatus
deriving DecidableEq, Repr

structure RequestResolvedResult where
  requestId : RequestId
  status : RequestStatus
  resultKind : ResultKind
  resultExpiresAt : Option TimestampMs
deriving DecidableEq, Repr

structure RequestRejectedResult where
  requestId : RequestId
  status : RequestStatus
  errorCode : SharedErrorCode
deriving DecidableEq, Repr

structure TickMaintenanceResult where
  expiredRequests : Nat
  releasedDeliveryLeases : Nat
  evictedResults : Nat
deriving DecidableEq, Repr

inductive CoordinatorResponse
  | systemPing (result : SystemPingResult)
  | systemInfo (result : SystemGetInfoResult)
  | walletStatus (result : WalletStatusResult)
  | walletInstances (walletInstances : List WalletInstanceSummary)
  | walletAccounts (walletInstances : List WalletAccountGroup)
  | walletPublicKey (result : WalletGetPublicKeyResult)
  | walletAccountLabelSet (result : WalletSetAccountLabelResult)
  | requestCreated (result : CreateRequestResult)
  | requestStatus (result : GetRequestStatusResult)
  | requestHasAvailable (result : RequestHasAvailableResult)
  | requestCancelled (result : CancelRequestResult)
  | pullNextRequest (result : PullNextRequestResult)
  | requestPresented (result : RequestPresentedResult)
  | requestResolved (result : RequestResolvedResult)
  | requestRejected (result : RequestRejectedResult)
  | tickMaintenance (result : TickMaintenanceResult)
  | ack
deriving DecidableEq, Repr

/-! ## Surroundings of the coordinator -/

structure CoordinatorConfig where
  daemonVersion : String
  socketScope : String
  dbSchemaVersion : Nat
  defaultRequestTtl : DurationSeconds
  minRequestTtl : DurationSeconds
  maxRequestTtl : DurationSeconds
  deliveryLeaseTtl : DurationSeconds
  presentationLeaseTtl : DurationSeconds
  walletOfflineAfter : DurationSeconds
  resultRetention : DurationSeconds
deriving DecidableEq, Repr

def CoordinatorConfig.default (daemonVersion : String) : CoordinatorConfig where
  daemonVersion := daemonVersion
  socketScope := "local-user"
  dbSchemaVersion := 2
  defaultRequestTtl := 300
  minRequestTtl := 30
  maxRequestTtl := 3600
  deliveryLeaseTtl := 30
  presentationLeaseTtl := 45
  walletOfflineAfter := 25
  resultRetention := 600

structure PolicyEngine where
  checkAccountListing : CoreResult Unit
  checkPublicKeyLookup : String → CoreResult Unit
  checkCreateSignTransaction : CreateSignTransactionCommand → CoreResult Unit
  checkCreateSignMessage : CreateSignMessageCommand → CoreResult Unit
  checkCreateAccount : CreateAccountCommand → CoreResult Unit
  checkCreateExportAccount : CreateExportAccountCommand → CoreResult Unit
  checkCreateImportAccount : CreateImportAccountCommand → CoreResult Unit

def allowAllPolicy : PolicyEngine where
  checkAccountListing := .ok ()
  checkPublicKeyLookup _ := .ok ()
  checkCreateSignTransaction _ := .ok ()
  checkCreateSignMessage _ := .ok ()
  checkCreateAccount _ := .ok ()
  checkCreateExportAccount _ := .ok ()
  checkCreateImportAccount _ := .ok ()

/-- What one command finds outside the coordinator: the successive readings of the clock, the
next values of the id generator, the free choices of SQLite, and the wall clock that stamps the
label rows. -/
structure Env where
  now : Nat → TimestampMs
  monotone : ∀ ⦃i j : ℕ⦄, i ≤ j → now i ≤ now j
  newRequestId : CoreResult RequestId
  newDeliveryLeaseId : CoreResult DeliveryLeaseId
  requestScan : Scan RequestRecord
  instanceScan : Scan WalletInstanceRecord
  currentTimestampMs : Int

end StarcoinMcp.Starmask
