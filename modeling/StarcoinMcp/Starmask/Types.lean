import StarcoinMcp.Lib.Text

/-! The data model shared by the daemon, the coordinator and the wallet agents:
identifiers, clock values, the request lifecycle, payloads and results, and the
records the store keeps. -/

namespace StarcoinMcp.Starmask

/-! ## Identifiers -/

inductive IdKind
  | clientRequestId | deliveryLeaseId | payloadHash | presentationId | requestId | walletInstanceId
deriving DecidableEq, Repr

/-- The `string_id!` newtypes: a string that `try_from` found not to be blank. -/
structure StringId (kind : IdKind) where
  value : String
  nonblank : Text.isBlank value = false
deriving DecidableEq, Repr

abbrev ClientRequestId := StringId .clientRequestId
abbrev DeliveryLeaseId := StringId .deliveryLeaseId
abbrev PayloadHash := StringId .payloadHash
abbrev PresentationId := StringId .presentationId
abbrev RequestId := StringId .requestId
abbrev WalletInstanceId := StringId .walletInstanceId

/-! ## Time -/

abbrev DurationSeconds := Nat

/-- Milliseconds in an `i64`; every sum goes through `checkedAddSeconds`. -/
abbrev TimestampMs := Int

def i64Max : Int := 2 ^ 63 - 1
def i64Min : Int := -2 ^ 63
def u64Max : Nat := 2 ^ 64 - 1

def checkedAddSeconds (t : TimestampMs) (duration : DurationSeconds) : Option TimestampMs :=
  if duration * 1000 ≤ u64Max ∧ (duration * 1000 : Int) ≤ i64Max then
    if i64Min ≤ t + duration * 1000 ∧ t + duration * 1000 ≤ i64Max then some (t + duration * 1000)
    else none
  else none

theorem checkedAddSeconds_eq_some {t e : TimestampMs} {d : DurationSeconds}
    (h : checkedAddSeconds t d = some e) : e = t + d * 1000 := by
  unfold checkedAddSeconds at h
  split_ifs at h
  exact (Option.some.inj h).symm

/-! ## Lifecycle -/

inductive RequestKind
  | signTransaction | signMessage | createAccount | exportAccount | importAccount
deriving DecidableEq, Repr

inductive RequestStatus
  | created | dispatched | pendingUserApproval | approved | rejected | expired | cancelled | failed
deriving DecidableEq, Repr

namespace RequestStatus

def isTerminal : RequestStatus → Bool
  | .approved | .rejected | .expired | .cancelled | .failed => true
  | .created | .dispatched | .pendingUserApproval => false

def canTransitionTo : RequestStatus → RequestStatus → Bool
  | .created, .dispatched => true
  | .created, .cancelled => true
  | .created, .expired => true
  | .created, .failed => true
  | .dispatched, .created => true
  | .dispatched, .pendingUserApproval => true
  | .dispatched, .cancelled => true
  | .dispatched, .expired => true
  | .dispatched, .failed => true
  | .pendingUserApproval, .created => true
  | .pendingUserApproval, .approved => true
  | .pendingUserApproval, .rejected => true
  | .pendingUserApproval, .cancelled => true
  | .pendingUserApproval, .expired => true
  | .pendingUserApproval, .failed => true
  | _, _ => false

end RequestStatus

inductive ResultKind
  | signedTransaction | signedMessage | createdAccount | exportedAccount | importedAccount | none
deriving DecidableEq, Repr

inductive LockState
  | locked | unlocked | unknown
deriving DecidableEq, Repr

inductive BackendKind
  | starmaskExtension | localAccountDir | privateKeyDev
deriving DecidableEq, Repr

inductive TransportKind
  | nativeMessaging | localSocket
deriving DecidableEq, Repr

inductive ApprovalSurface
  | browserUi | ttyPrompt | desktopPrompt | none
deriving DecidableEq, Repr

inductive WalletCapability
  | unlock | getPublicKey | signMessage | signTransaction | createAccount | exportAccount
  | importAccount
deriving DecidableEq, Repr

inductive RejectReasonCode
  | requestRejected | walletLocked | requestExpired | unsupportedOperation
  | invalidTransactionPayload | invalidMessagePayload | backendUnavailable | backendPolicyBlocked
  | internalError
deriving DecidableEq, Repr

inductive Curve
  | ed25519
deriving DecidableEq, Repr

inductive MessageFormat
  | utf8 | hex
deriving DecidableEq, Repr

def RequestKind.expectedResultKind : RequestKind → ResultKind
  | .signTransaction => .signedTransaction
  | .signMessage => .signedMessage
  | .createAccount => .createdAccount
  | .exportAccount => .exportedAccount
  | .importAccount => .importedAccount

/-! ## Errors -/

inductive SharedErrorCode
  | walletUnavailable | walletLocked | walletSelectionRequired | walletInstanceNotFound
  | requestNotOwned | leaseMismatch | extensionNotConnected | backendNotAllowed
  | invalidBackendRegistration | backendUnavailable | backendPolicyBlocked | invalidAccount
  | requestNotFound | requestExpired | requestRejected | requestCancelled
  | invalidTransactionPayload | invalidMessagePayload | unsupportedChain | invalidRequest
  | internalBridgeError | resultUnavailable | idempotencyKeyConflict | protocolVersionMismatch
  | nodeUnavailable | rpcUnavailable | invalidChainContext | simulationFailed | submissionFailed
  | permissionDenied | approvalRequired | rateLimited | unsupportedOperation
deriving DecidableEq, Repr

def SharedErrorCode.retryableByDefault : SharedErrorCode → Bool
  | .walletUnavailable | .walletSelectionRequired | .extensionNotConnected | .backendUnavailable
  | .internalBridgeError | .nodeUnavailable | .rpcUnavailable | .rateLimited => true
  | _ => false

/-- The name of the code in JSON and in print. -/
def SharedErrorCode.encode : SharedErrorCode → String
  | .walletUnavailable => "wallet_unavailable"
  | .walletLocked => "wallet_locked"
  | .walletSelectionRequired => "wallet_selection_required"
  | .walletInstanceNotFound => "wallet_instance_not_found"
  | .requestNotOwned => "request_not_owned"
  | .leaseMismatch => "lease_mismatch"
  | .extensionNotConnected => "extension_not_connected"
  | .backendNotAllowed => "backend_not_allowed"
  | .invalidBackendRegistration => "invalid_backend_registration"
  | .backendUnavailable => "backend_unavailable"
  | .backendPolicyBlocked => "backend_policy_blocked"
  | .invalidAccount => "invalid_account"
  | .requestNotFound => "request_not_found"
  | .requestExpired => "request_expired"
  | .requestRejected => "request_rejected"
  | .requestCancelled => "request_cancelled"
  | .invalidTransactionPayload => "invalid_transaction_payload"
  | .invalidMessagePayload => "invalid_message_payload"
  | .unsupportedChain => "unsupported_chain"
  | .invalidRequest => "invalid_request"
  | .internalBridgeError => "internal_bridge_error"
  | .resultUnavailable => "result_unavailable"
  | .idempotencyKeyConflict => "idempotency_key_conflict"
  | .protocolVersionMismatch => "protocol_version_mismatch"
  | .nodeUnavailable => "node_unavailable"
  | .rpcUnavailable => "rpc_unavailable"
  | .invalidChainContext => "invalid_chain_context"
  | .simulationFailed => "simulation_failed"
  | .submissionFailed => "submission_failed"
  | .permissionDenied => "permission_denied"
  | .approvalRequired => "approval_required"
  | .rateLimited => "rate_limited"
  | .unsupportedOperation => "unsupported_operation"

structure SharedError where
  code : SharedErrorCode
  message : String
  retryable : Option Bool
deriving DecidableEq, Repr

def SharedError.new (code : SharedErrorCode) (message : String) : SharedError :=
  ⟨code, message, some code.retryableByDefault⟩

/-- `Display for SharedError`. -/
def SharedError.display (error : SharedError) : String := error.code.encode ++ ": " ++ error.message

inductive RepositoryError
  | storage (message : String)
deriving DecidableEq, Repr

inductive CoreError
  | shared (error : SharedError)
  | repository (error : RepositoryError)
  | invalidStateTransition (source target : RequestStatus)
  | validation (message : String)
  | invariant (message : String)
deriving DecidableEq, Repr

abbrev CoreResult := Except CoreError

def sharedError (code : SharedErrorCode) (message : String) : CoreError :=
  .shared (SharedError.new code message)

/-! ## Payloads and results -/

structure TransactionPayload where
  chainId : Nat
  rawTxnBcsHex : String
  txKind : String
  displayHint : Option String
  clientContext : Option String
deriving DecidableEq, Repr

structure MessagePayload where
  message : String
  format : MessageFormat
  displayHint : Option String
  clientContext : Option String
deriving DecidableEq, Repr

structure CreateAccountPayload where
  displayHint : Option String
  clientContext : Option String
deriving DecidableEq, Repr

structure ExportAccountPayload where
  outputFile : String
  force : Bool
  displayHint : Option String
  clientContext : Option String
deriving DecidableEq, Repr

structure ImportAccountPayload where
  privateKeyFile : String
  displayHint : Option String
  clientContext : Option String
deriving DecidableEq, Repr

inductive RequestPayload
  | signTransaction (payload : TransactionPayload)
  | signMessage (payload : MessagePayload)
  | createAccount (payload : CreateAccountPayload)
  | exportAccount (payload : ExportAccountPayload)
  | importAccount (payload : ImportAccountPayload)
deriving DecidableEq, Repr

/-- The kind whose payload variant this is. -/
def RequestPayload.kind : RequestPayload → RequestKind
  | .signTransaction _ => .signTransaction
  | .signMessage _ => .signMessage
  | .createAccount _ => .createAccount
  | .exportAccount _ => .exportAccount
  | .importAccount _ => .importAccount

inductive RequestResult
  | signedTransaction (signedTxnBcsHex : String)
  | signedMessage (signature : String)
  | createdAccount (address publicKey : String) (curve : Curve) (isDefault isLocked : Bool)
  | exportedAccount (address outputFile : String)
  | importedAccount (address publicKey : String) (curve : Curve) (isDefault isLocked : Bool)
deriving DecidableEq, Repr

def RequestResult.resultKind : RequestResult → ResultKind
  | .signedTransaction .. => .signedTransaction
  | .signedMessage .. => .signedMessage
  | .createdAccount .. => .createdAccount
  | .exportedAccount .. => .exportedAccount
  | .importedAccount .. => .importedAccount

/-! ## Records -/

structure DeliveryLease where
  deliveryLeaseId : DeliveryLeaseId
  deliveryLeaseExpiresAt : TimestampMs
deriving DecidableEq, Repr

structure PresentationLease where
  presentationId : PresentationId
  presentationExpiresAt : TimestampMs
deriving DecidableEq, Repr

structure RequestRecord where
  requestId : RequestId
  clientRequestId : ClientRequestId
  kind : RequestKind
  status : RequestStatus
  walletInstanceId : WalletInstanceId
  accountAddress : String
  payloadHash : PayloadHash
  payload : RequestPayload
  result : Option RequestResult
  createdAt : TimestampMs
  expiresAt : TimestampMs
  updatedAt : TimestampMs
  approvedAt : Option TimestampMs
  rejectedAt : Option TimestampMs
  cancelledAt : Option TimestampMs
  failedAt : Option TimestampMs
  resultExpiresAt : Option TimestampMs
  lastErrorCode : Option SharedErrorCode
  lastErrorMessage : Option String
  rejectReasonCode : Option RejectReasonCode
  deliveryLease : Option DeliveryLease
  presentation : Option PresentationLease
deriving DecidableEq, Repr

/-- A JSON document, kept as its text; the coordinator stores it and never reads it. -/
structure JsonDocument where
  text : String
deriving DecidableEq, Repr

structure WalletInstanceRecord where
  walletInstanceId : WalletInstanceId
  backendKind : BackendKind
  transportKind : TransportKind
  approvalSurface : ApprovalSurface
  instanceLabel : String
  extensionId : String
  extensionVersion : String
  protocolVersion : Nat
  capabilities : List WalletCapability
  backendMetadata : JsonDocument
  profileHint : Option String
  lockState : LockState
  connected : Bool
  lastSeenAt : TimestampMs
deriving DecidableEq, Repr

structure WalletAccountRecord where
  walletInstanceId : WalletInstanceId
  address : String
  label : Option String
  publicKey : Option String
  isDefault : Bool
  isReadOnly : Bool
  isLocked : Bool
  lastSeenAt : TimestampMs
deriving DecidableEq, Repr

end StarcoinMcp.Starmask
