import StarcoinMcp.Starmask.Server

/-! The native host between the extension and the daemon (`bridge.rs`). A message of the
extension becomes one call of the daemon, and what that returns becomes the answer. A
`request.resolve` message is checked before it is passed on: the result it names is there in
full, and nothing else is. -/

namespace StarcoinMcp.NativeHost

open Starmask

/-- `daemon_protocol_version()` of the native host's client. -/
def daemonProtocolVersion : Nat := Coordinator.daemonProtocolVersion

def requestResolvePayloadError (message : String) : SharedError :=
  (SharedError.new .internalBridgeError message).withRetryable false

/-- `is_some_and(|value| !value.trim().is_empty())`. -/
def isSet (value : Option String) : Bool := value.any fun text => !Text.isBlank text

section Fields

variable (input : RequestResolveParams)

def hasCreatedAccountFields : Bool :=
  input.createdAccountAddress.isSome || input.createdAccountPublicKey.isSome ||
    input.createdAccountCurve.isSome || input.createdAccountIsDefault.isSome ||
    input.createdAccountIsLocked.isSome

def hasExportedAccountFields : Bool :=
  input.exportedAccountAddress.isSome || input.exportedAccountOutputFile.isSome

def hasImportedAccountFields : Bool :=
  input.importedAccountAddress.isSome || input.importedAccountPublicKey.isSome ||
    input.importedAccountCurve.isSome || input.importedAccountIsDefault.isSome ||
    input.importedAccountIsLocked.isSome

def hasAccountResultFields : Bool :=
  hasCreatedAccountFields input || hasExportedAccountFields input || hasImportedAccountFields input

def checkResolveFields : Except SharedError Unit :=
  match input.resultKind with
  | .signedTransaction =>
    if !isSet input.signedTxnBcsHex then
      .error (requestResolvePayloadError "signed_txn_bcs_hex is required for signed_transaction")
    else if input.signature.isSome then
      .error (requestResolvePayloadError "signature must be omitted for signed_transaction")
    else if hasAccountResultFields input then
      .error (requestResolvePayloadError "account result fields must be omitted for signed_transaction")
    else .ok ()
  | .signedMessage =>
    if !isSet input.signature then
      .error (requestResolvePayloadError "signature is required for signed_message")
    else if input.signedTxnBcsHex.isSome then
      .error (requestResolvePayloadError "signed_txn_bcs_hex must be omitted for signed_message")
    else if hasAccountResultFields input then
      .error (requestResolvePayloadError "account result fields must be omitted for signed_message")
    else .ok ()
  | .createdAccount =>
    if input.signedTxnBcsHex.isSome || input.signature.isSome then
      .error (requestResolvePayloadError
        "signed_transaction and signed_message payloads must be omitted for created_account")
    else if !isSet input.createdAccountAddress || !isSet input.createdAccountPublicKey ||
        input.createdAccountCurve.isNone || input.createdAccountIsDefault.isNone ||
        input.createdAccountIsLocked.isNone then
      .error (requestResolvePayloadError
        "created_account requires address, public_key, curve, is_default, and is_locked")
    else if hasExportedAccountFields input || hasImportedAccountFields input then
      .error (requestResolvePayloadError
        "non-created account result fields must be omitted for created_account")
    else .ok ()
  | .exportedAccount =>
    if input.signedTxnBcsHex.isSome || input.signature.isSome then
      .error (requestResolvePayloadError
        "signed_transaction and signed_message payloads must be omitted for exported_account")
    else if hasCreatedAccountFields input || hasImportedAccountFields input then
      .error (requestResolvePayloadError
        "non-exported account result fields must be omitted for exported_account")
    else if !isSet input.exportedAccountAddress || !isSet input.exportedAccountOutputFile then
      .error (requestResolvePayloadError "exported_account requires address and output_file")
    else .ok ()
  | .importedAccount =>
    if input.signedTxnBcsHex.isSome || input.signature.isSome then
      .error (requestResolvePayloadError
        "signed_transaction and signed_message payloads must be omitted for imported_account")
    else if hasCreatedAccountFields input || hasExportedAccountFields input then
      .error (requestResolvePayloadError
        "non-imported account result fields must be omitted for imported_account")
    else if !isSet input.importedAccountAddress || !isSet input.importedAccountPublicKey ||
        input.importedAccountCurve.isNone || input.importedAccountIsDefault.isNone ||
        input.importedAccountIsLocked.isNone then
      .error (requestResolvePayloadError
        "imported_account requires address, public_key, curve, is_default, and is_locked")
    else .ok ()
  | .none => .error (requestResolvePayloadError "result_kind none is not valid for request.resolve")

/-- The parameters that go to the daemon are those of the message. -/
def validateRequestResolveParams : Except SharedError (Versioned RequestResolveParams) := do
  checkResolveFields input
  pure ⟨daemonProtocolVersion, input⟩

end Fields

/-! ## Messages -/

def nativeBridgeProtocolVersion : Nat := 2

inductive NativeBridgeRequest
  | extensionRegister (messageId : String) (protocolVersion : Nat) (params : ExtensionRegisterParams)
  | extensionHeartbeat (messageId : String) (params : HeartbeatExtensionCommand)
  | extensionUpdateAccounts (messageId : String) (params : ExtensionUpdateAccountsParams)
  | requestPullNext (messageId : String) (walletInstanceId : WalletInstanceId)
  | requestPresented (messageId : String) (params : MarkRequestPresentedCommand)
  | requestResolve (messageId : String) (params : RequestResolveParams)
  | requestReject (messageId : String) (params : RejectRequestCommand)

def NativeBridgeRequest.messageId : NativeBridgeRequest → String
  | .extensionRegister messageId _ _ => messageId
  | .extensionHeartbeat messageId _ => messageId
  | .extensionUpdateAccounts messageId _ => messageId
  | .requestPullNext messageId _ => messageId
  | .requestPresented messageId _ => messageId
  | .requestResolve messageId _ => messageId
  | .requestReject messageId _ => messageId

/-- The answers to a message; the two notifications, which answer none, are left out. -/
inductive NativeBridgeResponse
  | extensionRegistered (replyTo : String) (walletInstanceId : WalletInstanceId)
      (daemonProtocolVersion : Nat) (accepted : Bool)
  | extensionAck (replyTo : String)
  | requestNext (replyTo : String) (request : PulledRequest)
  | requestNone (replyTo : String) (walletInstanceId : WalletInstanceId)
  | extensionError (replyTo : Option String) (error : SharedError)

structure ExtensionRegisteredResult where
  walletInstanceId : WalletInstanceId
  daemonProtocolVersion : Nat
  accepted : Bool
deriving DecidableEq, Repr

/-- The calls of the daemon that answer a message, each with what it does to the world. -/
structure DaemonRpc (σ : Type) where
  extensionRegister : Versioned ExtensionRegisterParams → FailState σ SharedError ExtensionRegisteredResult
  extensionHeartbeat : Versioned HeartbeatExtensionCommand → FailState σ SharedError Unit
  extensionUpdateAccounts : Versioned ExtensionUpdateAccountsParams → FailState σ SharedError Unit
  requestPullNext : Versioned WalletInstanceId → FailState σ SharedError PullNextRequestResult
  requestPresented : Versioned MarkRequestPresentedCommand → FailState σ SharedError Unit
  requestResolve : Versioned RequestResolveParams → FailState σ SharedError Unit
  requestReject : Versioned RejectRequestCommand → FailState σ SharedError Unit

section Requests

variable {σ : Type} (client : DaemonRpc σ)

def pulledResponse (replyTo : String) (walletInstanceId : WalletInstanceId)
    (result : PullNextRequestResult) : NativeBridgeResponse :=
  match result.request with
  | some request => .requestNext replyTo request
  | none => .requestNone replyTo walletInstanceId

/-- The `match` of `handle_request`, past the check of the bridge's own version. -/
def callDaemon : NativeBridgeRequest → FailState σ SharedError NativeBridgeResponse
  | .extensionRegister replyTo _ params => do
    let result ← client.extensionRegister ⟨daemonProtocolVersion, params⟩
    pure (.extensionRegistered replyTo result.walletInstanceId result.daemonProtocolVersion result.accepted)
  | .extensionHeartbeat replyTo params => do
    let _ ← client.extensionHeartbeat ⟨daemonProtocolVersion, params⟩
    pure (.extensionAck replyTo)
  | .extensionUpdateAccounts replyTo params => do
    let _ ← client.extensionUpdateAccounts ⟨daemonProtocolVersion, params⟩
    pure (.extensionAck replyTo)
  | .requestPullNext replyTo walletInstanceId => do
    let result ← client.requestPullNext ⟨daemonProtocolVersion, walletInstanceId⟩
    pure (pulledResponse replyTo walletInstanceId result)
  | .requestPresented replyTo params => do
    let _ ← client.requestPresented ⟨daemonProtocolVersion, params⟩
    pure (.extensionAck replyTo)
  | .requestResolve replyTo params => do
    let params ← FailState.lift (validateRequestResolveParams params)
    let _ ← client.requestResolve params
    pure (.extensionAck replyTo)
  | .requestReject replyTo params => do
    let _ ← client.requestReject ⟨daemonProtocolVersion, params⟩
    pure (.extensionAck replyTo)

def unsupportedVersion : NativeBridgeRequest → Option SharedError
  | .extensionRegister _ protocolVersion _ =>
    if protocolVersion ≠ nativeBridgeProtocolVersion then
      some ⟨.protocolVersionMismatch,
        "Unsupported native bridge protocol version " ++ toString protocolVersion, some false⟩
    else none
  | _ => none

def handleRequest (request : NativeBridgeRequest) (world : σ) : NativeBridgeResponse × σ :=
  match unsupportedVersion request with
  | some error => (.extensionError (some request.messageId) error, world)
  | none =>
    match callDaemon client request world with
    | (.ok response, world') => (response, world')
    | (.error error, world') => (.extensionError (some request.messageId) error, world')

end Requests

end StarcoinMcp.NativeHost
