import StarcoinMcp.Agent.RequestSupport
import StarcoinMcp.Lib.Interaction
import StarcoinMcp.Starmask.Server

/-! The local account agent. Its main loop is a program over what it asks of others: the
daemon behind its socket, the user at the prompt, the account manager and the file system.
Each operation of the account manager, and the writing of a key file, is one step that
succeeds or changes nothing. The heartbeat thread reads the shared heartbeat state and is
not part of the loop. -/

namespace StarcoinMcp.Agent

open Starmask

/-- The chain's crates, as far as the agent calls them. Errors are their texts. -/
structure Crates where
  /-- `AccountAddress::from_str` and its printer. -/
  parseAddress : String → Except String AccountAddress
  addressText : AccountAddress → String
  decodeRaw : List UInt8 → Except String RawUserTransaction
  encodeSigned : SignedUserTransaction → Except String (List UInt8)
  /-- `AccountPrivateKey`, by its bytes: the encoded form, the raw bytes, and the address. -/
  keyFromEncoded : String → Except String (List UInt8)
  keyFromBytes : List UInt8 → Except String (List UInt8)
  keyEncoded : List UInt8 → Except String String
  derivedAddress : List UInt8 → AccountAddress

/-- `AccountInfo` of the account manager. -/
structure LocalAccount where
  address : AccountAddress
  publicKey : List UInt8
  isDefault : Bool
  isReadonly : Bool
  isLocked : Bool
deriving DecidableEq, Repr

structure PromptApproval where
  approved : Bool
  password : Option String
deriving DecidableEq, Repr

structure Snapshot where
  lockState : LockState
  capabilities : List WalletCapability
  accounts : List BackendAccount
deriving DecidableEq, Repr

/-- The backend of the configuration that this agent serves. -/
structure LocalAccountAgent where
  crates : Crates
  config : LocalAccountDirBackendConfig
  walletInstanceId : WalletInstanceId
  unlockCacheTtl : DurationSeconds
  allowReadOnlyAccounts : Bool

/-! ## Operations -/

inductive AgentOp
  | listAccountInfos
  | accountInfo (address : AccountAddress)
  | unlockAccount (address : AccountAddress) (password : String) (ttl : DurationSeconds)
  | signTxn (address : AccountAddress) (rawTxn : RawUserTransaction)
  | signMessage (address : AccountAddress) (message : List UInt8)
  | createAccount (password : String)
  | importAccount (address : AccountAddress) (privateKey : List UInt8) (password : String)
  | exportAccount (address : AccountAddress) (password : String)
  | readToString (path : String)
  | writePrivateKeyFile (path encoded : String) (force : Bool)
  | promptForRequest (request : PulledRequest) (accountInfo : LocalAccount)
      (capabilities : List WalletCapability)
  | promptForCreateAccount (request : PulledRequest) (capabilities : List WalletCapability)
  | promptForImportAccount (request : PulledRequest) (capabilities : List WalletCapability)
  | newPresentationId
  | setLockState (lockState : LockState)
  | pushPresentedRequest (requestId : RequestId)
  | popPresentedRequest (requestId : RequestId)
  | backendRegister (params : BackendRegisterParams)
  | backendUpdateAccounts (params : BackendUpdateAccountsParams)
  | requestPullNext (walletInstanceId : WalletInstanceId)
  | requestPresented (params : MarkRequestPresentedCommand)
  | requestResolve (params : RequestResolveParams)
  | requestReject (params : RejectRequestCommand)
  | sleep

namespace AgentOp

abbrev Answer : AgentOp → Type
  | listAccountInfos => Except String (List LocalAccount)
  | accountInfo _ => Except String (Option LocalAccount)
  | unlockAccount .. => Except String Unit
  | signTxn .. => Except String SignedUserTransaction
  | signMessage .. => Except String String
  | createAccount _ => Except String AccountAddress
  | importAccount .. => Except String AccountAddress
  | exportAccount .. => Except String (List UInt8)
  | readToString _ => Except String String
  | writePrivateKeyFile .. => Except RequestRejection Unit
  | promptForRequest .. => Except RequestRejection PromptApproval
  | promptForCreateAccount .. => Except RequestRejection PromptApproval
  | promptForImportAccount .. => Except RequestRejection PromptApproval
  | newPresentationId => PresentationId
  | setLockState _ => Unit
  | pushPresentedRequest _ => Unit
  | popPresentedRequest _ => Unit
  | backendRegister _ => Except SharedError Bool
  | backendUpdateAccounts _ => Except SharedError Unit
  | requestPullNext _ => Except SharedError (Option PulledRequest)
  | requestPresented _ => Except SharedError Unit
  | requestResolve _ => Except SharedError Unit
  | requestReject _ => Except SharedError Unit
  | sleep => Unit

end AgentOp

/-- A program of the agent; an error ends it. -/
abbrev AgentProg := Prog AgentOp AgentOp.Answer String

/-- A closure over one request; an error is the reason to reject the request. -/
abbrev RequestProg := Prog AgentOp AgentOp.Answer RequestRejection

def ask {ε : Type} (o : AgentOp) : Prog AgentOp AgentOp.Answer ε o.Answer := Prog.ask o

/-- `?` on the answer of the daemon. -/
def daemonReply {α : Type} (reply : Except SharedError α) : AgentProg α :=
  Prog.lift (reply.mapError SharedError.display)

/-- `?` on an answer whose error becomes a rejection. -/
def orReject {α : Type} (answer : Except String α) (reasonCode : RejectReasonCode) (context : String) :
    RequestProg α :=
  Prog.lift (answer.mapError fun error => .new reasonCode (context ++ error))

/-! ## Account operations -/

namespace LocalAccountAgent

variable (agent : LocalAccountAgent)

def accountInfoToBackendAccount (account : LocalAccount) : BackendAccount where
  address := agent.crates.addressText account.address
  label := none
  publicKey := some (formatHexBytes account.publicKey)
  isDefault := account.isDefault
  isReadOnly := account.isReadonly
  isLocked := account.isLocked

def parseAccountAddress (accountAddress : String) : Except String AccountAddress :=
  (agent.crates.parseAddress accountAddress).mapError fun _ =>
    "invalid account address " ++ accountAddress

def signTransaction (request : PulledRequest) (address : AccountAddress) : RequestProg RequestResult := do
  let bytes ← Prog.lift (transactionToSign request)
  let rawTxn ← orReject (agent.crates.decodeRaw bytes) .invalidTransactionPayload
    "Invalid raw transaction payload: "
  if rawTxn.sender ≠ address then
    throw (.new .invalidTransactionPayload "Raw transaction sender does not match request account")
  else do
    let signedTxn ← orReject (← ask (.signTxn address rawTxn)) .backendUnavailable
      "Failed to sign transaction: "
    let signedTxnBytes ← orReject (agent.crates.encodeSigned signedTxn) .backendUnavailable
      "Failed to serialize signed transaction: "
    pure (.signedTransaction (formatHexBytes signedTxnBytes))

def signMessage (request : PulledRequest) (address : AccountAddress) : RequestProg RequestResult := do
  let message ← Prog.lift (messageToSign request)
  let signature ← orReject (← ask (.signMessage address message)) .backendUnavailable
    "Failed to sign message: "
  pure (.signedMessage signature)

def exportAccount (request : PulledRequest) (address : AccountAddress) (password : Option String) :
    RequestProg RequestResult := do
  let password ← Prog.lift (required password
    (.new .walletLocked "Account password is required for export"))
  let outputFile ← Prog.lift (required request.outputFile
    (.new .backendPolicyBlocked "Missing output file for account export"))
  let privateKeyBytes ← orReject (← ask (.exportAccount address password)) .walletLocked
    "Failed to export local account: "
  if privateKeyBytes.isEmpty then
    throw (.new .unsupportedOperation "Account has no exportable private key; it may be read-only")
  else do
    let privateKey ← orReject (agent.crates.keyFromBytes privateKeyBytes) .backendUnavailable
      "Exported account private key is invalid: "
    let encoded ← orReject (agent.crates.keyEncoded privateKey) .backendUnavailable
      "Failed to encode account private key: "
    Prog.lift (← ask (.writePrivateKeyFile outputFile encoded request.force))
    pure (.exportedAccount (agent.crates.addressText address) outputFile)

/-- Reads back an account the manager has just stored. -/
def storedAccount (address : AccountAddress) (loading missing : String) : RequestProg LocalAccount := do
  let accountInfo ← orReject (← ask (.accountInfo address)) .backendUnavailable loading
  Prog.lift (required accountInfo (.new .backendUnavailable missing))

def createAccount (password : String) : RequestProg RequestResult := do
  if password.isEmpty then
    throw (.new .backendPolicyBlocked "Account password cannot be empty")
  else do
    let address ← orReject (← ask (.createAccount password)) .backendUnavailable
      "Failed to create local account: "
    let account ← storedAccount address "Failed to load created account: "
      "Created account was not visible after creation"
    pure (.createdAccount (agent.crates.addressText account.address) (formatHexBytes account.publicKey)
      .ed25519 account.isDefault account.isLocked)

/-- The key of an import request and the address it is for, checked against each other. -/
def keyToImport (request : PulledRequest) (privateKeyData : String) :
    Except RequestRejection (AccountAddress × List UInt8) := do
  let privateKey ← (agent.crates.keyFromEncoded (Text.trim privateKeyData)).mapError fun error =>
    .new .backendPolicyBlocked ("Invalid private key file: " ++ error)
  if Text.isBlank request.accountAddress then
    throw (.new .backendPolicyBlocked "Import request is missing the expected account address")
  else do
    let address ← (agent.parseAccountAddress request.accountAddress).mapError
      (.new .backendPolicyBlocked)
    if address ≠ agent.crates.derivedAddress privateKey then
      throw (.new .backendPolicyBlocked
        "Requested import address does not match the private key's derived address")
    else pure (address, privateKey)

def importAccount (request : PulledRequest) (password : String) : RequestProg RequestResult := do
  if password.isEmpty then
    throw (.new .backendPolicyBlocked "Account password cannot be empty")
  else do
    let privateKeyFile ← Prog.lift (required request.privateKeyFile
      (.new .backendPolicyBlocked "Missing private key file for account import"))
    let privateKeyData ← orReject (← ask (.readToString privateKeyFile)) .backendUnavailable
      "Failed to read private key file: "
    let (address, privateKey) ← Prog.lift (agent.keyToImport request privateKeyData)
    let address ← orReject (← ask (.importAccount address privateKey password)) .backendUnavailable
      "Failed to import local account: "
    let account ← storedAccount address "Failed to load imported account: "
      "Imported account was not visible after import"
    pure (.importedAccount (agent.crates.addressText account.address) (formatHexBytes account.publicKey)
      .ed25519 account.isDefault account.isLocked)

def ensureLocalUnlockCapability (accountLocked : Bool) (capabilities : List WalletCapability) :
    Except RequestRejection Unit :=
  if accountLocked ∧ WalletCapability.unlock ∉ capabilities then
    .error (.new .walletLocked "Local account is locked")
  else .ok ()

/-- Unlocks the account if it is locked. -/
def unlockAccount (address : AccountAddress) (accountInfo : LocalAccount)
    (capabilities : List WalletCapability) (password : Option String) : RequestProg Unit := do
  if accountInfo.isLocked then do
    Prog.lift (ensureLocalUnlockCapability accountInfo.isLocked capabilities)
    let password ← Prog.lift (required password (.new .walletLocked "Local account is locked"))
    orReject (← ask (.unlockAccount address password agent.unlockCacheTtl)) .walletLocked
      "Failed to unlock local account: "
  else pure ()

def fulfillRequest (request : PulledRequest) (address : AccountAddress) (accountInfo : LocalAccount)
    (capabilities : List WalletCapability) (password : Option String) : RequestProg RequestResult := do
  agent.unlockAccount address accountInfo capabilities password
  match request.kind with
  | .signTransaction => agent.signTransaction request address
  | .signMessage => signMessage request address
  | .exportAccount => agent.exportAccount request address password
  | .createAccount => throw (.new .unsupportedOperation
      "CreateAccount requests must use the dedicated create-account flow")
  | .importAccount => throw (.new .unsupportedOperation
      "ImportAccount requests must use the dedicated import-account flow")

/-! ## Replies to the daemon -/

/-- The parameters of `request.resolve` with no result in them. -/
def emptyResolveParams (requestId : RequestId) (presentationId : PresentationId) (resultKind : ResultKind) :
    RequestResolveParams where
  walletInstanceId := agent.walletInstanceId
  requestId := requestId
  presentationId := presentationId
  resultKind := resultKind
  signedTxnBcsHex := none
  signature := none
  createdAccountAddress := none
  createdAccountPublicKey := none
  createdAccountCurve := none
  createdAccountIsDefault := none
  createdAccountIsLocked := none
  exportedAccountAddress := none
  exportedAccountOutputFile := none
  importedAccountAddress := none
  importedAccountPublicKey := none
  importedAccountCurve := none
  importedAccountIsDefault := none
  importedAccountIsLocked := none

/-- The parameters `resolve_request` builds from a result. -/
def resolveParams (requestId : RequestId) (presentationId : PresentationId) :
    RequestResult → RequestResolveParams
  | .signedTransaction signedTxnBcsHex =>
    { agent.emptyResolveParams requestId presentationId .signedTransaction with
      signedTxnBcsHex := some signedTxnBcsHex }
  | .signedMessage signature =>
    { agent.emptyResolveParams requestId presentationId .signedMessage with
      signature := some signature }
  | .createdAccount address publicKey curve isDefault isLocked =>
    { agent.emptyResolveParams requestId presentationId .createdAccount with
      createdAccountAddress := some address
      createdAccountPublicKey := some publicKey
      createdAccountCurve := some curve
      createdAccountIsDefault := some isDefault
      createdAccountIsLocked := some isLocked }
  | .exportedAccount address outputFile =>
    { agent.emptyResolveParams requestId presentationId .exportedAccount with
      exportedAccountAddress := some address
      exportedAccountOutputFile := some outputFile }
  | .importedAccount address publicKey curve isDefault isLocked =>
    { agent.emptyResolveParams requestId presentationId .importedAccount with
      importedAccountAddress := some address
      importedAccountPublicKey := some publicKey
      importedAccountCurve := some curve
      importedAccountIsDefault := some isDefault
      importedAccountIsLocked := some isLocked }

def resolveRequest (request : PulledRequest) (presentationId : PresentationId) (result : RequestResult) :
    AgentProg Unit := do
  daemonReply (← ask (.requestResolve (agent.resolveParams request.requestId presentationId result)))

def rejectRequest (request : PulledRequest) (presentationId : Option PresentationId)
    (rejection : RequestRejection) : AgentProg Unit := do
  daemonReply (← ask (.requestReject ⟨request.requestId, agent.walletInstanceId, presentationId,
    rejection.reasonCode, rejection.message⟩))

/-! ## One request -/

/-- `request.presentation_id.clone().unwrap_or_else(new_presentation_id)`. -/
def presentationIdFor (request : PulledRequest) : AgentProg PresentationId :=
  match request.presentationId with
  | some presentationId => pure presentationId
  | none => ask .newPresentationId

/-- `request.presented`, and the heartbeat learns of the request. -/
def presentRequest (request : PulledRequest) : AgentProg PresentationId := do
  let presentationId ← presentationIdFor request
  daemonReply (← ask (.requestPresented ⟨request.requestId, agent.walletInstanceId,
    request.deliveryLeaseId, presentationId⟩))
  ask (.pushPresentedRequest request.requestId)
  pure presentationId

/-- The end of all three handlers: the outcome of the closure goes to the daemon. -/
def concludeRequest (request : PulledRequest) (presentationId : PresentationId) :
    Except RequestRejection RequestResult → AgentProg Unit
  | .ok result => agent.resolveRequest request presentationId result
  | .error rejection => agent.rejectRequest request (some presentationId) rejection

/-- From the presentation to the reply, with `closure` in between. -/
def withPresentation (request : PulledRequest) (closure : RequestProg RequestResult) :
    AgentProg Unit := do
  let presentationId ← agent.presentRequest request
  let result ← closure.outcome
  ask (.popPresentedRequest request.requestId)
  agent.concludeRequest request presentationId result

/-- The closure of the create and the import handler: no more than an approval and a password
stands between the prompt and the account manager. -/
def approvedWithPassword (approval : PromptApproval) (rejected missing : String)
    (act : String → RequestProg RequestResult) : RequestProg RequestResult := do
  if !approval.approved then throw (.new .requestRejected rejected)
  else do
    let password ← Prog.lift (required approval.password (.new .backendPolicyBlocked missing))
    act password

def handleCreateAccountRequest (request : PulledRequest) (snapshot : Snapshot) : AgentProg Unit :=
  agent.withPresentation request do
    let approval ← Prog.lift (← ask (.promptForCreateAccount request snapshot.capabilities))
    approvedWithPassword approval "User rejected the account-creation request"
      "Account creation requires a password" agent.createAccount

def handleImportAccountRequest (request : PulledRequest) (snapshot : Snapshot) : AgentProg Unit :=
  agent.withPresentation request do
    let approval ← Prog.lift (← ask (.promptForImportAccount request snapshot.capabilities))
    approvedWithPassword approval "User rejected the account-import request"
      "Account import requires a password" (agent.importAccount request)

def loadSigningAccountInfo (address : AccountAddress) : RequestProg LocalAccount := do
  let found ← orReject (← ask (.accountInfo address)) .backendUnavailable
    "Failed to read local account state: "
  let accountInfo ← Prog.lift (required found
    (.new .backendUnavailable "Requested account is no longer available"))
  if accountInfo.isReadonly then
    throw (.new .unsupportedOperation "Read-only accounts cannot sign")
  else pure accountInfo

/-- The closure of the other requests: the account is read again after the approval. -/
def signingClosure (request : PulledRequest) (snapshot : Snapshot) (address : AccountAddress)
    (accountInfo : LocalAccount) : RequestProg RequestResult := do
  let approval ← Prog.lift
    (← ask (.promptForRequest request accountInfo snapshot.capabilities))
  if approval.approved then do
    let accountInfo ← loadSigningAccountInfo address
    agent.fulfillRequest request address accountInfo snapshot.capabilities approval.password
  else throw (.new .requestRejected "User rejected the signing request")

def handleSigningRequest (request : PulledRequest) (snapshot : Snapshot) : AgentProg Unit := do
  let address ← Prog.lift (agent.parseAccountAddress request.accountAddress)
  match ← (loadSigningAccountInfo address).outcome with
  | .error rejection => agent.rejectRequest request request.presentationId rejection
  | .ok accountInfo =>
    agent.withPresentation request (agent.signingClosure request snapshot address accountInfo)

def handleRequest (request : PulledRequest) (snapshot : Snapshot) : AgentProg Unit :=
  match request.kind with
  | .createAccount => agent.handleCreateAccountRequest request snapshot
  | .importAccount => agent.handleImportAccountRequest request snapshot
  | .signTransaction | .signMessage | .exportAccount => agent.handleSigningRequest request snapshot

/-! ## The main loop -/

def snapshotOf (infos : List LocalAccount) : Snapshot :=
  let accounts := ((infos.filter fun account => agent.allowReadOnlyAccounts || !account.isReadonly).map
    agent.accountInfoToBackendAccount).insertionSort fun left right => left.address ≤ right.address
  let hasSignable := accounts.any fun account => !account.isReadOnly
  { lockState :=
      if !hasSignable then .unknown
      else if accounts.any (fun account => !account.isReadOnly && !account.isLocked) then .unlocked
      else .locked
    capabilities :=
      if hasSignable then
        [.unlock, .getPublicKey, .signMessage, .signTransaction, .createAccount, .exportAccount,
          .importAccount]
      else if accounts.any (fun account => account.publicKey.isSome) then
        [.getPublicKey, .createAccount, .importAccount]
      else [.createAccount, .importAccount]
    accounts := accounts }

/-- Reads the accounts and tells the heartbeat their lock state. -/
def snapshot : AgentProg Snapshot := do
  let infos ← Prog.lift (Except.mapError (fun _ => "failed to list local accounts")
    (← ask .listAccountInfos))
  ask (.setLockState (agent.snapshotOf infos).lockState)
  pure (agent.snapshotOf infos)

def registrationParams (snapshot : Snapshot) : BackendRegisterParams where
  walletInstanceId := agent.walletInstanceId
  backendKind := .localAccountDir
  transportKind := .localSocket
  approvalSurface := agent.config.approvalSurface
  instanceLabel := agent.config.instanceLabel
  lockState := snapshot.lockState
  capabilities := snapshot.capabilities
  backendMetadata :=
    ⟨"\x7b\"account_provider_kind\":\"local\",\"prompt_mode\":\"tty_prompt\"\x7d"⟩
  accounts := snapshot.accounts

def registerBackend : AgentProg Snapshot := do
  let snapshot ← agent.snapshot
  let accepted ← daemonReply (← ask (.backendRegister (agent.registrationParams snapshot)))
  if !accepted then
    throw ("daemon rejected backend registration for " ++ agent.walletInstanceId.value)
  else pure snapshot

def syncSnapshot (current : Snapshot) : AgentProg Snapshot := do
  let next ← agent.snapshot
  if current = next then pure current
  else do
    daemonReply (← ask (.backendUpdateAccounts ⟨agent.walletInstanceId, next.lockState,
      next.capabilities, next.accounts⟩))
    pure next

/-- So many rounds of the loop of `run`; the loop itself has no end. -/
def rounds : ℕ → Snapshot → AgentProg Unit
  | 0, _ => Prog.halt .unfinished
  | n + 1, current => do
    let current ← agent.syncSnapshot current
    match ← ask (.requestPullNext agent.walletInstanceId) with
    | .ok (some request) => do
      agent.handleRequest request current
      let current ← agent.syncSnapshot current
      rounds n current
    | .ok none | .error _ => do
      ask .sleep
      rounds n current

def run (n : ℕ) : AgentProg Unit := do
  let current ← agent.registerBackend
  agent.rounds n current

end LocalAccountAgent

/-! ## A sample agent -/

namespace Sample

/-- Crates for inputs that hold no transaction and no key. -/
def crates : Crates where
  parseAddress text := do
    let bytes ← decodeHexBytes text
    if h : bytes.length = 16 then .ok ⟨bytes, h⟩ else .error "invalid account address"
  addressText address := formatHexBytes address.bytes
  decodeRaw _ := .error "unexpected end of input"
  encodeSigned _ := .error "not supported"
  keyFromEncoded _ := .error "not a private key"
  keyFromBytes _ := .error "not a private key"
  keyEncoded _ := .error "not a private key"
  derivedAddress _ := coreCodeAddress

def wallet : WalletInstanceId := ⟨"wallet-1", .refl false⟩

def agent : LocalAccountAgent where
  crates := crates
  config := ⟨"wallet-1", "local", .ttyPrompt⟩
  walletInstanceId := wallet
  unlockCacheTtl := 300
  allowReadOnlyAccounts := false

end Sample

end StarcoinMcp.Agent
