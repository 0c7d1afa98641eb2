import StarcoinMcp.Node.Bootstrap

/-! Preparing and simulating transactions. Three tools build a payload and share the
rest: pick the sequence number, the gas price and the expiration, encode, dry-run when a
public key is at hand, and note the encoded transaction in the ledger. A simulation on
its own writes to the same ledger. -/

namespace StarcoinMcp.Node

/-! ## The ledger of prepared transactions -/

namespace AppContext

variable (ctx : AppContext)

/-- `max_expiration_ttl + max_watch_timeout`, whose overflow panics. -/
def retention : Call Duration :=
  match ctx.config.maxExpirationTtl.checkedAdd ctx.config.maxWatchTimeout with
  | some retention => pure retention
  | none => .halt (.panicked "overflow when adding durations")

def prunePreparedTransactions : Call Unit := do
  let retention ← ctx.retention
  loc (.prunePrepared retention)

def loadPreparedTransactionRecord (rawTxnBcsHex : List Char) :
    Call (Option PreparedTransactionRecord) := do
  ctx.prunePreparedTransactions
  loc (.getPrepared rawTxnBcsHex)

def recordPreparedTransaction (rawTxnBcsHex : List Char) (chainContext : ChainContext)
    (simulationStatus : SimulationStatus) : Call Unit := do
  ctx.prunePreparedTransactions
  loc (.insertPrepared rawTxnBcsHex simulationStatus chainContext)

end AppContext

def ensureTransactionMode (mode : Mode) : Except SharedError Unit :=
  if mode ≠ .transaction then
    throw (.new .permissionDenied "transaction tools are disabled in read_only mode")
  else pure ()

/-! ## Payloads -/

section Payload

variable (vm : Vm2)

def parseAddress (fieldName input : String) : Except SharedError AccountAddress :=
  (vm.parseAddress input).mapError fun e =>
    .new .invalidAddress s!"invalid {fieldName} address {input}: {e}"

def parseTokenCode : Option String → Except SharedError TokenCode
  | some value => (vm.parseTokenCode value).mapError fun e =>
      .new .invalidAsset s!"invalid token code {value}: {e}"
  | none => pure vm.stcTokenCode

def normalizeGasTokenCode : Option String → Except SharedError String
  | some value => (parseTokenCode vm (some value)).map vm.tokenText
  | none => pure (vm.tokenText vm.stcTokenCode)

def invalidPayload (context : String) (e : String) : SharedError :=
  .new .invalidPackagePayload (context ++ ": " ++ e)

def buildContractCallPayload (functionId : String) (typeArgs args : List String) :
    Except SharedError TransactionPayload := do
  let (module, function) ← (vm.parseFunctionId functionId).mapError
    (invalidPayload s!"invalid function id {functionId}")
  let parsedTypeArgs ← (typeArgs.mapM vm.parseTypeTag).mapError (invalidPayload "invalid type args")
  let parsedArgs ← (args.mapM vm.parseTransactionArgument).mapError
    (invalidPayload "invalid transaction args")
  pure (.entryFunction ⟨module, function, parsedTypeArgs, vm.convertTxnArgs parsedArgs⟩)

def buildTransferPayload (receiver : AccountAddress) (amount : BitVec 128) (tokenCode : TokenCode) :
    Except SharedError TransactionPayload := do
  let tokenType ← (vm.tokenType tokenCode).mapError
    (invalidPayload "invalid token code type conversion")
  let moduleName ← (vm.identifier "transfer_scripts").mapError
    (invalidPayload "failed to construct transfer module identifier")
  let function ← (vm.identifier "peer_to_peer_v2").mapError
    (invalidPayload "failed to construct transfer function identifier")
  let receiverArg ← (vm.encodeAddress receiver).mapError
    (invalidPayload "failed to encode transfer receiver")
  let amountArg ← (vm.encodeU128 amount).mapError
    (invalidPayload "failed to encode transfer amount")
  pure (.entryFunction ⟨⟨coreCodeAddress, moduleName⟩, function, [.struct tokenType],
    [receiverArg, amountArg]⟩)

end Payload

def multiplyU64ToString (left right : UInt64) : String := toString (left.toNat * right.toNat)

/-! ## Dry runs -/

def fieldOrOutput (simulation : Value) (field : String) : Option Value :=
  (simulation.get field).or ((simulation.get "txn_output").bind (Value.get field))

def normalizeSimulation (simulation : Value) : SimulationResult :=
  let status := ((extractOptionalString simulation ["status"]).or
    (extractOptionalString simulation ["txn_output", "status"])).getD "Unknown"
  { executed := Text.eqIgnoreAsciiCase status "executed" ||
      Text.eqIgnoreAsciiCase status "\"executed\""
    vmStatus := status
    gasUsed := ((extractOptionalU64 simulation ["gas_used"]).or
      (extractOptionalU64 simulation ["txn_output", "gas_used"])).getD 0
    events := ((fieldOrOutput simulation "events").bind Value.asArray).getD []
    writeSetSummary := ((fieldOrOutput simulation "write_set").bind Value.asArray).getD []
    raw := simulation }

/-- A dry run that did not execute is an error of the tool. -/
def ensureExecuted (simulation : Value) : Except SharedError SimulationResult :=
  if (normalizeSimulation simulation).executed then pure (normalizeSimulation simulation)
  else throw ((SharedError.new .simulationFailed
    "dry run returned a failed execution status").withDetails
      (.object [("simulation", simulation)]))

namespace AppContext

variable (ctx : AppContext)

/-! ## Choices -/

/-- What the two lookups of a sender's sequence number come to. -/
def combineSequence (address : String) (txpoolNext : Option UInt64) (onchainState : Option Value) :
    Except SharedError (UInt64 × SequenceNumberSource) :=
  match onchainState.bind (fun value => extractOptionalU64 value ["sequence_number"]), txpoolNext with
  | some onchain, some txpool => .ok (max onchain txpool, .maxOfOnchainAndTxpool)
  | some onchain, none => .ok (onchain, .onchain)
  | none, some txpool => .ok (txpool, .txpool)
  | none, none => .error (.new .missingSender
      s!"unable to derive sequence number for account {address}")

/-- A txpool that cannot be asked is one that knows nothing. -/
def degradeSequenceLookup : Except SharedError (Option UInt64) → Except SharedError (Option UInt64)
  | .ok next => .ok next
  | .error e => if isDegradableSequenceLookupError e then .ok none else .error e

def resolveSequenceNumber (address : String) (callerSequenceNumber : Option UInt64) :
    Call (UInt64 × SequenceNumberSource) :=
  match callerSequenceNumber with
  | some sequenceNumber => pure (sequenceNumber, .caller)
  | none => do
    let txpoolNext ← Prog.lift (degradeSequenceLookup (← rpc (.nextSequenceNumber address)))
    let onchainState ← Prog.lift (← rpc (.getAccountState address))
    Prog.lift (combineSequence address txpoolNext onchainState)

def resolveGasPrice (callerGasPrice : Option UInt64) : Call (UInt64 × GasUnitPriceSource) :=
  match callerGasPrice with
  | some gasPrice => pure (gasPrice, .caller)
  | none => do
    match ← rpc .gasPrice with
    | .ok gasPrice => pure (gasPrice, .txpool)
    | .error _ => pure (1, .defaultConfig)

def resolveExpiration (nowSeconds : UInt64) (requestedExpiration : Option UInt64) :
    Except SharedError UInt64 :=
  let maxExpiration := saturatingAdd nowSeconds ctx.config.maxExpirationTtl.asSecs
  match requestedExpiration with
  | some value =>
    if value < nowSeconds then
      throw (.new .transactionExpired
        s!"requested expiration {value} is earlier than current node time {nowSeconds}")
    else pure (min value maxExpiration)
  | none => pure (saturatingAdd nowSeconds ctx.config.defaultExpirationTtl.asSecs)

/-! ## The tools -/

structure PreparedTransferDetails where
  receiver : String
  amount : String
  tokenCode : String

/-- The dry run of a preparation: only a sender whose public key is known gets one. -/
def simulatePrepared (rawTxnBcsHex : List Char) (senderPublicKey : Option String) :
    Call (SimulationStatus × Option SimulationResult × NextAction) :=
  match senderPublicKey with
  | some publicKey => do
    let dryRun ← Prog.lift (← rpc (.dryRunRaw rawTxnBcsHex publicKey))
    let normalized ← Prog.lift (ensureExecuted dryRun)
    pure (.performed, some normalized, .signTransaction)
  | none => pure (.skippedMissingPublicKey, none, .getPublicKeyThenSimulateOrSign)

def prepareTransaction (sender : AccountAddress) (options : PrepareOptions)
    (payload : TransactionPayload) (transactionKind : TransactionKind) (transactionSummary : Value)
    (transferDetails : Option PreparedTransferDetails) : Call PreparationResult := do
  Prog.lift (ensureTransactionMode ctx.mode)
  ctx.ensureTransactionCapabilitiesCurrent
  let snapshot ← ctx.loadTransactionEndpointSnapshot
  let (sequenceNumber, sequenceNumberSource) ←
    resolveSequenceNumber (ctx.vm.addressText sender) options.sequenceNumber
  let (gasUnitPrice, gasUnitPriceSource) ← resolveGasPrice options.gasUnitPrice
  let expirationTimestampSecs ←
    Prog.lift (ctx.resolveExpiration snapshot.nowSeconds options.expirationTimeSecs)
  let maxGasAmount := options.maxGasAmount.getD 10000000
  let gasTokenCode ← Prog.lift (normalizeGasTokenCode ctx.vm options.gasToken)
  let rawTxn : RawUserTransaction := {
    sender := sender
    sequenceNumber := sequenceNumber
    payload := payload
    maxGasAmount := maxGasAmount
    gasUnitPrice := gasUnitPrice
    expirationTimestampSecs := expirationTimestampSecs
    chainId := snapshot.chainContext.chainId
    gasTokenCode := gasTokenCode }
  let rawTxnBcsHex ← Prog.lift (encodeHexBcs ctx.vm rawTxn)
  let rawTxnView ← Prog.lift ((ctx.vm.transactionRequest rawTxn).mapError
    (invalidPayload "failed to serialize raw transaction view"))
  let preparedAt ← clock .rfc3339Now
  let (simulationStatus, simulation, nextAction) ←
    simulatePrepared rawTxnBcsHex options.senderPublicKey
  ctx.recordPreparedTransaction rawTxnBcsHex snapshot.chainContext simulationStatus
  pure {
    transactionKind := transactionKind
    rawTxnBcsHex := rawTxnBcsHex
    rawTxn := rawTxnView
    transactionSummary := transactionSummary
    chainContext := snapshot.chainContext
    preparedAt := preparedAt
    sequenceNumberSource := sequenceNumberSource
    gasUnitPriceSource := gasUnitPriceSource
    simulationStatus := simulationStatus
    simulation := simulation
    executionFacts := {
      sender := ctx.vm.addressText sender
      sequenceNumber := sequenceNumber
      maxGasAmount := maxGasAmount
      gasUnitPrice := gasUnitPrice
      gasTokenCode := gasTokenCode
      expirationTimestampSecs := expirationTimestampSecs
      chainId := snapshot.chainContext.chainId
      estimatedMaxNetworkFee := multiplyU64ToString maxGasAmount gasUnitPrice
      estimatedNetworkFee :=
        simulation.map fun result => multiplyU64ToString result.gasUsed gasUnitPrice
      transferReceiver := transferDetails.map PreparedTransferDetails.receiver
      transferAmount := transferDetails.map PreparedTransferDetails.amount
      transferTokenCode := transferDetails.map PreparedTransferDetails.tokenCode }
    nextAction := nextAction }

def prepareTransfer (input : PrepareTransferInput) : Call PreparationResult := do
  let sender ← Prog.lift (parseAddress ctx.vm "sender" input.sender)
  let receiver ← Prog.lift (parseAddress ctx.vm "receiver" input.receiver)
  let amount ← Prog.lift ((Text.parseUnsigned (2 ^ 128) input.amount).mapError fun e =>
    SharedError.new .invalidAmount ("invalid transfer amount: " ++ e.text))
  let tokenCode ← Prog.lift (parseTokenCode ctx.vm input.tokenCode)
  let payload ← Prog.lift (buildTransferPayload ctx.vm receiver (BitVec.ofNat 128 amount) tokenCode)
  ctx.prepareTransaction sender input.toPrepareOptions payload .transfer
    (.object [("kind", .string "transfer"), ("sender", .string input.sender),
      ("receiver", .string input.receiver), ("amount", .string input.amount),
      ("token_code", .string (ctx.vm.tokenText tokenCode))])
    (some ⟨input.receiver, input.amount, ctx.vm.tokenText tokenCode⟩)

def prepareContractCall (input : PrepareContractCallInput) : Call PreparationResult := do
  let sender ← Prog.lift (parseAddress ctx.vm "sender" input.sender)
  let payload ← Prog.lift
    (buildContractCallPayload ctx.vm input.functionId input.typeArgs input.args)
  ctx.prepareTransaction sender input.toPrepareOptions payload .contractCall
    (.object [("kind", .string "contract_call"), ("sender", .string input.sender),
      ("function_id", .string input.functionId),
      ("type_args", .array (input.typeArgs.map .string)),
      ("args", .array (input.args.map .string))])
    none

def tryExpensivePermit : Call Unit := do
  if !(← loc .tryExpensivePermit) then
    throw (SharedError.retry .rateLimited "max_inflight_expensive_requests is exhausted")

/-- `prepare_publish_package` while it holds its permit. -/
def preparePublishPackageBody (input : PreparePublishPackageInput) : Call PreparationResult :=
  let payloadLen :=
    ((Text.trimStartHexMarker input.packageBcsHex).flatMap String.utf8EncodeChar).length / 2
  if ctx.config.maxPublishPackageBytes.toNat < payloadLen then
    throw (SharedError.new .payloadTooLarge
      (s!"package payload is {payloadLen} bytes, above max_publish_package_bytes " ++
        s!"{ctx.config.maxPublishPackageBytes}"))
  else do
    let sender ← Prog.lift (parseAddress ctx.vm "sender" input.sender)
    let packageBytes ← Prog.lift (decodeHexBytes input.packageBcsHex)
    let package ← Prog.lift ((ctx.vm.decodePackage packageBytes).mapError
      (invalidPayload "invalid package bcs payload"))
    ctx.prepareTransaction sender input.toPrepareOptions (.package package) .publishPackage
      (.object [("kind", .string "publish_package"), ("sender", .string input.sender),
        ("module_count", .number (.posInt (UInt64.ofNat package.modules.length))),
        ("package_bytes", .number (.posInt (UInt64.ofNat payloadLen)))])
      none

def preparePublishPackage (input : PreparePublishPackageInput) : Call PreparationResult := do
  tryExpensivePermit
  let outcome ← (ctx.preparePublishPackageBody input).attempt
  loc .dropExpensivePermit
  Prog.lift outcome

def simulateRawTransaction (input : SimulateRawTransactionInput) :
    Call SimulateRawTransactionOutput := do
  ctx.ensureTransactionCapabilitiesCurrent
  let snapshot ← ctx.loadTransactionEndpointSnapshot
  let rawTxnBcsHex ← Prog.lift (canonicalHexPayload input.rawTxnBcsHex)
  let simulation ← Prog.lift (← rpc (.dryRunRaw rawTxnBcsHex input.senderPublicKey))
  let normalized ← Prog.lift (ensureExecuted simulation)
  ctx.recordPreparedTransaction rawTxnBcsHex snapshot.chainContext .performed
  pure {
    simulation := simulation
    executed := normalized.executed
    vmStatus := normalized.vmStatus
    gasUsed := normalized.gasUsed
    events := normalized.events
    writeSetSummary := normalized.writeSetSummary }

end AppContext

end StarcoinMcp.Node
