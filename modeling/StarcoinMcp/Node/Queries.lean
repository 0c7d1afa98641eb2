import StarcoinMcp.Node.Resources

/-! The other query tools, over the same endpoint. A tool asks for a capability where it has
one to ask for; two of them have none, and go to the endpoint as they are. -/

namespace StarcoinMcp.Node

open Prog

/-! ## The client -/

/-- The second version's method and the first version's, as far as the profile allows them. -/
def VmProfile.transactionMethods (vmProfile : VmProfile) (preferred fallback : String) : List String :=
  match vmProfile with
  | .vm2Only => [preferred]
  | .vm1Only => [fallback]
  | .auto => [preferred, fallback]

def zeroHash : String := "0x0000000000000000000000000000000000000000000000000000000000000000"

def stringValues (texts : List String) : Value := .array (texts.map .string)

def optionalNumber : Option UInt64 → Value
  | some n => .number (.posInt n)
  | none => .null

/-- What a call reads its result as. -/
abbrev Reading (α : Type) := Value → Except SharedError α

def asValue : Reading Value := .ok

def asOptional : Reading (Option Value) := fun value => .ok (NodeRpcClient.optional value)

def asVec : Reading (List Value) := fun value =>
  match value.asArray with
  | some items => .ok items
  | none => .error (.new .rpcUnavailable "invalid rpc result payload")

def asBool : Reading Bool
  | .bool b => .ok b
  | _ => .error (.new .rpcUnavailable "invalid rpc result payload")

namespace NodeRpcClient

variable (vmProfile : VmProfile)

/-- `call`, for a result of any type. -/
def callAs {α : Type} (reading : Reading α) (method : String) (params : Value) : Query α := do
  let reply ← call method params
  lift (reply.bind reading)

/-- `call_first_available`, `call_first_available_value` and `call_first_available_vec`. -/
def callFirstAvailable {α : Type} (reading : Reading α) (methods : List String) (params : Value) :
    Query α :=
  go methods
where
  go : List String → Query α
    | [] => throw (.new .unsupportedOperation
        ("none of the candidate rpc methods are available: " ++ ", ".intercalate methods))
    | method :: rest => do
      match ← (callAs reading method params).attempt with
      | .ok value => pure value
      | .error error => if error.code = .unsupportedOperation then go rest else throw error

/-- A method that the endpoint need not have. -/
def optionalCallValue (method : String) (params : Value) : Query (Option Value) := do
  match ← (callAs asOptional method params).attempt with
  | .ok value => pure value
  | .error error => if error.code = .unsupportedOperation then pure none else throw error

/-- `cached_value`, for what the cache holds under the key. -/
def cachedValue (held : Option Value) (loader : Query Value) : Query Value :=
  match held with
  | some value => pure value
  | none => loader

def nodeInfo : Query Value := callAs asValue "node.info" (.array [])

def chainInfoUncached : Query Value := callAs asValue "chain.info" (.array [])

def nodePeers : Query (Option Value) := optionalCallValue "node.peers" (.array [])

def syncStatus : Query (Option Value) := optionalCallValue "sync.status" (.array [])

def txpoolState : Query (Option Value) := optionalCallValue "txpool.state" (.array [])

def getBlock (blockHash : Option String) (blockNumber : Option UInt64) (decode includeRaw : Bool) :
    Query (Option Value) :=
  let option := Value.object [("decode", .bool decode), ("raw", .bool includeRaw)]
  match blockHash, blockNumber with
  | some hash, none => callAs asOptional "chain.get_block_by_hash" (.array [.string hash, option])
  | none, some number =>
    callAs asOptional "chain.get_block_by_number" (.array [.number (.posInt number), option])
  | _, _ => throw (.new .unsupportedOperation
      "get_block requires exactly one of block_hash or block_number")

def listBlocks (fromBlockNumber : Option UInt64) (count : UInt64) (reverse : Bool) :
    Query (List Value) :=
  callAs asVec "chain.get_blocks_by_number"
    (.array [optionalNumber fromBlockNumber, .number (.posInt count),
      .object [("reverse", .bool reverse), ("decode", .bool true), ("raw", .bool false)]])

def getTransaction (txnHash : String) (decode : Bool) : Query (Option Value) :=
  callFirstAvailable asOptional
    (vmProfile.transactionMethods "chain.get_transaction2" "chain.get_transaction")
    (.array [.string txnHash, .object [("decode", .bool decode)]])

def getTransactionInfo (txnHash : String) : Query (Option Value) :=
  callFirstAvailable asOptional
    (vmProfile.transactionMethods "chain.get_transaction_info2" "chain.get_transaction_info")
    (.array [.string txnHash])

def getEventsByTxnHash (txnHash : String) (decode : Bool) : Query (List Value) :=
  callFirstAvailable asVec
    (vmProfile.transactionMethods "chain.get_events_by_txn_hash2" "chain.get_events_by_txn_hash")
    (.array [.string txnHash, .object [("decode", .bool decode)]])

def getEvents (fromBlock toBlock : Option UInt64) (eventKeys addresses typeTags : List String)
    (limit : UInt64) (decode : Bool) : Query (List Value) :=
  let filter := Value.object [("from_block", optionalNumber fromBlock),
    ("to_block", optionalNumber toBlock), ("event_keys", stringValues eventKeys),
    ("addrs", stringValues addresses), ("type_tags", stringValues typeTags)]
  callAs asVec "chain.get_events"
    (.array [filter, .object [("limit", .number (.posInt limit)), ("decode", .bool decode)]])

def resolveFunctionAbi (held : Option Value) (functionId : String) : Query Value :=
  cachedValue held (callFirstAvailable asValue
    (vmProfile.transactionMethods "contract2.resolve_function" "contract.resolve_function")
    (.array [.string functionId]))

def resolveStructAbi (held : Option Value) (structTag : String) : Query Value :=
  cachedValue held (callFirstAvailable asValue
    (vmProfile.transactionMethods "contract2.resolve_struct" "contract.resolve_struct")
    (.array [.string structTag]))

def resolveModuleAbi (held : Option Value) (moduleId : String) : Query Value :=
  cachedValue held (callFirstAvailable asValue
    (vmProfile.transactionMethods "contract2.resolve_module" "contract.resolve_module")
    (.array [.string moduleId]))

def callViewFunction (functionId : String) (typeArgs args : List String) : Query (List Value) :=
  callFirstAvailable asVec (vmProfile.transactionMethods "contract2.call_v2" "contract.call_v2")
    (.array [.object [("function_id", .string functionId), ("type_args", stringValues typeArgs),
      ("args", stringValues args)]])

def gasPrice : Query UInt64 := do
  let value ← callAs asValue "txpool.gas_price" (.array [])
  match value.parseU64 with
  | some price => pure price
  | none => throw (.new .rpcUnavailable "txpool.gas_price returned an invalid value")

def nextSequenceNumber (address : String) : Query (Option UInt64) := do
  let value ← callFirstAvailable asOptional
    (vmProfile.transactionMethods "txpool.next_sequence_number2" "txpool.next_sequence_number")
    (.array [.string address])
  pure (value.bind Value.parseU64)

def dryRunRaw (rawTxnBcsHex senderPublicKey : String) : Query Value :=
  callFirstAvailable asValue
    (vmProfile.transactionMethods "contract2.dry_run_raw" "contract.dry_run_raw")
    (.array [.string rawTxnBcsHex, .string senderPublicKey])

end NodeRpcClient

/-! ## The tools -/

/-- The context, with the limits that only these tools read and what the two caches of the client
hold. -/
structure ToolContext extends QueryContext where
  maxListBlocksCount : UInt64
  maxEventsLimit : UInt64
  maxListModulesSize : UInt64
  chainInfoHeld : Option Value
  abiHeld : String → Option Value

structure ChainStatusOutput where
  network : String
  chainId : UInt8
  genesisHash : String
  headBlockNumber : UInt64
  headBlockHash : String
  headStateRoot : Option String
  nowSeconds : UInt64
  peerCount : UInt64
  syncStatus : Option Value

structure NodeHealthOutput where
  nodeAvailable : Bool
  nodeInfo : Value
  sync : Option Value
  peersSummary : Value
  txpoolSummary : Option Value
  warnings : List String

structure GetBlockInput where
  blockHash : Option String
  blockNumber : Option UInt64
  decode : Bool
  includeRaw : Bool

structure GetBlockOutput where
  block : Option Value
  source : Value

structure ListBlocksInput where
  fromBlockNumber : Option UInt64
  count : UInt64
  reverse : Bool

structure ListBlocksOutput where
  blocks : List Value
  effectiveCount : UInt64

structure GetEventsInput where
  fromBlock : Option UInt64
  toBlock : Option UInt64
  eventKeys : List String
  addresses : List String
  typeTags : List String
  limit : UInt64
  decode : Bool

structure GetEventsOutput where
  events : List Value
  matchedCount : UInt64
  effectiveLimit : UInt64

structure ListModulesInput where
  address : String
  resolveAbi : Bool
  maxSize : Option UInt64
  blockNumber : Option UInt64

structure ListModulesOutput where
  address : String
  stateRoot : Option String
  modules : List Value
  effectiveMaxSize : UInt64

structure CallViewFunctionInput where
  functionId : String
  typeArgs : List String
  args : List String

structure CallViewFunctionOutput where
  returnValues : Option (List Value)
  decodedReturnValues : List Value

def isTransportError (error : SharedError) : Bool :=
  error.code = .nodeUnavailable || error.code = .rpcUnavailable

/-- A part of the health report: an endpoint that does not answer is a warning. -/
def orWarning {α : Type} (name : String) (part : Query α) : Query (Option α × List String) := do
  match ← part.attempt with
  | .ok value => pure (some value, [])
  | .error error =>
    if isTransportError error then pure (none, [name ++ " unavailable: " ++ error.message])
    else throw error

def peersSummary (peers : Option Value) : Value :=
  let count := ((peers.bind Value.asArray).map List.length).getD 0
  .object [("count", .number (.posInt (UInt64.ofNat count))), ("peers", peers.getD (.array []))]

/-- The warning about the head, when the chain info is there to be looked at. -/
def headLagWarnings (warnHeadLag : Duration) (nodeStatus : Value) :
    Option Value → Except SharedError (List String)
  | none => pure []
  | some chainInfo => do
    let nowSeconds ← extractU64 nodeStatus ["now_seconds"]
    let headTimestamp ← extractU64 chainInfo ["head", "timestamp"]
    let lagSeconds := saturatingSub nowSeconds headTimestamp
    if warnHeadLag.asSecs < lagSeconds then
      pure [s!"head lag is {lagSeconds}s, above warning threshold {warnHeadLag.asSecs}s"]
    else pure []

namespace ToolContext

variable (ctx : ToolContext)

def chainInfo : Query Value := NodeRpcClient.cachedValue ctx.chainInfoHeld NodeRpcClient.chainInfoUncached

def chainStatus : Query ChainStatusOutput := do
  let nodeInfo ← NodeRpcClient.nodeInfo
  let chainInfo ← ctx.chainInfo
  let peers ← NodeRpcClient.nodePeers
  let syncStatus ← NodeRpcClient.syncStatus
  let network ← lift (extractNetwork nodeInfo)
  let chainId ← lift (extractU8 chainInfo ["chain_id"])
  let genesisHash ← lift (extractString chainInfo ["genesis_hash"])
  let headBlockNumber ← lift (extractU64 chainInfo ["head", "number"])
  let headBlockHash ← lift (extractString chainInfo ["head", "block_hash"])
  let nowSeconds ← lift (extractU64 nodeInfo ["now_seconds"])
  pure {
    network := network
    chainId := chainId
    genesisHash := genesisHash
    headBlockNumber := headBlockNumber
    headBlockHash := headBlockHash
    headStateRoot := extractOptionalString chainInfo ["head", "state_root"]
    nowSeconds := nowSeconds
    peerCount := UInt64.ofNat (((peers.bind Value.asArray).map List.length).getD 0)
    syncStatus := syncStatus }

/-- `node_health`, once `node.info` is in. -/
def healthOf (nodeStatus : Value) : Query NodeHealthOutput := do
  let chainInfo ← orWarning "chain.info" ctx.chainInfo
  let peers ← orWarning "node.peers" NodeRpcClient.nodePeers
  let sync ← orWarning "sync.status" NodeRpcClient.syncStatus
  let txpool ← orWarning "txpool.state" NodeRpcClient.txpoolState
  let lag ← lift (headLagWarnings ctx.config.warnHeadLag nodeStatus chainInfo.1)
  let noPeers :=
    if (peers.1.join.bind Value.asArray).any List.isEmpty then ["node reports zero connected peers"]
    else []
  pure {
    nodeAvailable := chainInfo.1.isSome && peers.1.isSome
    nodeInfo := nodeStatus
    sync := sync.1.join
    peersSummary := Node.peersSummary peers.1.join
    txpoolSummary := txpool.1.join
    warnings := chainInfo.2 ++ peers.2 ++ sync.2 ++ txpool.2 ++ lag ++ noPeers }

def nodeHealth : Query NodeHealthOutput := do
  match ← NodeRpcClient.nodeInfo.attempt with
  | .ok nodeStatus => ctx.healthOf nodeStatus
  | .error error =>
    if isTransportError error then
      pure ⟨false, .null, none, Node.peersSummary none, none,
        ["node.info unavailable: " ++ error.message]⟩
    else throw error

def getBlock (input : GetBlockInput) : Query GetBlockOutput := do
  let block ← NodeRpcClient.getBlock input.blockHash input.blockNumber input.decode input.includeRaw
  pure ⟨block, .object [("hash", optionalString input.blockHash),
    ("number", optionalNumber input.blockNumber)]⟩

def listBlocks (input : ListBlocksInput) : Query ListBlocksOutput := do
  let effectiveCount := min input.count ctx.maxListBlocksCount
  let blocks ← NodeRpcClient.listBlocks input.fromBlockNumber effectiveCount input.reverse
  pure ⟨blocks, effectiveCount⟩

/-- The transaction info, where the endpoint has been seen to have it. -/
def loadTransactionInfo (txnHash : String) : Query (Option Value) :=
  if ctx.startupProbe.supportsTransactionInfoLookup then
    NodeRpcClient.getTransactionInfo ctx.config.vmProfile txnHash
  else pure none

def loadTransactionEvents (input : GetTransactionInput) (transactionInfo : Option Value) :
    Query (List Value) :=
  if input.includeEvents && ctx.startupProbe.supportsTransactionEventsByHash &&
      transactionInfo.isSome then
    NodeRpcClient.getEventsByTxnHash ctx.config.vmProfile input.txnHash input.decode
  else pure []

def getTransaction (input : GetTransactionInput) : Query GetTransactionOutput := do
  lift (ensureCapability ctx.startupProbe.supportsTransactionLookup
    "transaction lookup is unavailable for this endpoint profile")
  let transaction ← NodeRpcClient.getTransaction ctx.config.vmProfile input.txnHash input.decode
  let transactionInfo ← ctx.loadTransactionInfo input.txnHash
  let events ← ctx.loadTransactionEvents input transactionInfo
  pure ⟨transaction, transactionInfo, events, statusSummaryFromParts transaction transactionInfo⟩

def getEvents (input : GetEventsInput) : Query GetEventsOutput := do
  lift (ensureCapability ctx.startupProbe.supportsEventsQuery
    "event query tools are unavailable for this endpoint profile")
  QueryContext.takeExpensivePermit
  let effectiveLimit := min input.limit ctx.maxEventsLimit
  let events ← NodeRpcClient.getEvents input.fromBlock input.toBlock input.eventKeys input.addresses
    input.typeTags effectiveLimit input.decode
  pure ⟨events, UInt64.ofNat events.length, effectiveLimit⟩

def listModules (input : ListModulesInput) : Query ListModulesOutput := do
  lift (ensureCapability ctx.startupProbe.supportsModuleListing
    "module listing is unavailable for this endpoint profile")
  QueryContext.takeExpensivePermit
  let effectiveMaxSize := min (input.maxSize.getD ctx.maxListModulesSize) ctx.maxListModulesSize
  let stateRoot ← QueryContext.resolveStateRoot input.blockNumber
  let listed ←
    NodeRpcClient.listCode ctx.config.vmProfile input.address input.resolveAbi stateRoot
  pure ⟨input.address, stateRoot, (mapNamedEntries listed "codes").take effectiveMaxSize.toNat,
    effectiveMaxSize⟩

/-- The check that the three ABI tools share. -/
def ensureAbiResolution : Query Unit :=
  lift (ensureCapability ctx.startupProbe.supportsAbiResolution
    "ABI resolution is unavailable for this endpoint profile")

def resolveFunctionAbi (functionId : String) : Query Value := do
  ctx.ensureAbiResolution
  let abi ← NodeRpcClient.resolveFunctionAbi ctx.config.vmProfile
    (ctx.abiHeld ("function:" ++ functionId)) functionId
  pure (.object [("function_abi", abi)])

def resolveStructAbi (structTag : String) : Query Value := do
  ctx.ensureAbiResolution
  let abi ← NodeRpcClient.resolveStructAbi ctx.config.vmProfile (ctx.abiHeld ("struct:" ++ structTag))
    structTag
  pure (.object [("struct_abi", abi)])

def resolveModuleAbi (moduleId : String) : Query Value := do
  ctx.ensureAbiResolution
  let abi ← NodeRpcClient.resolveModuleAbi ctx.config.vmProfile (ctx.abiHeld ("module:" ++ moduleId))
    moduleId
  pure (.object [("module_abi", abi)])

def callViewFunction (input : CallViewFunctionInput) : Query CallViewFunctionOutput := do
  lift (ensureCapability ctx.startupProbe.supportsViewCall
    "view-function execution is unavailable for this endpoint profile")
  let decodedReturnValues ← NodeRpcClient.callViewFunction ctx.config.vmProfile input.functionId
    input.typeArgs input.args
  pure ⟨none, decodedReturnValues⟩

end ToolContext

end StarcoinMcp.Node
