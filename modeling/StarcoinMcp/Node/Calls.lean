import StarcoinMcp.Node.Submission

/-! One application context in use: any number of tool calls, in any interleaving, over
the context's ledgers. -/

namespace StarcoinMcp.Node

inductive ToolCall
  | prepareTransfer (input : PrepareTransferInput)
  | prepareContractCall (input : PrepareContractCallInput)
  | preparePublishPackage (input : PreparePublishPackageInput)
  | simulateRawTransaction (input : SimulateRawTransactionInput)
  /-- A watch, followed for a number of polls. -/
  | watchTransaction (polls : ℕ) (input : WatchTransactionInput)
  | submitSignedTransaction (polls : ℕ) (input : SubmitSignedTransactionInput)

inductive ToolOutput
  | prepared (result : PreparationResult)
  | simulated (output : SimulateRawTransactionOutput)
  | watched (output : WatchTransactionOutput)
  | submitted (output : SubmitSignedTransactionOutput)

namespace AppContext

variable (ctx : AppContext)

def program : ToolCall → Call ToolOutput
  | .prepareTransfer input => do return .prepared (← ctx.prepareTransfer input)
  | .prepareContractCall input => do return .prepared (← ctx.prepareContractCall input)
  | .preparePublishPackage input => do return .prepared (← ctx.preparePublishPackage input)
  | .simulateRawTransaction input => do return .simulated (← ctx.simulateRawTransaction input)
  | .watchTransaction polls input => do return .watched (← ctx.watchTransaction polls input)
  | .submitSignedTransaction polls input => do
    return .submitted (← ctx.submitSignedTransaction polls input)

def system : System ToolCall Shared Op Op.Ans SharedError ToolOutput where
  program := ctx.program
  perform := Op.perform
  settled := by
    intro o now x s
    cases o <;> rfl

end AppContext

abbrev LogEntry := Entry Op.Ans

abbrev NodeMove := Move ToolCall Op.Ans

abbrev NodeWorld := World ToolCall Shared Op Op.Ans SharedError ToolOutput

/-! ## A chain to run the tools on -/

namespace Sample

/-! The BCS layout, for lengths below 128 and for calls of entry functions. -/

def littleEndian (width n : ℕ) : List UInt8 :=
  (List.range width).map fun k => UInt8.ofNat (n / 256 ^ k)

def bytesBcs (bytes : List UInt8) : List UInt8 := UInt8.ofNat bytes.length :: bytes

def textBcs (s : String) : List UInt8 := bytesBcs (Text.utf8 s)

def typeTagBcs : TypeTag → Option (List UInt8)
  | .struct (.mk address module name []) =>
    some (7 :: address.bytes ++ textBcs module ++ textBcs name ++ [0])
  | _ => none

def payloadBcs : TransactionPayload → Option (List UInt8)
  | .entryFunction f => do
    let tyArgs ← f.tyArgs.mapM typeTagBcs
    some (2 :: f.module.address.bytes ++ textBcs f.module.name ++ textBcs f.function ++
      UInt8.ofNat tyArgs.length :: tyArgs.flatten ++
      UInt8.ofNat f.args.length :: (f.args.map bytesBcs).flatten)
  | _ => none

def encodeRaw (raw : RawUserTransaction) : Except String (List UInt8) :=
  match payloadBcs raw.payload with
  | some payload => .ok (raw.sender.bytes ++ littleEndian 8 raw.sequenceNumber.toNat ++ payload ++
      littleEndian 8 raw.maxGasAmount.toNat ++ littleEndian 8 raw.gasUnitPrice.toNat ++
      textBcs raw.gasTokenCode ++ littleEndian 8 raw.expirationTimestampSecs.toNat ++ [raw.chainId])
  | none => .error "unexpected payload"

def alice : AccountAddress := ⟨List.replicate 15 0 ++ [0xa1], rfl⟩

def bob : AccountAddress := ⟨List.replicate 15 0 ++ [0xb2], rfl⟩

def stc : StructTag := .mk coreCodeAddress "starcoin_coin" "STC" []

/-- Five units from `alice` to `bob`. -/
def transfer : RawUserTransaction where
  sender := alice
  sequenceNumber := 7
  payload := .entryFunction ⟨⟨coreCodeAddress, "transfer_scripts"⟩, "peer_to_peer_v2",
    [.struct stc], [bob.bytes, littleEndian 16 5]⟩
  maxGasAmount := 10000000
  gasUnitPrice := 1
  expirationTimestampSecs := 2000
  chainId := 1
  gasTokenCode := "0x1::starcoin_coin::STC"

def signed : SignedUserTransaction :=
  ⟨transfer, [0, 32] ++ List.replicate 32 7 ++ [64] ++ List.replicate 64 9⟩

def rawBytes : List UInt8 := (encodeRaw transfer).toOption.getD []

def signedHex : List Char := Hex.encode (rawBytes ++ signed.authenticator)

def txnHash : String := "0x7ce5f2bb94c0e629816559ace81756e9d53426d7b9c1f2f52420f752e6ecd56b"

def addressText (a : AccountAddress) : String := "0x" ++ String.ofList (Hex.encode a.bytes)

def vm : Vm2 where
  decodeSigned bytes :=
    if bytes = rawBytes ++ signed.authenticator then .ok signed else .error "unexpected end of input"
  encodeRaw := encodeRaw
  transactionId _ := txnHash
  decodePackage _ := .error "unexpected end of input"
  transactionRequest raw := .ok (.object [("sender", .string (addressText raw.sender))])
  parseAddress s :=
    if s = addressText alice then .ok alice
    else if s = addressText bob then .ok bob
    else .error "invalid account address"
  addressText := addressText
  parseTokenCode _ := .error "invalid token code"
  tokenText t := "0x1::" ++ t.module ++ "::" ++ t.name
  tokenType t := .ok (.mk t.address t.module t.name [])
  stcTokenCode := ⟨coreCodeAddress, "starcoin_coin", "STC"⟩
  parseFunctionId _ := .error "invalid function id"
  parseTypeTag _ := .error "invalid type tag"
  parseTransactionArgument _ := .error "invalid argument"
  convertTxnArgs _ := []
  identifier s := .ok s
  encodeAddress a := .ok a.bytes
  encodeU128 n := .ok (littleEndian 16 n.toNat)

def seconds (n : UInt64) : Duration := .ofSecs n

/-- A node on this machine, its network pinned as `Main`. -/
def config : RuntimeConfig where
  rpcEndpointUrl := ⟨"http", some "localhost"⟩
  mode := .transaction
  vmProfile := .auto
  expectedChainId := some 1
  expectedNetwork := some "Main"
  expectedGenesisHash := some "0x80848150abee7e9a3bfe9542a019eb0b8b01f124b63b011f9c338fdb935c417d"
  requireGenesisHashMatch := true
  connectTimeout := seconds 5
  requestTimeout := seconds 15
  startupProbeTimeout := seconds 10
  allowedRpcHosts := []
  allowInsecureRemoteTransport := false
  allowReadOnlyChainAutodetect := false
  defaultExpirationTtl := seconds 600
  maxExpirationTtl := seconds 3600
  watchPollInterval := seconds 3
  watchTimeout := seconds 120
  maxHeadLag := seconds 60
  warnHeadLag := seconds 15
  allowSubmitWithoutPriorSimulation := false
  chainStatusCacheTtl := seconds 3
  maxSubmitBlockingTimeout := seconds 60
  maxWatchTimeout := seconds 300
  minWatchPollInterval := seconds 2
  maxPublishPackageBytes := 524288
  maxConcurrentWatchRequests := 8
  maxInflightExpensiveRequests := 16

def probe : EffectiveProbe :=
  ⟨true, true, true, true, true, true, true, true, true, true, true, true, true, true, true⟩

def ctx : AppContext := ⟨vm, config, probe⟩

def start : Shared := startShared config probe 0

def nodeInfo : Value :=
  .object [("net", .string "main"), ("now_seconds", .number (.posInt 1000))]

def chainInfo : Value :=
  .object [("chain_id", .number (.posInt 1)),
    ("genesis_hash",
      .string "0x80848150abee7e9a3bfe9542a019eb0b8b01f124b63b011f9c338fdb935c417d"),
    ("head", .object [("block_hash", .string "0x01"), ("number", .string "100"),
      ("timestamp", .string "990")])]

/-- An endpoint whose txpool expects `next` from every sender. -/
def reply (next : UInt64) : (o : Op) → o.Ans
  | .rpc .nodeInfo => .ok nodeInfo
  | .rpc .chainInfo => .ok chainInfo
  | .rpc .chainInfoUncached => .ok chainInfo
  | .rpc (.probe _) => some (.ok probe)
  | .rpc (.nextSequenceNumber _) => .ok (some next)
  | .rpc (.getAccountState _) => .ok (some (.object [("sequence_number", .number (.posInt 7))]))
  | .rpc .gasPrice => .ok 1
  | .rpc (.dryRunRaw _ _) => .ok (.object [("status", .string "Executed")])
  | .rpc (.submitSignedTransaction _) => .ok txnHash
  | .rpc (.getTransaction _ _) => .ok none
  | .rpc (.getTransactionInfo _) => .ok none
  | .rpc (.getEventsByTxnHash _ _) => .ok []
  | .clock .unixTimestamp => 1000
  | .clock .rfc3339Now => "1970-01-01T00:16:40Z"
  | .clock (.sleep _) => ()
  | .loc .readTransactionProbe => none
  | .loc (.writeTransactionProbe _) => ()
  | .loc (.prunePrepared _) => ()
  | .loc (.getPrepared _) => none
  | .loc (.insertPrepared _ _ _) => ()
  | .loc (.pruneUnresolved _) => ()
  | .loc (.containsUnresolved _) => false
  | .loc (.insertUnresolved _) => ()
  | .loc (.removeUnresolved _) => ()
  | .loc .tryWatchPermit => false
  | .loc .dropWatchPermit => ()
  | .loc .tryExpensivePermit => false
  | .loc .dropExpensivePermit => ()

/-- Call `i` goes on for `n` answers, a microsecond each. -/
def answers (i n : ℕ) (next : UInt64) : List NodeMove := List.replicate n (.answer i 1000 (reply next))

def chainContext : ChainContext where
  chainId := 1
  network := "main"
  genesisHash := "0x80848150abee7e9a3bfe9542a019eb0b8b01f124b63b011f9c338fdb935c417d"
  headBlockHash := "0x01"
  headBlockNumber := 100
  headStateRoot := none
  observedAt := "1970-01-01T00:16:40Z"

def simulate : ToolCall :=
  .simulateRawTransaction ⟨'0' :: 'x' :: Hex.encode rawBytes, "0x07"⟩

def submission : SubmitSignedTransactionInput := ⟨signedHex, chainContext, false, none, none⟩

def submit : ToolCall := .submitSignedTransaction 0 submission

/-- The transfer is simulated and then submitted. -/
def simulateThenSubmit : List NodeMove :=
  .start simulate :: answers 0 7 7 ++ .start submit :: answers 1 11 7

end Sample

end StarcoinMcp.Node
