import StarcoinMcp.Lib.Hex
import StarcoinMcp.Node.Config

/-! Reading endpoint answers: fields of JSON documents, chain identity and its pins,
hexadecimal payloads. -/

namespace StarcoinMcp.Node

def ensureCapability (supported : Bool) (message : String) : Except SharedError Unit :=
  if supported then pure () else throw (.new .unsupportedOperation message)

/-! ## Fields -/

def extractOptionalString (value : Value) (path : List String) : Option String :=
  (value.lookup path).bind Value.asStr

def extractOptionalU64 (value : Value) (path : List String) : Option UInt64 :=
  (value.lookup path).bind Value.parseU64

def extractString (value : Value) (path : List String) : Except SharedError String :=
  match extractOptionalString value path with
  | some s => .ok s
  | none =>
    .error (.new .rpcUnavailable ("missing string field at " ++ ".".intercalate path))

def extractU64 (value : Value) (path : List String) : Except SharedError UInt64 :=
  match extractOptionalU64 value path with
  | some n => .ok n
  | none =>
    .error (.new .rpcUnavailable ("missing numeric field at " ++ ".".intercalate path))

def extractU8 (value : Value) (path : List String) : Except SharedError UInt8 := do
  let n ← extractU64 value path
  if n.toNat < 256 then pure (UInt8.ofNat n.toNat)
  else throw (.new .rpcUnavailable
    ("numeric field at " ++ ".".intercalate path ++ " does not fit into u8"))

/-! ## Networks -/

def canonicalizeNetworkName (value : String) : String := Text.toAsciiLowercase (Text.trim value)

def parseNetworkName (value : Option Value) : Option String :=
  match value with
  | some (.string name) => some (canonicalizeNetworkName name)
  | some (.object entries) =>
    match ((Value.object entries).get "Builtin").bind Value.asStr with
    | some name => some (canonicalizeNetworkName name)
    | none =>
      match (((Value.object entries).get "Custom").bind (Value.get "chain_name")).bind Value.asStr with
      | some name => some (canonicalizeNetworkName name)
      | none => none
  | _ => none

def extractNetwork (nodeInfo : Value) : Except SharedError String :=
  match parseNetworkName (nodeInfo.lookup ["net"]) with
  | some name => .ok name
  | none => .error (.new .rpcUnavailable "missing or invalid network field at net")

/-! ## Chain identity -/

/-- The pinned chain id, when there is one, is the one the endpoint reports. -/
def checkChainId (config : RuntimeConfig) (chainInfo : Value) : Except SharedError Unit :=
  match config.expectedChainId with
  | none => pure ()
  | some expected => do
    let actual ← extractU8 chainInfo ["chain_id"]
    if expected ≠ actual then
      throw (.new .invalidChainContext
        s!"configured chain_id {expected} does not match endpoint chain_id {actual}")

def checkNetwork (config : RuntimeConfig) (nodeInfo : Value) : Except SharedError Unit :=
  match config.expectedNetwork with
  | none => pure ()
  | some expected => do
    let actual ← extractNetwork nodeInfo
    if !Text.eqIgnoreAsciiCase (canonicalizeNetworkName expected)
        (canonicalizeNetworkName actual) then
      throw (.new .invalidChainContext
        s!"configured network {expected} does not match endpoint network {actual}")

def checkGenesis (config : RuntimeConfig) (chainInfo : Value) : Except SharedError Unit :=
  if config.requireGenesisHashMatch then
    match config.expectedGenesisHash with
    | none => pure ()
    | some expected => do
      let actual ← extractString chainInfo ["genesis_hash"]
      if expected ≠ actual then
        throw (.new .invalidChainContext
          s!"configured genesis_hash {expected} does not match endpoint genesis_hash {actual}")
  else pure ()

def validateChainIdentity (config : RuntimeConfig) (nodeInfo chainInfo : Value) :
    Except SharedError Unit := do
  checkChainId config chainInfo
  checkNetwork config nodeInfo
  checkGenesis config chainInfo

/-- `observedAt` is the wall clock, which the caller reads. -/
def extractChainContext (nodeInfo chainInfo : Value) (observedAt : String) :
    Except SharedError ChainContext := do
  let chainId ← extractU8 chainInfo ["chain_id"]
  let network ← extractNetwork nodeInfo
  let genesisHash ← extractString chainInfo ["genesis_hash"]
  let headBlockHash ← extractString chainInfo ["head", "block_hash"]
  let headBlockNumber ← extractU64 chainInfo ["head", "number"]
  pure {
    chainId := chainId
    network := network
    genesisHash := genesisHash
    headBlockHash := headBlockHash
    headBlockNumber := headBlockNumber
    headStateRoot := extractOptionalString chainInfo ["head", "state_root"]
    observedAt := observedAt }

/-! ## Transactions -/

def statusSummaryFromParts (transaction transactionInfo : Option Value) :
    TransactionStatusSummary where
  found := transaction.isSome || transactionInfo.isSome
  confirmed := transactionInfo.isSome
  vmStatus :=
    (transactionInfo.bind fun info => extractOptionalString info ["status"]).or
      (transaction.bind fun txn => extractOptionalString txn ["status"])
  gasUsed := transactionInfo.bind fun info => extractOptionalU64 info ["gas_used"]

def isDegradableSequenceLookupError (error : SharedError) : Bool :=
  error.code = .unsupportedOperation || error.code = .nodeUnavailable ||
    error.code = .rpcUnavailable

/-! ## Hexadecimal payloads -/

@[irreducible] def decodeHexBytes (input : List Char) : Except SharedError (List UInt8) :=
  match Hex.decode ((Text.trimStartHexMarker input).flatMap String.utf8EncodeChar) with
  | .ok bytes => .ok bytes
  | .error e => .error (.new .invalidPackagePayload ("invalid hex payload: " ++ e.text))

def canonicalHexPayload (input : List Char) : Except SharedError (List Char) :=
  (decodeHexBytes input).map Hex.encode

def encodeHexBcs (vm : Vm2) (rawTxn : RawUserTransaction) : Except SharedError (List Char) :=
  match vm.encodeRaw rawTxn with
  | .ok bytes => .ok (Hex.encode bytes)
  | .error e => .error (.new .invalidPackagePayload ("failed to bcs-encode transaction: " ++ e))

end StarcoinMcp.Node
