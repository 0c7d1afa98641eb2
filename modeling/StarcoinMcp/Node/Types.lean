import StarcoinMcp.Node.Vm

/-! The vocabulary of the node tools: time, errors, chain facts, and what the
transaction tools take and return. -/

namespace StarcoinMcp.Node

/-! ## Time -/

/-- `std::time::Duration`: `u64` seconds and a fraction in nanoseconds. -/
structure Duration where
  nanos : ℕ
  bound : nanos < 2 ^ 64 * 10 ^ 9
deriving DecidableEq, Repr

/-- A reading of the monotonic clock, in nanoseconds. -/
abbrev Instant := ℕ

namespace Duration

def ofSecs (n : UInt64) : Duration :=
  ⟨n.toNat * 10 ^ 9, Nat.mul_lt_mul_of_pos_right n.toNat_lt (by decide)⟩

def asSecs (d : Duration) : UInt64 := UInt64.ofNat (d.nanos / 10 ^ 9)

def isZero (d : Duration) : Bool := d.nanos == 0

/-- The sum, unless it overflows; the operator panics there. -/
def checkedAdd (d e : Duration) : Option Duration :=
  if h : d.nanos + e.nanos < 2 ^ 64 * 10 ^ 9 then some ⟨d.nanos + e.nanos, h⟩ else none

theorem checkedAdd_eq_some {d e f : Duration} (h : d.checkedAdd e = some f) :
    f.nanos = d.nanos + e.nanos := by
  unfold checkedAdd at h
  split_ifs at h
  cases h
  rfl

end Duration

/-- `Instant::elapsed`, read at `now`. -/
def elapsed (since now : Instant) : ℕ := now - since

def saturatingAdd (a b : UInt64) : UInt64 :=
  if a.toNat + b.toNat < 2 ^ 64 then a + b else UInt64.ofNat (2 ^ 64 - 1)

def saturatingSub (a b : UInt64) : UInt64 := if b ≤ a then a - b else 0

theorem toNat_saturatingAdd (a b : UInt64) :
    (saturatingAdd a b).toNat = min (a.toNat + b.toNat) (2 ^ 64 - 1) := by
  unfold saturatingAdd
  split
  next h =>
    rw [UInt64.toNat_add, Nat.mod_eq_of_lt h]
    omega
  next h =>
    have hmax : (UInt64.ofNat (2 ^ 64 - 1)).toNat = 2 ^ 64 - 1 := rfl
    rw [hmax]
    omega

theorem toNat_saturatingSub (a b : UInt64) : (saturatingSub a b).toNat = a.toNat - b.toNat := by
  unfold saturatingSub
  split
  next h => exact UInt64.toNat_sub_of_le _ _ h
  next h =>
    have hlt : a.toNat < b.toNat := UInt64.lt_iff_toNat_lt.mp (UInt64.not_le.mp h)
    rw [Nat.sub_eq_zero_of_le (Nat.le_of_lt hlt)]
    rfl

/-! ## Errors -/

inductive SharedErrorCode
  | nodeUnavailable | rpcUnavailable | invalidChainContext | submissionUnknown | simulationFailed
  | submissionFailed | transactionExpired | sequenceNumberStale | permissionDenied
  | approvalRequired | rateLimited | payloadTooLarge | unsupportedOperation | missingSender
  | missingPublicKey | invalidAddress | invalidAsset | invalidAmount | invalidPackagePayload
  | blockNotFound | transactionNotFound
deriving DecidableEq, Repr

structure SharedError where
  code : SharedErrorCode
  message : String
  retryable : Bool
  details : Option Value

namespace SharedError

/-- `SharedError::new`. -/
def new (code : SharedErrorCode) (message : String) : SharedError := ⟨code, message, false, none⟩

/-- `SharedError::retryable`. -/
def retry (code : SharedErrorCode) (message : String) : SharedError := ⟨code, message, true, none⟩

def withDetails (e : SharedError) (details : Value) : SharedError :=
  { e with details := some details }

end SharedError

def sharedErrorCodeName : SharedErrorCode → String
  | .nodeUnavailable => "node_unavailable"
  | .rpcUnavailable => "rpc_unavailable"
  | .invalidChainContext => "invalid_chain_context"
  | .submissionUnknown => "submission_unknown"
  | .simulationFailed => "simulation_failed"
  | .submissionFailed => "submission_failed"
  | .transactionExpired => "transaction_expired"
  | .sequenceNumberStale => "sequence_number_stale"
  | .permissionDenied => "permission_denied"
  | .approvalRequired => "approval_required"
  | .rateLimited => "rate_limited"
  | .payloadTooLarge => "payload_too_large"
  | .unsupportedOperation => "unsupported_operation"
  | .missingSender => "missing_sender"
  | .missingPublicKey => "missing_public_key"
  | .invalidAddress => "invalid_address"
  | .invalidAsset => "invalid_asset"
  | .invalidAmount => "invalid_amount"
  | .invalidPackagePayload => "invalid_package_payload"
  | .blockNotFound => "block_not_found"
  | .transactionNotFound => "transaction_not_found"

/-! ## Chain facts -/

inductive Mode
  | readOnly | transaction
deriving DecidableEq, Repr

inductive VmProfile
  | auto | vm1Only | vm2Only
deriving DecidableEq, Repr

structure ChainContext where
  chainId : UInt8
  network : String
  genesisHash : String
  headBlockHash : String
  headBlockNumber : UInt64
  headStateRoot : Option String
  observedAt : String
deriving DecidableEq, Repr

structure EffectiveProbe where
  supportsNodeInfo : Bool
  supportsChainInfo : Bool
  supportsBlockLookup : Bool
  supportsBlockListing : Bool
  supportsTransactionLookup : Bool
  supportsTransactionInfoLookup : Bool
  supportsTransactionEventsByHash : Bool
  supportsAccountStateLookup : Bool
  supportsEventsQuery : Bool
  supportsResourceListing : Bool
  supportsModuleListing : Bool
  supportsAbiResolution : Bool
  supportsViewCall : Bool
  supportsTransactionSubmission : Bool
  supportsRawDryRun : Bool
deriving DecidableEq, Repr

inductive TransactionKind
  | transfer | contractCall | publishPackage | unknown
deriving DecidableEq, Repr

inductive SimulationStatus
  | performed | skippedMissingPublicKey | skippedByPolicy | failed
deriving DecidableEq, Repr

/-- The `snake_case` name a status is serialized under. -/
def SimulationStatus.name : SimulationStatus → String
  | .performed => "performed"
  | .skippedMissingPublicKey => "skipped_missing_public_key"
  | .skippedByPolicy => "skipped_by_policy"
  | .failed => "failed"

inductive NextAction
  | signTransaction | getPublicKeyThenSimulateOrSign | simulateThenSign
deriving DecidableEq, Repr

inductive SubmissionState
  | accepted | unknown | rejected
deriving DecidableEq, Repr

inductive SubmissionNextAction
  | watchTransaction | reconcileByTxnHash | reprepareThenResign
deriving DecidableEq, Repr

inductive SequenceNumberSource
  | caller | onchain | txpool | maxOfOnchainAndTxpool
deriving DecidableEq, Repr

inductive GasUnitPriceSource
  | caller | txpool | defaultConfig
deriving DecidableEq, Repr

/-! ## Inputs and outputs of the transaction tools

A payload in hexadecimal is the list of its characters. -/

structure GetTransactionInput where
  txnHash : String
  includeEvents : Bool
  decode : Bool

structure WatchTransactionInput where
  txnHash : String
  timeoutSeconds : Option UInt64
  pollIntervalSeconds : Option UInt64
  minConfirmedBlocks : Option UInt64

/-- What the three preparation tools ask about the transaction around the payload. -/
structure PrepareOptions where
  senderPublicKey : Option String
  sequenceNumber : Option UInt64
  maxGasAmount : Option UInt64
  gasUnitPrice : Option UInt64
  expirationTimeSecs : Option UInt64
  gasToken : Option String

structure PrepareTransferInput extends PrepareOptions where
  sender : String
  receiver : String
  amount : String
  tokenCode : Option String

structure PrepareContractCallInput extends PrepareOptions where
  sender : String
  functionId : String
  typeArgs : List String
  args : List String

structure PreparePublishPackageInput extends PrepareOptions where
  sender : String
  packageBcsHex : List Char

structure SimulateRawTransactionInput where
  rawTxnBcsHex : List Char
  senderPublicKey : String

structure SubmitSignedTransactionInput where
  signedTxnBcsHex : List Char
  preparedChainContext : ChainContext
  blocking : Bool
  timeoutSeconds : Option UInt64
  minConfirmedBlocks : Option UInt64

structure TransactionStatusSummary where
  found : Bool
  confirmed : Bool
  vmStatus : Option String
  gasUsed : Option UInt64

structure GetTransactionOutput where
  transaction : Option Value
  transactionInfo : Option Value
  events : List Value
  statusSummary : TransactionStatusSummary

structure WatchTransactionOutput where
  txnHash : String
  found : Bool
  confirmed : Bool
  effectiveTimeoutSeconds : UInt64
  effectivePollIntervalSeconds : UInt64
  effectiveMinConfirmedBlocks : UInt64
  confirmedBlocks : Option UInt64
  inclusionBlockNumber : Option UInt64
  transactionInfo : Option Value
  events : List Value
  statusSummary : TransactionStatusSummary

structure SimulationResult where
  executed : Bool
  vmStatus : String
  gasUsed : UInt64
  events : List Value
  writeSetSummary : List Value
  raw : Value

structure PreparedExecutionFacts where
  sender : String
  sequenceNumber : UInt64
  maxGasAmount : UInt64
  gasUnitPrice : UInt64
  gasTokenCode : String
  expirationTimestampSecs : UInt64
  chainId : UInt8
  estimatedMaxNetworkFee : String
  estimatedNetworkFee : Option String
  transferReceiver : Option String
  transferAmount : Option String
  transferTokenCode : Option String

structure PreparationResult where
  transactionKind : TransactionKind
  rawTxnBcsHex : List Char
  rawTxn : Value
  transactionSummary : Value
  chainContext : ChainContext
  preparedAt : String
  sequenceNumberSource : SequenceNumberSource
  gasUnitPriceSource : GasUnitPriceSource
  simulationStatus : SimulationStatus
  simulation : Option SimulationResult
  executionFacts : PreparedExecutionFacts
  nextAction : NextAction

structure SimulateRawTransactionOutput where
  simulation : Value
  executed : Bool
  vmStatus : String
  gasUsed : UInt64
  events : List Value
  writeSetSummary : List Value

structure SubmitSignedTransactionOutput where
  txnHash : String
  submissionState : SubmissionState
  submitted : Bool
  preparedSimulationStatus : Option SimulationStatus
  errorCode : Option String
  effectiveTimeoutSeconds : Option UInt64
  nextAction : SubmissionNextAction
  watchResult : Option WatchTransactionOutput

end StarcoinMcp.Node
