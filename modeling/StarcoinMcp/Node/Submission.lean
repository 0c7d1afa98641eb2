import StarcoinMcp.Node.Transaction

/-! Watching and submitting. A watch polls until the transaction is deep enough or the
deadline has passed; its loop is followed for a number of polls, and what is shown for
every number holds of the loop. A submission passes its gates in the order of the source
and calls the endpoint once. -/

namespace StarcoinMcp.Node

def defaultMinConfirmedBlocks : UInt64 := 2

def effectiveSubmitTimeoutSeconds (blocking : Bool) (requestedTimeoutSeconds : Option UInt64)
    (watchTimeout maxSubmitBlockingTimeout : Duration) : Option UInt64 :=
  if blocking then
    some (min (requestedTimeoutSeconds.getD watchTimeout.asSecs) maxSubmitBlockingTimeout.asSecs)
  else none

def effectiveMinConfirmedBlocks (requestedMinConfirmedBlocks : Option UInt64) : UInt64 :=
  max (requestedMinConfirmedBlocks.getD defaultMinConfirmedBlocks) 1

def confirmationDepthFromTransactionInfo (transactionInfo : Option Value)
    (headBlockNumber : UInt64) : Except SharedError (Option UInt64 × Option UInt64) :=
  match transactionInfo with
  | none => pure (none, none)
  | some info =>
    match extractOptionalU64 info ["block_number"] with
    | none => throw (.new .rpcUnavailable "transaction_info is missing block_number")
    | some inclusionBlockNumber =>
      let confirmedBlocks :=
        saturatingAdd (saturatingSub headBlockNumber inclusionBlockNumber) 1
      pure (some confirmedBlocks, some inclusionBlockNumber)

def watchConfirmationSatisfied (statusSummary : TransactionStatusSummary)
    (confirmedBlocks : Option UInt64) (effectiveMinConfirmedBlocks : UInt64) : Bool :=
  statusSummary.confirmed && effectiveMinConfirmedBlocks ≤ confirmedBlocks.getD 0

/-! ## Outputs of a submission -/

def acceptedSubmissionOutput (txnHash : String) (submitted : Bool)
    (preparedSimulationStatus : Option SimulationStatus)
    (effectiveTimeoutSeconds : Option UInt64) (watchResult : Option WatchTransactionOutput) :
    SubmitSignedTransactionOutput where
  txnHash := txnHash
  submissionState := .accepted
  submitted := submitted
  preparedSimulationStatus := preparedSimulationStatus
  errorCode := none
  effectiveTimeoutSeconds := effectiveTimeoutSeconds
  nextAction := .watchTransaction
  watchResult := watchResult

def submissionUnknownOutput (txnHash : String)
    (preparedSimulationStatus : Option SimulationStatus)
    (effectiveTimeoutSeconds : Option UInt64) : SubmitSignedTransactionOutput where
  txnHash := txnHash
  submissionState := .unknown
  submitted := false
  preparedSimulationStatus := preparedSimulationStatus
  errorCode := some "submission_unknown"
  effectiveTimeoutSeconds := effectiveTimeoutSeconds
  nextAction := .reconcileByTxnHash
  watchResult := none

def rejectedSubmissionOutput (txnHash : String)
    (preparedSimulationStatus : Option SimulationStatus) (errorCode : String)
    (effectiveTimeoutSeconds : Option UInt64) : SubmitSignedTransactionOutput where
  txnHash := txnHash
  submissionState := .rejected
  submitted := false
  preparedSimulationStatus := preparedSimulationStatus
  errorCode := some errorCode
  effectiveTimeoutSeconds := effectiveTimeoutSeconds
  nextAction := .reprepareThenResign
  watchResult := none

/-! ## Gates of a submission -/

/-- Two contexts name the same chain. -/
def sameChain (c d : ChainContext) : Bool :=
  c.chainId == d.chainId &&
    canonicalizeNetworkName c.network == canonicalizeNetworkName d.network &&
    c.genesisHash == d.genesisHash

def validateSignedTransactionSubmission (signedTxn : SignedUserTransaction)
    (preparedChainContext currentChainContext : ChainContext) : Except SharedError Unit := do
  let signedChainId := signedTxn.rawTxn.chainId
  if signedChainId ≠ currentChainContext.chainId then
    throw (.new .invalidChainContext
      (s!"signed transaction chain_id {signedChainId} does not match current endpoint " ++
        s!"chain_id {currentChainContext.chainId}"))
  if !sameChain preparedChainContext currentChainContext then
    throw (.new .invalidChainContext
      "prepared chain_context does not match the current endpoint chain identity")
  if preparedChainContext.chainId ≠ signedChainId then
    throw (.new .invalidChainContext
      (s!"prepared chain_context chain_id {preparedChainContext.chainId} does not match signed " ++
        s!"transaction chain_id {signedChainId}"))

def validatePreparedTransactionRecord (record : Option PreparedTransactionRecord)
    (preparedChainContext currentChainContext : ChainContext) : Except SharedError Unit :=
  match record with
  | none => pure ()
  | some record => do
    if !sameChain record.chainContext preparedChainContext then
      throw (.new .invalidChainContext
        "prepared transaction attestation does not match the supplied chain_context")
    if !sameChain record.chainContext currentChainContext then
      throw (.new .invalidChainContext
        "prepared transaction attestation does not match the current endpoint chain identity")

def enforceSubmitSimulationPolicy (allowSubmitWithoutPriorSimulation : Bool)
    (record : Option PreparedTransactionRecord) : Except SharedError Unit :=
  if allowSubmitWithoutPriorSimulation then pure ()
  else
    match record with
    | some record =>
      if record.simulationStatus = .performed then pure ()
      else throw (.new .permissionDenied
        ("submit blocked by policy: local preparation record has simulation_status = " ++
          record.simulationStatus.name))
    | none => throw (.new .permissionDenied
        ("submit blocked by policy: no local preparation or simulation record exists for this " ++
          "raw transaction"))

namespace AppContext

variable (ctx : AppContext)

/-! ## The ledger of unresolved submissions -/

def pruneUnresolvedSubmissions : Call Unit := do
  let retention ← ctx.retention
  loc (.pruneUnresolved retention)

def hasUnresolvedSubmission (txnHash : String) : Call Bool := do
  ctx.pruneUnresolvedSubmissions
  loc (.containsUnresolved txnHash)

def recordUnresolvedSubmission (txnHash : String) : Call Unit := do
  ctx.pruneUnresolvedSubmissions
  loc (.insertUnresolved txnHash)

def clearUnresolvedSubmission (txnHash : String) : Call Unit := loc (.removeUnresolved txnHash)

/-! ## Watching -/

def getTransaction (input : GetTransactionInput) : Call GetTransactionOutput := do
  Prog.lift (ensureCapability ctx.startupProbe.supportsTransactionLookup
    "transaction lookup is unavailable for this endpoint profile")
  let transaction ← Prog.lift (← rpc (.getTransaction input.txnHash input.decode))
  let transactionInfo ←
    if ctx.startupProbe.supportsTransactionInfoLookup then
      Prog.lift (← rpc (.getTransactionInfo input.txnHash))
    else pure none
  let events ←
    if input.includeEvents && ctx.startupProbe.supportsTransactionEventsByHash &&
        transactionInfo.isSome then
      Prog.lift (← rpc (.getEventsByTxnHash input.txnHash input.decode))
    else pure []
  pure ⟨transaction, transactionInfo, events, statusSummaryFromParts transaction transactionInfo⟩

/-- The effective parameters of a watch. -/
structure WatchPlan where
  txnHash : String
  effectiveTimeoutSeconds : UInt64
  effectivePollIntervalSeconds : UInt64
  effectiveMinConfirmedBlocks : UInt64
  deadline : UInt64

/-- What one poll saw. -/
structure WatchObservation where
  statusSummary : TransactionStatusSummary
  transactionInfo : Option Value
  events : List Value
  confirmedBlocks : Option UInt64
  inclusionBlockNumber : Option UInt64

def WatchPlan.satisfied (plan : WatchPlan) (seen : WatchObservation) : Bool :=
  watchConfirmationSatisfied seen.statusSummary seen.confirmedBlocks
    plan.effectiveMinConfirmedBlocks

def WatchPlan.output (plan : WatchPlan) (seen : WatchObservation) : WatchTransactionOutput where
  txnHash := plan.txnHash
  found := seen.statusSummary.found
  confirmed := plan.satisfied seen
  effectiveTimeoutSeconds := plan.effectiveTimeoutSeconds
  effectivePollIntervalSeconds := plan.effectivePollIntervalSeconds
  effectiveMinConfirmedBlocks := plan.effectiveMinConfirmedBlocks
  confirmedBlocks := seen.confirmedBlocks
  inclusionBlockNumber := seen.inclusionBlockNumber
  transactionInfo := seen.transactionInfo
  events := seen.events
  statusSummary := seen.statusSummary

def nothingSeen : WatchObservation := ⟨⟨false, false, none, none⟩, none, [], none, none⟩

/-- The lookups of one poll; only a confirmed transaction has a depth. -/
def watchPoll (txnHash : String) : Call WatchObservation := do
  let current ← ctx.getTransaction ⟨txnHash, true, true⟩
  let (confirmedBlocks, inclusionBlockNumber) ←
    if current.statusSummary.confirmed then do
      let snapshot ← ctx.loadTransactionEndpointSnapshot
      Prog.lift (confirmationDepthFromTransactionInfo current.transactionInfo
        snapshot.chainContext.headBlockNumber)
    else pure (none, none)
  pure ⟨current.statusSummary, current.transactionInfo, current.events, confirmedBlocks,
    inclusionBlockNumber⟩

def watchLoop (plan : WatchPlan) : ℕ → WatchObservation → Call WatchTransactionOutput
  | 0, _ => .halt .unfinished
  | polls + 1, last => do
    let current ← ctx.watchPoll plan.txnHash
    let last ←
      if current.statusSummary.found then do
        clearUnresolvedSubmission plan.txnHash
        pure current
      else pure last
    if plan.satisfied current then pure (plan.output current)
    else do
      let now ← clock .unixTimestamp
      if plan.deadline ≤ now then pure (plan.output last)
      else do
        clock (.sleep plan.effectivePollIntervalSeconds)
        watchLoop plan polls last

def tryWatchPermit : Call Unit := do
  if !(← loc .tryWatchPermit) then
    throw (SharedError.retry .rateLimited "max_concurrent_watch_requests is exhausted")

def effectiveWatchTimeoutSeconds (input : WatchTransactionInput) : UInt64 :=
  min (input.timeoutSeconds.getD ctx.config.watchTimeout.asSecs) ctx.config.maxWatchTimeout.asSecs

/-- `watch_transaction` while it holds its permit. -/
def watchBody (polls : ℕ) (input : WatchTransactionInput) : Call WatchTransactionOutput := do
  let effectiveTimeoutSeconds := ctx.effectiveWatchTimeoutSeconds input
  let effectivePollIntervalSeconds :=
    max (input.pollIntervalSeconds.getD ctx.config.watchPollInterval.asSecs)
      ctx.config.minWatchPollInterval.asSecs
  let now ← clock .unixTimestamp
  ctx.watchLoop {
    txnHash := input.txnHash
    effectiveTimeoutSeconds := effectiveTimeoutSeconds
    effectivePollIntervalSeconds := effectivePollIntervalSeconds
    effectiveMinConfirmedBlocks := effectiveMinConfirmedBlocks input.minConfirmedBlocks
    deadline := now + effectiveTimeoutSeconds } polls nothingSeen

def watchTransaction (polls : ℕ) (input : WatchTransactionInput) : Call WatchTransactionOutput := do
  Prog.lift (ensureCapability (ctx.startupProbe.supportsTransactionLookup &&
    ctx.startupProbe.supportsTransactionInfoLookup)
    "watch_transaction is unavailable for this endpoint profile")
  tryWatchPermit
  let outcome ← (ctx.watchBody polls input).attempt
  loc .dropWatchPermit
  Prog.lift outcome

/-! ## Submitting -/

/-- An account nobody knows, or lookups that are down, leave the decision to the node. -/
def staleOutcome (sequenceNumber : UInt64) :
    Except SharedError (UInt64 × SequenceNumberSource) → Except SharedError Bool
  | .ok (currentSequence, _) => .ok (sequenceNumber < currentSequence)
  | .error e =>
    if e.code = .missingSender || isDegradableSequenceLookupError e then .ok false else .error e

def signedTransactionSequenceIsStale (signedTxn : SignedUserTransaction) : Call Bool := do
  let outcome ← (resolveSequenceNumber (ctx.vm.addressText signedTxn.rawTxn.sender) none).attempt
  Prog.lift (staleOutcome signedTxn.rawTxn.sequenceNumber outcome)

def decodeSignedTransaction (input : SubmitSignedTransactionInput) :
    Except SharedError SignedUserTransaction := do
  let signedBytes ← decodeHexBytes input.signedTxnBcsHex
  (ctx.vm.decodeSigned signedBytes).mapError
    (invalidPayload "invalid signed transaction bcs hex")

/-- The blocking watch after an accepted submission; its failure is only logged. -/
def watchAccepted (polls : ℕ) (input : SubmitSignedTransactionInput) (txnHash : String)
    (effectiveTimeoutSeconds : Option UInt64) : Call (Option WatchTransactionOutput) :=
  if input.blocking then do
    match ← (ctx.watchTransaction polls {
        txnHash := txnHash
        timeoutSeconds := effectiveTimeoutSeconds
        pollIntervalSeconds := some ctx.config.watchPollInterval.asSecs
        minConfirmedBlocks := input.minConfirmedBlocks }).attempt with
    | .ok result => pure (some result)
    | .error _ => pure none
  else pure none

/-- The submission call and what its answer means. -/
def sendSignedTransaction (polls : ℕ) (input : SubmitSignedTransactionInput) (txnHash : String)
    (preparedSimulationStatus : Option SimulationStatus)
    (effectiveTimeoutSeconds : Option UInt64) : Call SubmitSignedTransactionOutput := do
  match ← rpc (.submitSignedTransaction input.signedTxnBcsHex) with
  | .ok _ =>
    let watchResult ← ctx.watchAccepted polls input txnHash effectiveTimeoutSeconds
    pure (acceptedSubmissionOutput txnHash true preparedSimulationStatus effectiveTimeoutSeconds
      watchResult)
  | .error error =>
    if error.code = .nodeUnavailable ∨ error.code = .rpcUnavailable ∨
        error.code = .submissionUnknown then do
      ctx.recordUnresolvedSubmission txnHash
      pure (submissionUnknownOutput txnHash preparedSimulationStatus effectiveTimeoutSeconds)
    else if error.code = .transactionExpired ∨ error.code = .sequenceNumberStale then
      pure (rejectedSubmissionOutput txnHash preparedSimulationStatus
        (sharedErrorCodeName error.code) effectiveTimeoutSeconds)
    else throw error

/-- Everything `submit_signed_transaction` checks once the endpoint snapshot is in. -/
def checkSubmission (input : SubmitSignedTransactionInput) (signedTxn : SignedUserTransaction)
    (record : Option PreparedTransactionRecord) (current : ChainContext) :
    Except SharedError Unit := do
  validatePreparedTransactionRecord record input.preparedChainContext current
  enforceSubmitSimulationPolicy ctx.config.allowSubmitWithoutPriorSimulation record
  validateSignedTransactionSubmission signedTxn input.preparedChainContext current

/-- `submit_signed_transaction` past the unresolved ledger. -/
def submitResolved (polls : ℕ) (input : SubmitSignedTransactionInput)
    (signedTxn : SignedUserTransaction) (record : Option PreparedTransactionRecord)
    (effectiveTimeoutSeconds : Option UInt64) : Call SubmitSignedTransactionOutput := do
  let txnHash := ctx.vm.transactionId signedTxn
  let preparedSimulationStatus := record.map PreparedTransactionRecord.simulationStatus
  ctx.ensureTransactionCapabilitiesCurrent
  let snapshot ← ctx.loadTransactionEndpointSnapshot
  Prog.lift (ctx.checkSubmission input signedTxn record snapshot.chainContext)
  if signedTxn.rawTxn.expirationTimestampSecs ≤ snapshot.nowSeconds then
    pure (rejectedSubmissionOutput txnHash preparedSimulationStatus "transaction_expired"
      effectiveTimeoutSeconds)
  else do
    if ← ctx.signedTransactionSequenceIsStale signedTxn then
      pure (rejectedSubmissionOutput txnHash preparedSimulationStatus "sequence_number_stale"
        effectiveTimeoutSeconds)
    else
      ctx.sendSignedTransaction polls input txnHash preparedSimulationStatus
        effectiveTimeoutSeconds

def submitSignedTransaction (polls : ℕ) (input : SubmitSignedTransactionInput) :
    Call SubmitSignedTransactionOutput := do
  Prog.lift (ensureTransactionMode ctx.mode)
  let signedTxn ← Prog.lift (ctx.decodeSignedTransaction input)
  let txnHash := ctx.vm.transactionId signedTxn
  let effectiveTimeoutSeconds := effectiveSubmitTimeoutSeconds input.blocking input.timeoutSeconds
    ctx.config.watchTimeout ctx.config.maxSubmitBlockingTimeout
  let rawTxnBcsHex ← Prog.lift (encodeHexBcs ctx.vm signedTxn.rawTxn)
  let record ← ctx.loadPreparedTransactionRecord rawTxnBcsHex
  if ← ctx.hasUnresolvedSubmission txnHash then
    pure (submissionUnknownOutput txnHash (record.map PreparedTransactionRecord.simulationStatus)
      effectiveTimeoutSeconds)
  else ctx.submitResolved polls input signedTxn record effectiveTimeoutSeconds

end AppContext

end StarcoinMcp.Node
