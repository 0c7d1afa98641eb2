import StarcoinMcp.Node.Context

/-! Starting a context, and the two checks every transaction tool makes of the endpoint
before it does anything else: the endpoint still has the methods, and it is the
configured chain, up to date. -/

namespace StarcoinMcp.Node

structure TransactionEndpointSnapshot where
  chainContext : ChainContext
  nowSeconds : UInt64

def validateTransactionProbe (probe : EffectiveProbe) : Except SharedError Unit :=
  if !probe.supportsBlockLookup || !probe.supportsTransactionLookup ||
      !probe.supportsTransactionSubmission || !probe.supportsRawDryRun then
    throw (.new .unsupportedOperation
      ("transaction capability probe failed: required read-side, submission, or dry-run " ++
        "methods are unavailable"))
  else pure ()

def enforceTransactionHeadLag (nowSeconds headTimestamp : UInt64) (maxHeadLag : Duration) :
    Except SharedError Unit :=
  let lagSeconds := saturatingSub nowSeconds headTimestamp
  if maxHeadLag.asSecs < lagSeconds then
    throw (.retry .rpcUnavailable
      s!"endpoint head lag is {lagSeconds}s, above max_head_lag {maxHeadLag.asSecs}s")
  else pure ()

namespace AppContext

variable (ctx : AppContext)

def mode : Mode := ctx.config.mode

/-- `ensure_transaction_capabilities_current` after the cache had nothing fresh. -/
def refreshTransactionProbe : Call Unit := do
  match ← rpc (.probe true) with
  | none => throw (.retry .nodeUnavailable "transaction capability probe timed out")
  | some answer =>
    let probe ← Prog.lift answer
    loc (.writeTransactionProbe probe)
    Prog.lift (validateTransactionProbe probe)

def ensureTransactionCapabilitiesCurrent : Call Unit :=
  if ctx.mode ≠ .transaction then pure ()
  else do
    match ← loc .readTransactionProbe with
    | some (probe, age) =>
      if age ≤ ctx.config.chainStatusCacheTtl.nanos then Prog.lift (validateTransactionProbe probe)
      else refreshTransactionProbe
    | none => refreshTransactionProbe

/-- What the two fresh readings of the endpoint amount to, once they are in. -/
def checkSnapshot (nodeInfo chainInfo : Value) : Except SharedError UInt64 := do
  validateChainIdentity ctx.config nodeInfo chainInfo
  let nowSeconds ← extractU64 nodeInfo ["now_seconds"]
  let headTimestamp ← extractU64 chainInfo ["head", "timestamp"]
  enforceTransactionHeadLag nowSeconds headTimestamp ctx.config.maxHeadLag
  pure nowSeconds

def loadTransactionEndpointSnapshot : Call TransactionEndpointSnapshot := do
  let nodeInfo ← Prog.lift (← rpc .nodeInfo)
  let chainInfo ← Prog.lift (← rpc .chainInfoUncached)
  let nowSeconds ← Prog.lift (ctx.checkSnapshot nodeInfo chainInfo)
  let observedAt ← clock .rfc3339Now
  let chainContext ← Prog.lift (extractChainContext nodeInfo chainInfo observedAt)
  pure ⟨chainContext, nowSeconds⟩

end AppContext

/-! ## Start -/

/-- `AppContext::bootstrap`, after `config.validate()` and the construction of the client.
The startup probe came in time, with the answer `startupProbe`. -/
def checkStartup (config : RuntimeConfig) (startupProbe : EffectiveProbe) (nodeInfo chainInfo : Value) :
    Except String Unit := do
  config.validate
  if !startupProbe.supportsBlockLookup || !startupProbe.supportsTransactionLookup then
    throw "startup probe failed: read_only profile is missing required query capabilities"
  if config.mode = .transaction &&
      (!startupProbe.supportsTransactionSubmission || !startupProbe.supportsRawDryRun) then
    throw ("startup probe failed: transaction profile is missing submission or dry-run " ++
      "capabilities")
  (validateChainIdentity config nodeInfo chainInfo).mapError SharedError.message
  -- autodetection logs the chain it found, and so has to be able to read it
  if config.mode = .readOnly && config.allowReadOnlyChainAutodetect &&
      (config.expectedChainId.isNone || config.expectedNetwork.isNone) then
    discard ((extractChainContext nodeInfo chainInfo "").mapError SharedError.message)

/-- The state a context starts with, its probe having been read at `observedAt`. -/
def startShared (config : RuntimeConfig) (startupProbe : EffectiveProbe) (observedAt : Instant) :
    Shared where
  transactionProbe := if config.mode = .transaction then some ⟨startupProbe, observedAt⟩ else none
  preparedTransactions := Table.empty
  unresolvedSubmissions := Table.empty
  watchPermits := config.maxConcurrentWatchRequests
  expensivePermits := config.maxInflightExpensiveRequests

/-- A context that `bootstrap` returns, with the state it starts in. -/
def bootstrap (vm : Vm2) (config : RuntimeConfig) (startupProbe : EffectiveProbe)
    (nodeInfo chainInfo : Value) (observedAt : Instant) : Except String (AppContext × Shared) := do
  checkStartup config startupProbe nodeInfo chainInfo
  pure (⟨vm, config, startupProbe⟩, startShared config startupProbe observedAt)

theorem validate_of_bootstrap {vm : Vm2} {config : RuntimeConfig} {startupProbe : EffectiveProbe}
    {nodeInfo chainInfo : Value} {observedAt : Instant} {ctx : AppContext} {s : Shared}
    (h : bootstrap vm config startupProbe nodeInfo chainInfo observedAt = .ok (ctx, s)) :
    ctx.config.validate = .ok () ∧ s = startShared ctx.config ctx.startupProbe observedAt := by
  obtain ⟨_, hcheck, hctx⟩ := bind_eq_ok h
  obtain ⟨_, hvalid, _⟩ := bind_eq_ok hcheck
  obtain ⟨rfl, rfl⟩ := Prod.mk.inj (Except.ok.inj hctx)
  exact ⟨hvalid, rfl⟩

end StarcoinMcp.Node
