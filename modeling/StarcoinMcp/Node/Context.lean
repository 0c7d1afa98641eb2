import StarcoinMcp.Lib.Concurrent
import StarcoinMcp.Lib.Table
import StarcoinMcp.Node.Helpers

/-! The application context and what its methods ask for. A method of the RPC client, a
reading of a clock and one use of a lock are each one operation. The endpoint and the
clocks answer as they like; an operation on the context's own state (the two ledgers,
the cached probe, the permits) is what `perform` says. -/

namespace StarcoinMcp.Node

/-! ## Operations -/

/-- The calls of `NodeRpcClient`, each with the endpoint's final answer. -/
inductive RpcOp
  | nodeInfo
  | chainInfo
  | chainInfoUncached
  /-- `probe` under `startup_probe_timeout`; no answer is the timeout. -/
  | probe (modeTransaction : Bool)
  | nextSequenceNumber (address : String)
  | getAccountState (address : String)
  | gasPrice
  | dryRunRaw (rawTxnBcsHex : List Char) (senderPublicKey : String)
  | submitSignedTransaction (signedTxnBcsHex : List Char)
  | getTransaction (txnHash : String) (decode : Bool)
  | getTransactionInfo (txnHash : String)
  | getEventsByTxnHash (txnHash : String) (decode : Bool)
deriving DecidableEq, Repr

abbrev RpcOp.Ans : RpcOp → Type
  | .nodeInfo | .chainInfo | .chainInfoUncached | .dryRunRaw _ _ => Except SharedError Value
  | .probe _ => Option (Except SharedError EffectiveProbe)
  | .nextSequenceNumber _ => Except SharedError (Option UInt64)
  | .getAccountState _ | .getTransaction _ _ | .getTransactionInfo _ =>
    Except SharedError (Option Value)
  | .gasPrice => Except SharedError UInt64
  | .submitSignedTransaction _ => Except SharedError String
  | .getEventsByTxnHash _ _ => Except SharedError (List Value)

inductive ClockOp
  /-- `OffsetDateTime::now_utc().unix_timestamp() as u64`. -/
  | unixTimestamp
  | rfc3339Now
  | sleep (seconds : UInt64)
deriving DecidableEq, Repr

abbrev ClockOp.Ans : ClockOp → Type
  | .unixTimestamp => UInt64
  | .rfc3339Now => String
  | .sleep _ => Unit

structure CachedProbe where
  probe : EffectiveProbe
  observedAt : Instant
deriving DecidableEq, Repr

structure PreparedTransactionRecord where
  rawTxnBcsHex : List Char
  simulationStatus : SimulationStatus
  chainContext : ChainContext
  recordedAt : Instant
deriving DecidableEq, Repr

structure UnresolvedSubmission where
  txnHash : String
  recordedAt : Instant
deriving DecidableEq, Repr

inductive LocalOp
  /-- The cached probe, with its age. -/
  | readTransactionProbe
  | writeTransactionProbe (probe : EffectiveProbe)
  | prunePrepared (retention : Duration)
  | getPrepared (rawTxnBcsHex : List Char)
  | insertPrepared (rawTxnBcsHex : List Char) (status : SimulationStatus) (chainContext : ChainContext)
  | pruneUnresolved (retention : Duration)
  | containsUnresolved (txnHash : String)
  | insertUnresolved (txnHash : String)
  | removeUnresolved (txnHash : String)
  | tryWatchPermit
  | dropWatchPermit
  | tryExpensivePermit
  | dropExpensivePermit
deriving DecidableEq, Repr

abbrev LocalOp.Ans : LocalOp → Type
  | .readTransactionProbe => Option (EffectiveProbe × ℕ)
  | .getPrepared _ => Option PreparedTransactionRecord
  | .containsUnresolved _ | .tryWatchPermit | .tryExpensivePermit => Bool
  | .writeTransactionProbe _ | .prunePrepared _ | .insertPrepared _ _ _ | .pruneUnresolved _
  | .insertUnresolved _ | .removeUnresolved _ | .dropWatchPermit | .dropExpensivePermit => Unit

inductive Op
  | rpc (o : RpcOp)
  | clock (o : ClockOp)
  | loc (o : LocalOp)
deriving DecidableEq, Repr

abbrev Op.Ans : Op → Type
  | .rpc o => o.Ans
  | .clock o => o.Ans
  | .loc o => o.Ans

abbrev Call := Prog Op Op.Ans SharedError

abbrev Event := Answered Op.Ans

def rpc (o : RpcOp) : Call o.Ans := Prog.ask (Op.rpc o)

def clock (o : ClockOp) : Call o.Ans := Prog.ask (Op.clock o)

def loc (o : LocalOp) : Call o.Ans := Prog.ask (Op.loc o)

/-! ## The context's own state -/

/-- The parts of an `AppContext` that its calls change. -/
structure Shared where
  transactionProbe : Option CachedProbe
  preparedTransactions : Table PreparedTransactionRecord.rawTxnBcsHex
  unresolvedSubmissions : Table UnresolvedSubmission.txnHash
  watchPermits : ℕ
  expensivePermits : ℕ

/-- The parts that stay as `bootstrap` set them. -/
structure AppContext where
  vm : Vm2
  config : RuntimeConfig
  startupProbe : EffectiveProbe

def LocalOp.perform (now : Instant) (s : Shared) : (o : LocalOp) → o.Ans × Shared
  | .readTransactionProbe =>
    (s.transactionProbe.map fun cached => (cached.probe, elapsed cached.observedAt now), s)
  | .writeTransactionProbe probe => ((), { s with transactionProbe := some ⟨probe, now⟩ })
  | .prunePrepared retention =>
    ((), { s with preparedTransactions :=
      s.preparedTransactions.filter fun r => elapsed r.recordedAt now ≤ retention.nanos })
  | .getPrepared key => (s.preparedTransactions.find key, s)
  | .insertPrepared key status chainContext =>
    ((), { s with preparedTransactions :=
      s.preparedTransactions.upsert ⟨key, status, chainContext, now⟩ })
  | .pruneUnresolved retention =>
    ((), { s with unresolvedSubmissions :=
      s.unresolvedSubmissions.filter fun r => elapsed r.recordedAt now ≤ retention.nanos })
  | .containsUnresolved hash => ((s.unresolvedSubmissions.find hash).isSome, s)
  | .insertUnresolved hash =>
    ((), { s with unresolvedSubmissions := s.unresolvedSubmissions.upsert ⟨hash, now⟩ })
  | .removeUnresolved hash =>
    ((), { s with unresolvedSubmissions :=
      s.unresolvedSubmissions.filter fun r => r.txnHash ≠ hash })
  -- with no permit left the count stays at zero
  | .tryWatchPermit => (0 < s.watchPermits, { s with watchPermits := s.watchPermits - 1 })
  | .dropWatchPermit => ((), { s with watchPermits := s.watchPermits + 1 })
  | .tryExpensivePermit =>
    (0 < s.expensivePermits, { s with expensivePermits := s.expensivePermits - 1 })
  | .dropExpensivePermit => ((), { s with expensivePermits := s.expensivePermits + 1 })

/-- The endpoint and the wall clock answer for themselves. -/
def Op.perform : (o : Op) → Instant → o.Ans → Shared → o.Ans × Shared
  | .rpc _, _, x, s => (x, s)
  | .clock _, _, x, s => (x, s)
  | .loc o, now, _, s => o.perform now s

end StarcoinMcp.Node
