import StarcoinMcp.Node.Rules

/-! The submission gate. Whatever the ledgers hold, whatever the endpoint answers and
whatever other calls do in between, a signed transaction is handed to the endpoint only
after every check of the source, and once. -/

namespace StarcoinMcp.Node

open Prog

/-! ## What the checks mean -/

/-- Two contexts name one chain; network names count up to blanks around them and case. -/
structure SameChain (c d : ChainContext) : Prop where
  chainId : c.chainId = d.chainId
  network : canonicalizeNetworkName c.network = canonicalizeNetworkName d.network
  genesisHash : c.genesisHash = d.genesisHash

theorem sameChain_iff {c d : ChainContext} : sameChain c d = true ↔ SameChain c d := by
  unfold sameChain
  simp only [Bool.and_eq_true, beq_iff_eq]
  exact ⟨fun ⟨⟨h₁, h₂⟩, h₃⟩ => ⟨h₁, h₂, h₃⟩, fun h => ⟨⟨h.chainId, h.network⟩, h.genesisHash⟩⟩

theorem of_ensureTransactionMode {mode : Mode} {u : Unit} (h : ensureTransactionMode mode = .ok u) :
    mode = .transaction := by
  unfold ensureTransactionMode at h
  split_ifs at h with hmode
  · exact not_not.mp hmode

/-- The fields of a chain context are the endpoint's. -/
theorem of_extractChainContext {nodeInfo chainInfo : Value} {observedAt : String}
    {current : ChainContext} (h : extractChainContext nodeInfo chainInfo observedAt = .ok current) :
    extractU8 chainInfo ["chain_id"] = .ok current.chainId ∧
      extractNetwork nodeInfo = .ok current.network ∧
      extractString chainInfo ["genesis_hash"] = .ok current.genesisHash := by
  obtain ⟨chainId, hchainId, h⟩ := bind_eq_ok h
  obtain ⟨network, hnetwork, h⟩ := bind_eq_ok h
  obtain ⟨genesisHash, hgenesis, h⟩ := bind_eq_ok h
  obtain ⟨_, _, h⟩ := bind_eq_ok h
  obtain ⟨_, _, h⟩ := bind_eq_ok h
  obtain rfl := Except.ok.inj h
  exact ⟨hchainId, hnetwork, hgenesis⟩

theorem of_checkChainId {config : RuntimeConfig} {chainInfo : Value} {expected actual : UInt8}
    {u : Unit} (h : checkChainId config chainInfo = .ok u)
    (hpin : config.expectedChainId = some expected)
    (hactual : extractU8 chainInfo ["chain_id"] = .ok actual) : expected = actual := by
  unfold checkChainId at h
  rw [hpin] at h
  obtain ⟨a, ha, h⟩ := bind_eq_ok h
  obtain rfl := Except.ok.inj (ha.symm.trans hactual)
  split_ifs at h with hne
  exact not_not.mp hne

theorem of_checkNetwork {config : RuntimeConfig} {nodeInfo : Value} {expected actual : String}
    {u : Unit} (h : checkNetwork config nodeInfo = .ok u)
    (hpin : config.expectedNetwork = some expected)
    (hactual : extractNetwork nodeInfo = .ok actual) :
    canonicalizeNetworkName expected = canonicalizeNetworkName actual := by
  unfold checkNetwork at h
  rw [hpin] at h
  obtain ⟨a, ha, h⟩ := bind_eq_ok h
  obtain rfl := Except.ok.inj (ha.symm.trans hactual)
  split_ifs at h with hne
  have heq : Text.toAsciiLowercase (canonicalizeNetworkName expected) =
      Text.toAsciiLowercase (canonicalizeNetworkName a) := by
    simpa [Text.eqIgnoreAsciiCase] using hne
  -- both names are in lower case already
  unfold canonicalizeNetworkName at heq ⊢
  rwa [Text.toAsciiLowercase_idem, Text.toAsciiLowercase_idem] at heq

theorem of_checkGenesis {config : RuntimeConfig} {chainInfo : Value} {expected actual : String}
    {u : Unit} (h : checkGenesis config chainInfo = .ok u)
    (hrequired : config.requireGenesisHashMatch = true)
    (hpin : config.expectedGenesisHash = some expected)
    (hactual : extractString chainInfo ["genesis_hash"] = .ok actual) : expected = actual := by
  unfold checkGenesis at h
  rw [if_pos hrequired, hpin] at h
  obtain ⟨a, ha, h⟩ := bind_eq_ok h
  obtain rfl := Except.ok.inj (ha.symm.trans hactual)
  split_ifs at h with hne
  exact not_not.mp hne

theorem of_enforceTransactionHeadLag {now head : UInt64} {maxHeadLag : Duration} {u : Unit}
    (h : enforceTransactionHeadLag now head maxHeadLag = .ok u) :
    now.toNat - head.toNat ≤ maxHeadLag.asSecs.toNat := by
  unfold enforceTransactionHeadLag at h
  dsimp only at h
  split_ifs at h with hlag
  rw [UInt64.lt_iff_toNat_lt, toNat_saturatingSub] at hlag
  omega

/-- What a snapshot that was not refused says about the endpoint. -/
structure SnapshotFacts (config : RuntimeConfig) (nodeInfo chainInfo : Value)
    (snapshot : TransactionEndpointSnapshot) : Prop where
  chainId : extractU8 chainInfo ["chain_id"] = .ok snapshot.chainContext.chainId
  network : extractNetwork nodeInfo = .ok snapshot.chainContext.network
  genesisHash : extractString chainInfo ["genesis_hash"] = .ok snapshot.chainContext.genesisHash
  nowSeconds : extractU64 nodeInfo ["now_seconds"] = .ok snapshot.nowSeconds
  chainIdPinned : ∀ pin, config.expectedChainId = some pin → pin = snapshot.chainContext.chainId
  networkPinned : ∀ pin, config.expectedNetwork = some pin →
    canonicalizeNetworkName pin = canonicalizeNetworkName snapshot.chainContext.network
  genesisPinned : config.requireGenesisHashMatch = true → ∀ pin,
    config.expectedGenesisHash = some pin → pin = snapshot.chainContext.genesisHash
  headLag : ∃ head, extractU64 chainInfo ["head", "timestamp"] = .ok head ∧
    snapshot.nowSeconds.toNat - head.toNat ≤ config.maxHeadLag.asSecs.toNat

theorem snapshotFacts {ctx : AppContext} {nodeInfo chainInfo : Value} {observedAt : String}
    {snapshot : TransactionEndpointSnapshot}
    (hcheck : ctx.checkSnapshot nodeInfo chainInfo = .ok snapshot.nowSeconds)
    (hcontext : extractChainContext nodeInfo chainInfo observedAt = .ok snapshot.chainContext) :
    SnapshotFacts ctx.config nodeInfo chainInfo snapshot := by
  obtain ⟨hchainId, hnetwork, hgenesis⟩ := of_extractChainContext hcontext
  obtain ⟨_, hidentity, hcheck⟩ := bind_eq_ok hcheck
  obtain ⟨_, hid, hidentity⟩ := bind_eq_ok hidentity
  obtain ⟨_, hnet, hgen⟩ := bind_eq_ok hidentity
  obtain ⟨now, hnow, hcheck⟩ := bind_eq_ok hcheck
  obtain ⟨head, hhead, hcheck⟩ := bind_eq_ok hcheck
  obtain ⟨_, hlag, hcheck⟩ := bind_eq_ok hcheck
  obtain rfl := Except.ok.inj hcheck
  exact {
    chainId := hchainId
    network := hnetwork
    genesisHash := hgenesis
    nowSeconds := hnow
    chainIdPinned := fun pin hpin => of_checkChainId hid hpin hchainId
    networkPinned := fun pin hpin => of_checkNetwork hnet hpin hnetwork
    genesisPinned := fun hrequired pin hpin => of_checkGenesis hgen hrequired hpin hgenesis
    headLag := ⟨head, hhead, of_enforceTransactionHeadLag hlag⟩ }

/-- What the checks of one submission establish. -/
structure CheckedFacts (ctx : AppContext) (input : SubmitSignedTransactionInput)
    (signedTxn : SignedUserTransaction) (record : Option PreparedTransactionRecord)
    (current : ChainContext) : Prop where
  signedChainId : signedTxn.rawTxn.chainId = input.preparedChainContext.chainId
  supplied : SameChain input.preparedChainContext current
  attested : ∀ r, record = some r →
    SameChain r.chainContext input.preparedChainContext ∧ SameChain r.chainContext current
  simulated : ctx.config.allowSubmitWithoutPriorSimulation = false →
    ∃ r, record = some r ∧ r.simulationStatus = .performed

theorem of_validatePreparedTransactionRecord {record : PreparedTransactionRecord}
    {supplied current : ChainContext} {u : Unit}
    (h : validatePreparedTransactionRecord (some record) supplied current = .ok u) :
    SameChain record.chainContext supplied ∧ SameChain record.chainContext current := by
  unfold validatePreparedTransactionRecord at h
  obtain ⟨hsupplied, h⟩ := guard_eq_ok h
  split_ifs at h with hcurrent
  exact ⟨sameChain_iff.mp (by simpa using hsupplied), sameChain_iff.mp (by simpa using hcurrent)⟩

theorem of_enforceSubmitSimulationPolicy {record : Option PreparedTransactionRecord} {u : Unit}
    (h : enforceSubmitSimulationPolicy false record = .ok u) :
    ∃ r, record = some r ∧ r.simulationStatus = .performed := by
  unfold enforceSubmitSimulationPolicy at h
  rw [if_neg Bool.false_ne_true] at h
  cases record with
  | none => cases h
  | some r =>
    dsimp only at h
    split_ifs at h with hperformed
    exact ⟨r, rfl, hperformed⟩

theorem of_validateSignedTransactionSubmission {signedTxn : SignedUserTransaction}
    {supplied current : ChainContext} {u : Unit}
    (h : validateSignedTransactionSubmission signedTxn supplied current = .ok u) :
    signedTxn.rawTxn.chainId = supplied.chainId ∧ SameChain supplied current := by
  unfold validateSignedTransactionSubmission at h
  obtain ⟨_, h⟩ := guard_eq_ok h
  obtain ⟨hsupplied, h⟩ := guard_eq_ok h
  split_ifs at h with hsigned
  exact ⟨(not_not.mp hsigned).symm, sameChain_iff.mp (by simpa using hsupplied)⟩

theorem checkedFacts {ctx : AppContext} {input : SubmitSignedTransactionInput}
    {signedTxn : SignedUserTransaction} {record : Option PreparedTransactionRecord}
    {current : ChainContext} {u : Unit}
    (h : ctx.checkSubmission input signedTxn record current = .ok u) :
    CheckedFacts ctx input signedTxn record current := by
  obtain ⟨_, hrecord, h⟩ := bind_eq_ok h
  obtain ⟨_, hpolicy, hsigned⟩ := bind_eq_ok h
  obtain ⟨hchainId, hsupplied⟩ := of_validateSignedTransactionSubmission hsigned
  refine ⟨hchainId, hsupplied, ?_, ?_⟩
  · rintro r rfl
    exact of_validatePreparedTransactionRecord hrecord
  · intro hallow
    rw [hallow] at hpolicy
    exact of_enforceSubmitSimulationPolicy hpolicy

/-! ## One submission -/

/-- Where a submission stands when it calls the endpoint: what it has read, in order, and that
every check passed. -/
structure Passed (ctx : AppContext) (input : SubmitSignedTransactionInput) (t : List Event)
    (signedTxn : SignedUserTransaction) (rawBytes : List UInt8) (retention : Duration)
    (record : Option PreparedTransactionRecord) (nodeInfo chainInfo : Value)
    (snapshot : TransactionEndpointSnapshot) : Prop where
  mode : ctx.config.mode = .transaction
  decoded : ctx.decodeSignedTransaction input = .ok signedTxn
  encoded : ctx.vm.encodeRaw signedTxn.rawTxn = .ok rawBytes
  retained : ctx.config.maxExpirationTtl.checkedAdd ctx.config.maxWatchTimeout = some retention
  read : ∃ probing observedAt lookups,
    t = [⟨.loc (.prunePrepared retention), ()⟩,
      ⟨.loc (.getPrepared (Hex.encode rawBytes)), record⟩,
      ⟨.loc (.pruneUnresolved retention), ()⟩,
      ⟨.loc (.containsUnresolved (ctx.vm.transactionId signedTxn)), false⟩] ++ probing ++
      [⟨.rpc .nodeInfo, .ok nodeInfo⟩, ⟨.rpc .chainInfoUncached, .ok chainInfo⟩,
        ⟨.clock .rfc3339Now, observedAt⟩] ++ lookups ∧
    (∀ e ∈ probing, e.1.quiet) ∧ ∀ e ∈ lookups, e.1.quiet
  facts : SnapshotFacts ctx.config nodeInfo chainInfo snapshot
  checked : CheckedFacts ctx input signedTxn record snapshot.chainContext
  unexpired : snapshot.nowSeconds < signedTxn.rawTxn.expirationTimestampSecs

/-- What a submission may ask for. -/
def Submitting (ctx : AppContext) (input : SubmitSignedTransactionInput) (t : List Event) : Op → Prop
  | .rpc (.submitSignedTransaction hex) => hex = input.signedTxnBcsHex ∧
    ∃ signedTxn rawBytes retention record nodeInfo chainInfo snapshot,
      Passed ctx input t signedTxn rawBytes retention record nodeInfo chainInfo snapshot
  | .loc (.insertPrepared _ _ _) => False
  | _ => True

theorem submitting_of_quiet {ctx : AppContext} {input : SubmitSignedTransactionInput}
    {t : List Event} {o : Op} (h : o.quiet) : Submitting ctx input t o := by
  cases o with
  | rpc o => cases o <;> trivial
  | clock o => trivial
  | loc o => cases o <;> trivial

/-- The ledgers have been read; the endpoint has not been asked for anything. -/
theorem meets_submitResolved {ctx : AppContext} {polls : ℕ} {input : SubmitSignedTransactionInput}
    {signedTxn : SignedUserTransaction} {rawBytes : List UInt8} {retention : Duration}
    {record : Option PreparedTransactionRecord} {timeout : Option UInt64}
    (hmode : ctx.config.mode = .transaction)
    (hdecoded : ctx.decodeSignedTransaction input = .ok signedTxn)
    (hencoded : ctx.vm.encodeRaw signedTxn.rawTxn = .ok rawBytes)
    (hretained : ctx.config.maxExpirationTtl.checkedAdd ctx.config.maxWatchTimeout = some retention) :
    Meets (Submitting ctx input) (fun _ _ => True)
      [⟨.loc (.prunePrepared retention), ()⟩, ⟨.loc (.getPrepared (Hex.encode rawBytes)), record⟩,
        ⟨.loc (.pruneUnresolved retention), ()⟩,
        ⟨.loc (.containsUnresolved (ctx.vm.transactionId signedTxn)), false⟩]
      (ctx.submitResolved polls input signedTxn record timeout) := by
  have hquiet : ∀ t o, o.quiet → Submitting ctx input t o := fun _ _ => submitting_of_quiet
  unfold AppContext.submitResolved
  refine (AppContext.meets_ensureTransactionCapabilitiesCurrent.weaken fun t o h =>
    hquiet t o (Op.quiet_of_aboutProbe h)).bind ?_ fun _ _ _ => trivial
  rintro d₁ _ ⟨probing, hprobing, hprobingAbout⟩
  refine (AppContext.meets_loadTransactionEndpointSnapshot.weaken hquiet).bind ?_
    fun _ _ _ => trivial
  intro d₂ snapshot hsnapshot
  obtain ⟨nodeInfo, chainInfo, observedAt, hread, hcheck, hcontext⟩ := hsnapshot snapshot rfl
  refine meets_lift_bind (fun _ hchecked => ?_) fun _ _ => trivial
  split
  · trivial
  next hexpired =>
  have hstale : Asks Op.quiet (ctx.signedTransactionSequenceIsStale signedTxn) :=
    (AppContext.asks_signedTransactionSequenceIsStale _).imp fun _ => Op.quiet_of_inquiry
  refine ((hstale.meets fun _ _ h => h).extends.weaken hquiet).bind ?_ fun _ _ _ => trivial
  rintro d₃ stale ⟨-, lookups, hlookups, hlookupsQuiet⟩
  cases stale with
  | true => trivial
  | false =>
    refine AppContext.meets_sendSignedTransaction hquiet ⟨rfl, ?_⟩
    refine ⟨signedTxn, rawBytes, retention, record, nodeInfo, chainInfo, snapshot, ?_⟩
    refine ⟨hmode, hdecoded, hencoded, hretained, ⟨probing, observedAt, lookups, ?_, fun e he =>
      Op.quiet_of_aboutProbe (hprobingAbout e he), hlookupsQuiet⟩, snapshotFacts hcheck hcontext,
      checkedFacts hchecked, ?_⟩
    · rw [hlookups, hread, hprobing]
    · exact UInt64.not_le.mp hexpired

theorem meets_submitSignedTransaction (ctx : AppContext) (polls : ℕ)
    (input : SubmitSignedTransactionInput) :
    Meets (Submitting ctx input) (fun _ _ => True) [] (ctx.submitSignedTransaction polls input) := by
  have hquiet : ∀ t o, o.quiet → Submitting ctx input t o := fun _ _ => submitting_of_quiet
  unfold AppContext.submitSignedTransaction
  refine meets_lift_bind (fun _ hmode => ?_) fun _ _ => trivial
  refine meets_lift_bind (fun signedTxn hdecoded => ?_) fun _ _ => trivial
  refine meets_lift_bind (fun rawTxnBcsHex hencoded => ?_) fun _ _ => trivial
  obtain ⟨rawBytes, hraw, rfl⟩ := of_encodeHexBcs hencoded
  refine ((AppContext.meets_loadPreparedTransactionRecord _).weaken hquiet).bind ?_
    fun _ _ _ => trivial
  rintro d₁ record ⟨retention, _, hretained, hd₁, hr⟩
  obtain rfl := Except.ok.inj hr
  refine ((AppContext.meets_hasUnresolvedSubmission _).weaken hquiet).bind ?_ fun _ _ _ => trivial
  rintro d₂ found ⟨_, _, hretained', hd₂, hr⟩
  obtain rfl := Except.ok.inj hr
  obtain rfl := Option.some.inj (hretained.symm.trans hretained')
  cases found with
  | true => trivial
  | false =>
    show Meets _ _ _ (ctx.submitResolved polls input signedTxn record _)
    rw [hd₂, hd₁]
    exact meets_submitResolved (of_ensureTransactionMode hmode) hdecoded hraw hretained

/-! ## Every call of a context -/

/-- The tools that may vouch for a raw transaction. -/
def ToolCall.vouches : ToolCall → Bool
  | .prepareTransfer _ | .prepareContractCall _ | .preparePublishPackage _
  | .simulateRawTransaction _ => true
  | .watchTransaction _ _ | .submitSignedTransaction _ _ => false

/-- What a call of a tool may ask for. -/
def Allowed (ctx : AppContext) : ToolCall → List Event → Op → Prop
  | .submitSignedTransaction _ input, t, o => Submitting ctx input t o
  | .watchTransaction _ _, _, o => o.quiet
  | _, t, o => Vouching t o

theorem meets_program (ctx : AppContext) (c : ToolCall) :
    Meets (Allowed ctx c) (fun _ _ => True) [] (ctx.program c) := by
  have hvouch : ∀ input : PrepareOptions, ∀ sender payload kind summary details t,
      Meets Vouching (fun _ _ => True) t
        (ctx.prepareTransaction sender input payload kind summary details) :=
    fun _ _ _ _ _ _ _ => AppContext.meets_prepareTransaction _ _ _ _ _ _
  cases c with
  | prepareTransfer input =>
    refine Meets.bind (R := fun _ _ => True) ?_ (fun _ _ _ => trivial) fun _ _ _ => trivial
    show Meets Vouching _ _ (ctx.prepareTransfer input)
    unfold AppContext.prepareTransfer
    iterate 5 refine meets_lift_bind (fun _ _ => ?_) fun _ _ => trivial
    exact hvouch _ _ _ _ _ _ _
  | prepareContractCall input =>
    refine Meets.bind (R := fun _ _ => True) ?_ (fun _ _ _ => trivial) fun _ _ _ => trivial
    show Meets Vouching _ _ (ctx.prepareContractCall input)
    unfold AppContext.prepareContractCall
    iterate 2 refine meets_lift_bind (fun _ _ => ?_) fun _ _ => trivial
    exact hvouch _ _ _ _ _ _ _
  | preparePublishPackage input =>
    exact Meets.bind (AppContext.meets_preparePublishPackage input) (fun _ _ _ => trivial)
      fun _ _ _ => trivial
  | simulateRawTransaction input =>
    exact Meets.bind (AppContext.meets_simulateRawTransaction input) (fun _ _ _ => trivial)
      fun _ _ _ => trivial
  | watchTransaction polls input =>
    exact Meets.bind ((AppContext.asks_watchTransaction polls input).meets fun _ _ => Op.quiet_of_watching)
      (fun _ _ _ => trivial) fun _ _ _ => trivial
  | submitSignedTransaction polls input =>
    exact Meets.bind (meets_submitSignedTransaction ctx polls input) (fun _ _ _ => trivial)
      fun _ _ _ => trivial

/-! ## Runs -/

section Runs

variable {ctx : AppContext} {s : Shared} {moves : List NodeMove}

theorem submission_entry {before after : List LogEntry} {e : LogEntry} {hex : List Char}
    (hlog : (ctx.system.run s moves).log = before ++ e :: after)
    (he : e.event.1 = .rpc (.submitSignedTransaction hex)) :
    ∃ polls input p,
      (ctx.system.run s moves).calls[e.call]? = some (.submitSignedTransaction polls input, p) ∧
      Submitting ctx input (traceOf e.call before) (.rpc (.submitSignedTransaction hex)) := by
  obtain ⟨c, p, hcall, hallowed⟩ :=
    (System.followed_run s moves).allowed (meets_program ctx) hlog
  rw [he] at hallowed
  cases c with
  | submitSignedTransaction polls input => exact ⟨polls, input, p, hcall, hallowed⟩
  | watchTransaction polls input => cases hallowed
  | prepareTransfer input => exact hallowed.elim
  | prepareContractCall input => exact hallowed.elim
  | preparePublishPackage input => exact hallowed.elim
  | simulateRawTransaction input => exact hallowed.elim

theorem attestation_entry {before after : List LogEntry} {e : LogEntry} {key : List Char}
    {status : SimulationStatus} {chainContext : ChainContext}
    (hlog : (ctx.system.run s moves).log = before ++ e :: after)
    (he : e.event.1 = .loc (.insertPrepared key status chainContext)) :
    ∃ c p, (ctx.system.run s moves).calls[e.call]? = some (c, p) ∧ c.vouches ∧
      (∃ rawBytes, key = Hex.encode rawBytes) ∧
      (status = .performed → DryRunExecuted key (traceOf e.call before)) := by
  obtain ⟨c, p, hcall, hallowed⟩ :=
    (System.followed_run s moves).allowed (meets_program ctx) hlog
  rw [he] at hallowed
  refine ⟨c, p, hcall, ?_⟩
  cases c with
  | submitSignedTransaction polls input => exact hallowed.elim
  | watchTransaction polls input => cases hallowed
  | prepareTransfer input => exact ⟨rfl, hallowed⟩
  | prepareContractCall input => exact ⟨rfl, hallowed⟩
  | preparePublishPackage input => exact ⟨rfl, hallowed⟩
  | simulateRawTransaction input => exact ⟨rfl, hallowed⟩

/-- The rows of the prepared ledger after one operation: rows it had before, no older than a
pruning allows, or the row just written. -/
theorem mem_prepared_effect {s : Shared} {e : LogEntry} {r : PreparedTransactionRecord}
    (h : r ∈ (ctx.system.effect s e).preparedTransactions.rows) :
    (r ∈ s.preparedTransactions.rows ∧ ∀ retention, e.event.1 = .loc (.prunePrepared retention) →
      e.time ≤ r.recordedAt + retention.nanos) ∨
    (e.event.1 = .loc (.insertPrepared r.rawTxnBcsHex r.simulationStatus r.chainContext) ∧
      e.time = r.recordedAt) := by
  obtain ⟨i, now, ⟨o, x⟩⟩ := e
  cases o with
  | rpc o => exact .inl ⟨h, fun _ he => nomatch he⟩
  | clock o => exact .inl ⟨h, fun _ he => nomatch he⟩
  | loc o =>
    cases o with
    | prunePrepared retention =>
      obtain ⟨hmem, hage⟩ := List.mem_filter.mp h
      refine .inl ⟨hmem, fun retention' he => ?_⟩
      cases he
      have : now - r.recordedAt ≤ retention.nanos := by simpa [elapsed] using hage
      show now ≤ _
      omega
    | insertPrepared key status chainContext =>
      rcases Table.mem_upsert h with rfl | hmem
      · exact .inr ⟨rfl, rfl⟩
      · exact .inl ⟨hmem, fun _ he => nomatch he⟩
    | _ => exact .inl ⟨h, fun _ he => nomatch he⟩

/-- Where the rows of the prepared ledger come from, and how old they can be. -/
structure LedgerFacts (s : Shared) (log : List LogEntry) (r : PreparedTransactionRecord) : Prop where
  origin : r ∈ s.preparedTransactions.rows ∨ ∃ before e after, log = before ++ e :: after ∧
    e.event.1 = .loc (.insertPrepared r.rawTxnBcsHex r.simulationStatus r.chainContext) ∧
    e.time = r.recordedAt
  retained : ∀ e ∈ log, ∀ retention, e.event.1 = .loc (.prunePrepared retention) →
    e.time ≤ r.recordedAt + retention.nanos

theorem ledgerFacts {log : List LogEntry}
    (hordered : Logged (fun before e => ∀ e' ∈ before, e'.time ≤ e.time) log) :
    ∀ r ∈ (ctx.system.replay s log).preparedTransactions.rows, LedgerFacts s log r := by
  refine System.replay_invariant
    (I := fun (log : List LogEntry) (s' : Shared) =>
      ∀ r ∈ s'.preparedTransactions.rows, LedgerFacts s log r) ?_ ?_ hordered
  · exact fun r hr => ⟨.inl hr, fun e he => nomatch he⟩
  · intro log e ih hlast r hr
    rcases mem_prepared_effect hr with ⟨hold, hpruned⟩ | ⟨hwritten, htime⟩
    · have hfacts := ih r hold
      refine ⟨?_, fun e' he' retention hprune => ?_⟩
      · rcases hfacts.origin with hstart | ⟨before, e', after, rfl, horigin⟩
        · exact .inl hstart
        · exact .inr ⟨before, e', after ++ [e], by simp, horigin⟩
      · rcases List.mem_append.mp he' with he' | he'
        · exact hfacts.retained e' he' retention hprune
        · rw [List.mem_singleton.mp he'] at hprune ⊢
          exact hpruned retention hprune
    · refine ⟨.inr ⟨log, e, [], rfl, hwritten, htime⟩, fun e' he' retention _ => ?_⟩
      -- a row written last is younger than every pruning so far
      have hle : e'.time ≤ e.time := by
        rcases List.mem_append.mp he' with he' | he'
        · exact hlast e' he'
        · rw [List.mem_singleton.mp he']
      omega

/-- Nothing is handed over before the gates are passed, so nothing is handed over twice. -/
theorem Passed.not_submission {input : SubmitSignedTransactionInput} {t : List Event}
    {signedTxn : SignedUserTransaction} {rawBytes : List UInt8} {retention : Duration}
    {record : Option PreparedTransactionRecord} {nodeInfo chainInfo : Value}
    {snapshot : TransactionEndpointSnapshot}
    (h : Passed ctx input t signedTxn rawBytes retention record nodeInfo chainInfo snapshot) :
    ∀ e ∈ t, e.1.isSubmission = false := by
  obtain ⟨probing, observedAt, lookups, rfl, hprobing, hlookups⟩ := h.read
  have hquiet : ∀ {o : Op}, o.quiet → o.isSubmission = false := by
    intro o ho
    cases o with
    | rpc o => cases o <;> first | rfl | cases ho
    | clock o => rfl
    | loc o => rfl
  intro e he
  simp only [List.mem_append, List.mem_cons, List.not_mem_nil, or_false] at he
  rcases he with (((rfl | rfl | rfl | rfl) | he) | rfl | rfl | rfl) | he
  · rfl
  · rfl
  · rfl
  · rfl
  · exact hquiet (hprobing e he)
  · rfl
  · rfl
  · rfl
  · exact hquiet (hlookups e he)

/-- A call hands a transaction over at most once. -/
theorem submission_unique {before after : List LogEntry} {e : LogEntry} {hex : List Char}
    (hlog : (ctx.system.run s moves).log = before ++ e :: after)
    (he : e.event.1 = .rpc (.submitSignedTransaction hex)) :
    ∀ e' ∈ before ++ after, e'.call = e.call → e'.event.1.isSubmission = false := by
  have hfirst : ∀ {before after : List LogEntry} {e : LogEntry} {hex : List Char},
      (ctx.system.run s moves).log = before ++ e :: after →
      e.event.1 = .rpc (.submitSignedTransaction hex) →
      ∀ e' ∈ before, e'.call = e.call → e'.event.1.isSubmission = false := by
    intro before after e hex hlog he e' he' hcall
    obtain ⟨polls, input, p, -, -, _, _, _, _, _, _, _, hpassed⟩ := submission_entry hlog he
    exact hpassed.not_submission e'.event (mem_traceOf.mpr ⟨e', he', hcall, rfl⟩)
  intro e' he' hcall
  rcases List.mem_append.mp he' with he' | he'
  · exact hfirst hlog he e' he' hcall
  · -- a second one would come after the first
    rw [← Bool.not_eq_true]
    intro hsub
    obtain ⟨hex', hhex'⟩ : ∃ hex', e'.event.1 = .rpc (.submitSignedTransaction hex') := by
      revert hsub
      cases e'.event.1 with
      | rpc o => cases o <;> intro hsub <;> first | exact ⟨_, rfl⟩ | cases hsub
      | clock o => exact fun hsub => nomatch hsub
      | loc o => exact fun hsub => nomatch hsub
    obtain ⟨mid, rest, rfl⟩ := List.append_of_mem he'
    have hlog' : (ctx.system.run s moves).log = (before ++ e :: mid) ++ e' :: rest := by
      rw [hlog, List.append_assoc, List.cons_append]
    have hnot := hfirst hlog' hhex' e (by simp) hcall.symm
    rw [he] at hnot
    cases hnot

/-- What a call read from a ledger is what the ledger held. -/
theorem getPrepared_entry {before after : List LogEntry} {e : LogEntry} {key : List Char}
    {record : Option PreparedTransactionRecord}
    (hlog : (ctx.system.run s moves).log = before ++ e :: after)
    (he : e.event = ⟨.loc (.getPrepared key), record⟩) :
    (ctx.system.replay s before).preparedTransactions.find key = record := by
  have hfound := (System.run_replay s moves).2 before e after hlog
  obtain ⟨i, now, event⟩ := e
  obtain rfl := he
  exact hfound

theorem containsUnresolved_entry {before after : List LogEntry} {e : LogEntry} {hash : String}
    (hlog : (ctx.system.run s moves).log = before ++ e :: after)
    (he : e.event = ⟨.loc (.containsUnresolved hash), false⟩) :
    (ctx.system.replay s before).unresolvedSubmissions.find hash = none := by
  have hfound := (System.run_replay s moves).2 before e after hlog
  obtain ⟨i, now, event⟩ := e
  obtain rfl := he
  exact Option.not_isSome_iff_eq_none.mp (Bool.eq_false_iff.mp hfound)

/-- A record found by a call that had pruned the ledger. -/
theorem record_retained {l : List LogEntry} {log : List LogEntry} {key : List Char}
    {r : PreparedTransactionRecord} (hlog : (ctx.system.run s moves).log = l ++ log)
    (hr : (ctx.system.replay s l).preparedTransactions.find key = some r) : LedgerFacts s l r := by
  have hordered : Logged (fun before e => ∀ e' ∈ before, e'.time ≤ e.time)
      (ctx.system.run s moves).log := System.run_ordered s moves
  rw [hlog] at hordered
  exact ledgerFacts hordered.of_append r (Table.mem_of_find hr)

/-- In a context that started with nothing prepared, a `performed` record is vouched for. -/
theorem record_vouched {l log : List LogEntry} {rawBytes : List UInt8}
    {r : PreparedTransactionRecord} (hlog : (ctx.system.run s moves).log = l ++ log)
    (hstart : s.preparedTransactions.rows = [])
    (hr : (ctx.system.replay s l).preparedTransactions.find (Hex.encode rawBytes) = some r)
    (hperformed : r.simulationStatus = .performed) :
    ∃ before e after, l = before ++ e :: after ∧ e.time = r.recordedAt ∧
      e.event.1 = .loc (.insertPrepared (Hex.encode rawBytes) .performed r.chainContext) ∧
      ∃ c p, (ctx.system.run s moves).calls[e.call]? = some (c, p) ∧ c.vouches ∧
        DryRunExecuted (Hex.encode rawBytes) (traceOf e.call before) := by
  have hkey : r.rawTxnBcsHex = Hex.encode rawBytes := Table.key_of_find hr
  rcases (record_retained hlog hr).origin with hold | ⟨before, e, after, rfl, hwritten, htime⟩
  · rw [hstart] at hold
    cases hold
  · rw [hkey, hperformed] at hwritten
    rw [List.append_assoc, List.cons_append] at hlog
    obtain ⟨c, p, hcall, hvouches, -, hexecuted⟩ := attestation_entry hlog hwritten
    exact ⟨before, e, after, rfl, htime, hwritten, c, p, hcall, hvouches, hexecuted rfl⟩

end Runs

/-! ## The gate -/

/-- Record `r` was written to the prepared ledger for these bytes, as `performed`, by a
preparation or simulation whose dry run of the same bytes had come back as executed. -/
def Vouched (w : NodeWorld) (log : List LogEntry) (rawBytes : List UInt8)
    (r : PreparedTransactionRecord) : Prop :=
  ∃ before e after, log = before ++ e :: after ∧ e.time = r.recordedAt ∧
    e.event.1 = .loc (.insertPrepared (Hex.encode rawBytes) .performed r.chainContext) ∧
    ∃ c p, w.calls[e.call]? = some (c, p) ∧ c.vouches ∧
      DryRunExecuted (Hex.encode rawBytes) (traceOf e.call before)

/-- All that holds when call `i`, a submission of `input`, is about to call the endpoint, the log
being `before`. The context started in state `s`. -/
structure GateOpen (ctx : AppContext) (s : Shared) (w : NodeWorld)
    (input : SubmitSignedTransactionInput) (i : ℕ) (before : List LogEntry)
    (signedTxn : SignedUserTransaction) (rawBytes : List UInt8) (nodeInfo chainInfo : Value)
    (current : ChainContext) (nowSeconds headTimestamp : UInt64) : Prop where
  mode : ctx.config.mode = .transaction
  decoded : ctx.decodeSignedTransaction input = .ok signedTxn
  encoded : ctx.vm.encodeRaw signedTxn.rawTxn = .ok rawBytes
  /-- The hash was looked up in the unresolved ledger, pruned by this call, and was not there. -/
  notUnresolved : ∃ l e l', before = l ++ e :: l' ∧ e.call = i ∧
    (∃ e₀ ∈ l, e₀.call = i ∧ ∃ retention, ctx.config.maxExpirationTtl.checkedAdd
      ctx.config.maxWatchTimeout = some retention ∧
      e₀.event.1 = .loc (.pruneUnresolved retention)) ∧
    (ctx.system.replay s l).unresolvedSubmissions.find (ctx.vm.transactionId signedTxn) = none
  /-- Both readings of the endpoint are this call's own. -/
  freshlyRead : (⟨.rpc .nodeInfo, .ok nodeInfo⟩ : Event) ∈ traceOf i before ∧
    (⟨.rpc .chainInfoUncached, .ok chainInfo⟩ : Event) ∈ traceOf i before
  chainId : extractU8 chainInfo ["chain_id"] = .ok current.chainId ∧
    ctx.config.expectedChainId = some current.chainId
  network : extractNetwork nodeInfo = .ok current.network ∧ ∃ pin,
    ctx.config.expectedNetwork = some pin ∧
      canonicalizeNetworkName pin = canonicalizeNetworkName current.network
  genesisHash : extractString chainInfo ["genesis_hash"] = .ok current.genesisHash ∧
    (ctx.config.requireGenesisHashMatch = true → ∀ pin,
      ctx.config.expectedGenesisHash = some pin → pin = current.genesisHash)
  signedChainId : signedTxn.rawTxn.chainId = input.preparedChainContext.chainId
  supplied : SameChain input.preparedChainContext current
  headLag : extractU64 nodeInfo ["now_seconds"] = .ok nowSeconds ∧
    extractU64 chainInfo ["head", "timestamp"] = .ok headTimestamp ∧
    nowSeconds.toNat - headTimestamp.toNat ≤ ctx.config.maxHeadLag.asSecs.toNat
  unexpired : nowSeconds < signedTxn.rawTxn.expirationTimestampSecs
  /-- What the prepared ledger, pruned by this call, held for these bytes. -/
  record : ∃ l e l', before = l ++ e :: l' ∧ e.call = i ∧
    (∀ r, (ctx.system.replay s l).preparedTransactions.find (Hex.encode rawBytes) = some r →
      SameChain r.chainContext input.preparedChainContext ∧ SameChain r.chainContext current) ∧
    (ctx.config.allowSubmitWithoutPriorSimulation = false →
      ∃ r, (ctx.system.replay s l).preparedTransactions.find (Hex.encode rawBytes) = some r ∧
        r.simulationStatus = .performed ∧
        (∃ e₀ ∈ l, e₀.call = i ∧ e₀.time ≤
          r.recordedAt + (ctx.config.maxExpirationTtl.nanos + ctx.config.maxWatchTimeout.nanos)) ∧
        (s.preparedTransactions.rows = [] → Vouched w l rawBytes r))

theorem submission_gate (ctx : AppContext) (hvalid : ctx.config.validate = .ok ()) (s : Shared)
    (moves : List NodeMove) {before after : List LogEntry} {i now : ℕ} {hex : List Char}
    {answer : Except SharedError String}
    (hlog : (ctx.system.run s moves).log =
      before ++ ⟨i, now, ⟨.rpc (.submitSignedTransaction hex), answer⟩⟩ :: after) :
    (∀ e ∈ before ++ after, e.call = i → e.event.1.isSubmission = false) ∧
    ∃ polls input p,
      (ctx.system.run s moves).calls[i]? = some (.submitSignedTransaction polls input, p) ∧
      hex = input.signedTxnBcsHex ∧
      ∃ signedTxn rawBytes nodeInfo chainInfo current nowSeconds headTimestamp,
        GateOpen ctx s (ctx.system.run s moves) input i before signedTxn rawBytes nodeInfo chainInfo
          current nowSeconds headTimestamp := by
  refine ⟨submission_unique hlog rfl, ?_⟩
  obtain ⟨polls, input, p, hcall, hhex, signedTxn, rawBytes, retention, record, nodeInfo,
    chainInfo, snapshot, hpassed⟩ := submission_entry hlog rfl
  obtain ⟨probing, observedAt, lookups, hread, -, -⟩ := hpassed.read
  obtain ⟨chainIdPin, networkPin, hchainIdPin, hnetworkPin⟩ :=
    RuntimeConfig.pinned_of_validate hvalid hpassed.mode
  obtain ⟨head, hhead, hlag⟩ := hpassed.facts.headLag
  -- the two ledgers, each at the moment it was looked at
  obtain ⟨l, e, l', hl, hlcall, hlevent, hltrace⟩ := exists_split_of_traceOf
    (show traceOf i before = [⟨.loc (.prunePrepared retention), ()⟩] ++
      ⟨.loc (.getPrepared (Hex.encode rawBytes)), record⟩ :: _ from hread)
  obtain ⟨m, f, m', hm, hmcall, hmevent, hmtrace⟩ := exists_split_of_traceOf
    (show traceOf i before = [⟨.loc (.prunePrepared retention), ()⟩,
      ⟨.loc (.getPrepared (Hex.encode rawBytes)), record⟩,
      ⟨.loc (.pruneUnresolved retention), ()⟩] ++
      ⟨.loc (.containsUnresolved (ctx.vm.transactionId signedTxn)), false⟩ :: _ from hread)
  have hinner : ∀ {l l' : List LogEntry} {e : LogEntry}, before = l ++ e :: l' →
      ∃ rest, (ctx.system.run s moves).log = l ++ e :: rest := by
    intro l l' e hl
    exact ⟨_, by rw [hlog, hl, List.append_assoc, List.cons_append]⟩
  obtain ⟨restl, hlogl⟩ := hinner hl
  obtain ⟨restm, hlogm⟩ := hinner hm
  have hfind := getPrepared_entry hlogl hlevent
  have hpruned : ∃ e₀ ∈ l, e₀.call = i ∧ e₀.event = ⟨.loc (.prunePrepared retention), ()⟩ :=
    mem_traceOf.mp (by rw [hltrace]; simp)
  refine ⟨polls, input, p, hcall, hhex, signedTxn, rawBytes, nodeInfo, chainInfo,
    snapshot.chainContext, snapshot.nowSeconds, head, ?_⟩
  exact {
    mode := hpassed.mode
    decoded := hpassed.decoded
    encoded := hpassed.encoded
    notUnresolved := by
      obtain ⟨e₀, he₀, hcall₀, hevent₀⟩ : ∃ e₀ ∈ m, e₀.call = i ∧
          e₀.event = ⟨.loc (.pruneUnresolved retention), ()⟩ :=
        mem_traceOf.mp (by rw [hmtrace]; simp)
      exact ⟨m, f, m', hm, hmcall, ⟨e₀, he₀, hcall₀, retention, hpassed.retained, by rw [hevent₀]⟩,
        containsUnresolved_entry hlogm hmevent⟩
    freshlyRead := by
      rw [hread]
      simp
    chainId := ⟨hpassed.facts.chainId, by
      rw [hchainIdPin, hpassed.facts.chainIdPinned chainIdPin hchainIdPin]⟩
    network := ⟨hpassed.facts.network, networkPin, hnetworkPin,
      hpassed.facts.networkPinned networkPin hnetworkPin⟩
    genesisHash := ⟨hpassed.facts.genesisHash, hpassed.facts.genesisPinned⟩
    signedChainId := hpassed.checked.signedChainId
    supplied := hpassed.checked.supplied
    headLag := ⟨hpassed.facts.nowSeconds, hhead, hlag⟩
    unexpired := hpassed.unexpired
    record := by
      refine ⟨l, e, l', hl, hlcall, fun r hr => ?_, fun hallow => ?_⟩
      · exact hpassed.checked.attested r (hfind.symm.trans hr)
      · obtain ⟨r, rfl, hperformed⟩ := hpassed.checked.simulated hallow
        obtain ⟨e₀, he₀, hcall₀, hevent₀⟩ := hpruned
        refine ⟨r, hfind, hperformed, ⟨e₀, he₀, hcall₀, ?_⟩, fun hstart =>
          record_vouched hlogl hstart hfind hperformed⟩
        rw [← Duration.checkedAdd_eq_some hpassed.retained]
        exact (record_retained hlogl hfind).retained e₀ he₀ retention (by rw [hevent₀]) }

/-- The sample transfer, simulated and then submitted, reaches the endpoint. -/
theorem Sample.submission_logged : ∃ before after now answer,
    (Sample.ctx.system.run Sample.start Sample.simulateThenSubmit).log =
      before ++ ⟨1, now, ⟨.rpc (.submitSignedTransaction Sample.signedHex), answer⟩⟩ :: after := by
  have hmem : (1, Op.rpc (.submitSignedTransaction Sample.signedHex)) ∈
      (Sample.ctx.system.run Sample.start Sample.simulateThenSubmit).log.map
        fun e => (e.call, e.event.1) := by decide +kernel
  obtain ⟨⟨i, now, ⟨o, answer⟩⟩, he, heq⟩ := List.mem_map.mp hmem
  obtain ⟨rfl, rfl⟩ := Prod.mk.inj heq
  obtain ⟨before, after, hlog⟩ := List.append_of_mem he
  exact ⟨before, after, now, answer, hlog⟩

theorem submission_gate_of_simulated : Sample.config.validate = .ok () ∧
    ∃ before after now answer,
      (Sample.ctx.system.run Sample.start Sample.simulateThenSubmit).log =
        before ++ ⟨1, now, ⟨.rpc (.submitSignedTransaction Sample.signedHex), answer⟩⟩ :: after ∧
      ∃ input signedTxn rawBytes nodeInfo chainInfo current nowSeconds headTimestamp,
        GateOpen Sample.ctx Sample.start
          (Sample.ctx.system.run Sample.start Sample.simulateThenSubmit) input 1 before signedTxn
          rawBytes nodeInfo chainInfo current nowSeconds headTimestamp := by
  have hvalid : Sample.config.validate = .ok () := by decide +kernel
  obtain ⟨before, after, now, answer, hlog⟩ := Sample.submission_logged
  obtain ⟨-, polls, input, p, -, -, hopen⟩ :=
    submission_gate Sample.ctx hvalid Sample.start Sample.simulateThenSubmit hlog
  exact ⟨hvalid, before, after, now, answer, hlog, input, hopen⟩

/-- The endpoint does not name its network as the configuration does. -/
def Sample.otherSpelling : Event → Bool
  | ⟨.rpc .nodeInfo, .ok nodeInfo⟩ => (extractNetwork nodeInfo).toOption != Sample.config.expectedNetwork
  | _ => true

/-- The pin says `Main`, the endpoint `main`; the transaction is handed over all the same. -/
theorem pin_spelled_differently : Sample.config.validate = .ok () ∧
    ∃ before after now answer,
      (Sample.ctx.system.run Sample.start Sample.simulateThenSubmit).log =
        before ++ ⟨1, now, ⟨.rpc (.submitSignedTransaction Sample.signedHex), answer⟩⟩ :: after ∧
      ∀ nodeInfo, (⟨.rpc .nodeInfo, .ok nodeInfo⟩ : Event) ∈ traceOf 1 before →
        (extractNetwork nodeInfo).toOption ≠ Sample.config.expectedNetwork := by
  have hread : ∀ e ∈ (Sample.ctx.system.run Sample.start Sample.simulateThenSubmit).log,
      Sample.otherSpelling e.event = true := by decide +kernel
  obtain ⟨before, after, now, answer, hlog⟩ := Sample.submission_logged
  refine ⟨by decide +kernel, before, after, now, answer, hlog, fun nodeInfo hmem => ?_⟩
  obtain ⟨e, he, -, hevent⟩ := mem_traceOf.mp hmem
  have hne := hread e (by rw [hlog]; exact List.mem_append_left _ he)
  rw [hevent] at hne
  exact bne_iff_ne.mp hne

end StarcoinMcp.Node
