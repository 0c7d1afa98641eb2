import StarcoinMcp.Node.Calls

/-! What each part of a tool call asks for and leaves behind: one rule per function of
the context, in the logic of `Prog.Meets`. The rules of the callers use these and never
look inside. -/

namespace StarcoinMcp.Node

open Prog

/-- The call that hands a signed transaction to the endpoint. -/
def Op.isSubmission : Op → Bool
  | .rpc (.submitSignedTransaction _) => true
  | _ => false

/-- The write that vouches for a raw transaction. -/
def Op.isAttestation : Op → Bool
  | .loc (.insertPrepared _ _ _) => true
  | _ => false

def Op.quiet (o : Op) : Bool := !o.isSubmission && !o.isAttestation

/-- Watching a transaction also leaves its sender's account alone. -/
def Op.watching : Op → Bool
  | .rpc (.nextSequenceNumber _) | .rpc (.getAccountState _) => false
  | o => o.quiet

theorem Op.quiet_of_watching {o : Op} (h : o.watching) : o.quiet := by
  cases o with
  | rpc o => cases o <;> first | rfl | cases h
  | clock o => exact h
  | loc o => exact h

/-- A question to the endpoint or the clock; it changes nothing in the context. -/
def Op.inquiry : Op → Bool
  | .rpc (.submitSignedTransaction _) | .loc _ => false
  | _ => true

theorem Op.quiet_of_inquiry {o : Op} (h : o.inquiry) : o.quiet := by
  cases o with
  | rpc o => cases o <;> first | rfl | cases h
  | clock o => rfl
  | loc o => cases h

/-- An inquiry that a watch makes as well. -/
def Op.reading (o : Op) : Bool := o.inquiry && o.watching

theorem Op.inquiry_of_reading {o : Op} (h : o.reading) : o.inquiry := (Bool.and_eq_true_iff.mp h).1

theorem Op.watching_of_reading {o : Op} (h : o.reading) : o.watching :=
  (Bool.and_eq_true_iff.mp h).2

/-- The operations of a capability check. -/
def Op.aboutProbe : Op → Bool
  | .rpc (.probe _) | .loc .readTransactionProbe | .loc (.writeTransactionProbe _) => true
  | _ => false

theorem Op.quiet_of_aboutProbe {o : Op} (h : o.aboutProbe) : o.quiet := by
  cases o with
  | rpc o => cases o <;> first | rfl | cases h
  | clock o => cases h
  | loc o => cases o <;> first | rfl | cases h

theorem of_canonicalHexPayload {input hex : List Char} (h : canonicalHexPayload input = .ok hex) :
    ∃ bytes, decodeHexBytes input = .ok bytes ∧ hex = Hex.encode bytes := by
  unfold canonicalHexPayload at h
  cases hbytes : decodeHexBytes input with
  | ok bytes =>
    rw [hbytes] at h
    cases h
    exact ⟨bytes, rfl, rfl⟩
  | error e =>
    rw [hbytes] at h
    cases h

theorem of_encodeHexBcs {vm : Vm2} {rawTxn : RawUserTransaction} {hex : List Char}
    (h : encodeHexBcs vm rawTxn = .ok hex) :
    ∃ bytes, vm.encodeRaw rawTxn = .ok bytes ∧ hex = Hex.encode bytes := by
  unfold encodeHexBcs at h
  cases hraw : vm.encodeRaw rawTxn with
  | ok bytes =>
    rw [hraw] at h
    exact ⟨bytes, rfl, (Except.ok.inj h).symm⟩
  | error e =>
    rw [hraw] at h
    cases h

namespace AppContext

variable {ctx : AppContext} {G : List Event → Op → Prop} {t : List Event}

theorem meets_retention : Meets G (fun t' r => t' = t ∧ ∃ retention,
    ctx.config.maxExpirationTtl.checkedAdd ctx.config.maxWatchTimeout = some retention ∧
      r = .ok retention) t ctx.retention := by
  unfold retention
  split
  · next retention h => exact ⟨rfl, retention, h, rfl⟩
  · trivial

theorem meets_loadPreparedTransactionRecord (key : List Char) :
    Meets (fun _ o => o.quiet) (fun t' r => ∃ retention record,
      ctx.config.maxExpirationTtl.checkedAdd ctx.config.maxWatchTimeout = some retention ∧
      t' = t ++ [⟨.loc (.prunePrepared retention), ()⟩, ⟨.loc (.getPrepared key), record⟩] ∧
      r = .ok record) t (ctx.loadPreparedTransactionRecord key) := by
  unfold loadPreparedTransactionRecord prunePreparedTransactions loc
  rw [meets_bind, meets_bind]
  refine meets_retention.imp_post ?_
  rintro d r ⟨hd, retention, hretention, rfl⟩
  refine ⟨rfl, fun _ => ⟨rfl, fun record => ⟨retention, record, hretention, ?_, rfl⟩⟩⟩
  rw [hd]
  simp

theorem meets_hasUnresolvedSubmission (hash : String) :
    Meets (fun _ o => o.quiet) (fun t' r => ∃ retention found,
      ctx.config.maxExpirationTtl.checkedAdd ctx.config.maxWatchTimeout = some retention ∧
      t' = t ++ [⟨.loc (.pruneUnresolved retention), ()⟩,
        ⟨.loc (.containsUnresolved hash), found⟩] ∧
      r = .ok found) t (ctx.hasUnresolvedSubmission hash) := by
  unfold hasUnresolvedSubmission pruneUnresolvedSubmissions loc
  rw [meets_bind, meets_bind]
  refine meets_retention.imp_post ?_
  rintro d r ⟨hd, retention, hretention, rfl⟩
  refine ⟨rfl, fun _ => ⟨rfl, fun found => ⟨retention, found, hretention, ?_, rfl⟩⟩⟩
  rw [hd]
  simp

/-- The record is written last, after the ledger was pruned. -/
theorem meets_recordPreparedTransaction {key : List Char} {chainContext : ChainContext}
    {status : SimulationStatus} (hquiet : ∀ t o, o.quiet → G t o)
    (hinsert : ∀ d, G (t ++ d) (.loc (.insertPrepared key status chainContext))) :
    Meets G (fun _ _ => True) t (ctx.recordPreparedTransaction key chainContext status) := by
  unfold recordPreparedTransaction prunePreparedTransactions loc
  rw [meets_bind, meets_bind]
  refine meets_retention.imp_post ?_
  rintro d r ⟨hd, retention, -, rfl⟩
  refine ⟨hquiet _ _ rfl, fun _ => ⟨?_, fun _ => trivial⟩⟩
  rw [hd]
  exact hinsert _

theorem asks_refreshTransactionProbe : Asks Op.aboutProbe refreshTransactionProbe := by
  unfold refreshTransactionProbe rpc loc
  refine (asks_ask rfl).bind fun answer => ?_
  cases answer with
  | none => exact asks_throw
  | some answer => exact asks_lift.bind fun _ => (asks_ask rfl).bind fun _ => asks_lift

theorem asks_ensureTransactionCapabilitiesCurrent :
    Asks Op.aboutProbe ctx.ensureTransactionCapabilitiesCurrent := by
  unfold ensureTransactionCapabilitiesCurrent loc
  refine asks_ite asks_pure ((asks_ask rfl).bind fun cached => ?_)
  cases cached with
  | none => exact asks_refreshTransactionProbe
  | some cached => exact asks_ite asks_lift asks_refreshTransactionProbe

theorem meets_ensureTransactionCapabilitiesCurrent :
    Meets (fun _ o => o.aboutProbe) (fun t' _ => ∃ d, t' = t ++ d ∧ ∀ e ∈ d, e.1.aboutProbe) t
      ctx.ensureTransactionCapabilitiesCurrent := by
  have h : Meets (fun _ o => o.aboutProbe) (fun _ _ => True) t
      ctx.ensureTransactionCapabilitiesCurrent :=
    asks_ensureTransactionCapabilitiesCurrent.meets fun _ _ h => h
  exact h.extends.imp_post fun _ _ h => h.2

/-- A snapshot is read from the endpoint there and then, and passed its checks. -/
theorem meets_loadTransactionEndpointSnapshot :
    Meets (fun _ o => o.quiet) (fun t' r => ∀ snapshot, r = .ok snapshot →
      ∃ nodeInfo chainInfo observedAt,
        t' = t ++ [⟨.rpc .nodeInfo, .ok nodeInfo⟩, ⟨.rpc .chainInfoUncached, .ok chainInfo⟩,
          ⟨.clock .rfc3339Now, observedAt⟩] ∧
        ctx.checkSnapshot nodeInfo chainInfo = .ok snapshot.nowSeconds ∧
        extractChainContext nodeInfo chainInfo observedAt = .ok snapshot.chainContext)
      t ctx.loadTransactionEndpointSnapshot := by
  unfold loadTransactionEndpointSnapshot rpc clock
  rw [meets_bind]
  refine ⟨rfl, fun nodeInfo => ?_⟩
  cases nodeInfo with
  | error e => exact fun _ h => nomatch h
  | ok nodeInfo =>
    refine ⟨rfl, fun chainInfo => ?_⟩
    cases chainInfo with
    | error e => exact fun _ h => nomatch h
    | ok chainInfo =>
      show Meets _ _ _ (lift (ctx.checkSnapshot nodeInfo chainInfo) >>= _)
      cases hcheck : ctx.checkSnapshot nodeInfo chainInfo with
      | error e => exact fun _ h => nomatch h
      | ok nowSeconds =>
        refine ⟨rfl, fun observedAt => ?_⟩
        show Meets _ _ _ (lift (extractChainContext nodeInfo chainInfo observedAt) >>= _)
        cases hcontext : extractChainContext nodeInfo chainInfo observedAt with
        | error e => exact fun _ h => nomatch h
        | ok chainContext =>
          rintro snapshot h
          obtain rfl := Except.ok.inj h
          exact ⟨nodeInfo, chainInfo, observedAt, by simp, hcheck, hcontext⟩

theorem asks_loadTransactionEndpointSnapshot :
    Asks Op.reading ctx.loadTransactionEndpointSnapshot := by
  unfold loadTransactionEndpointSnapshot rpc clock
  exact (asks_ask rfl).bind fun _ => asks_lift.bind fun _ => (asks_ask rfl).bind fun _ =>
    asks_lift.bind fun _ => asks_lift.bind fun _ => (asks_ask rfl).bind fun _ =>
    asks_lift.bind fun _ => asks_pure

/-! ## Watching -/

theorem asks_retention {A : Op → Bool} : Asks A ctx.retention := by
  unfold retention
  split
  · exact asks_pure
  · trivial

theorem asks_getTransaction (input : GetTransactionInput) :
    Asks Op.reading (ctx.getTransaction input) := by
  unfold getTransaction rpc
  refine asks_lift.bind fun _ => (asks_ask rfl).bind fun _ => asks_lift.bind fun _ => ?_
  refine asks_ite ((asks_ask rfl).bind fun _ => asks_lift.bind fun info => ?_) ?_
  · exact asks_ite ((asks_ask rfl).bind fun _ => asks_lift.bind fun _ => asks_pure) asks_pure
  · exact asks_ite ((asks_ask rfl).bind fun _ => asks_lift.bind fun _ => asks_pure) asks_pure

theorem asks_watchPoll (txnHash : String) : Asks Op.reading (ctx.watchPoll txnHash) := by
  unfold watchPoll
  refine (asks_getTransaction _).bind fun _ => asks_ite ?_ asks_pure
  exact asks_loadTransactionEndpointSnapshot.bind fun _ => asks_lift.bind fun _ => asks_pure

/-- The operations of a watch: questions, and what it does to the ledger and to the permits. -/
structure CoversWatch (A : Op → Bool) : Prop where
  reading : ∀ o, Op.reading o → A o
  clear : ∀ hash, A (.loc (.removeUnresolved hash))
  permit : A (.loc .tryWatchPermit)
  drop : A (.loc .dropWatchPermit)

section Watch

variable {A : Op → Bool}

theorem asks_watchLoop_of (hA : CoversWatch A) (plan : WatchPlan) (polls : ℕ) :
    ∀ last, Asks A (ctx.watchLoop plan polls last) := by
  induction polls with
  | zero => exact fun _ => trivial
  | succ polls ih =>
    have hrest : ∀ current last, Asks A (if plan.satisfied current then
        pure (plan.output current)
      else do
        let now ← clock .unixTimestamp
        if plan.deadline ≤ now then pure (plan.output last)
        else do
          clock (.sleep plan.effectivePollIntervalSeconds)
          ctx.watchLoop plan polls last) := fun current last =>
      asks_ite asks_pure ((asks_ask (hA.reading _ rfl)).bind fun _ =>
        asks_ite asks_pure ((asks_ask (hA.reading _ rfl)).bind fun _ => ih last))
    intro last
    have hpoll : Asks A (ctx.watchPoll plan.txnHash) := (asks_watchPoll _).imp hA.reading
    refine hpoll.bind fun current => asks_ite ?_ (hrest current last)
    exact (asks_ask (hA.clear _)).bind fun _ => hrest current current

theorem asks_watchTransaction_of (hA : CoversWatch A) (polls : ℕ) (input : WatchTransactionInput) :
    Asks A (ctx.watchTransaction polls input) := by
  have hbody : Asks A (ctx.watchBody polls input) :=
    (asks_ask (hA.reading _ rfl)).bind fun _ => asks_watchLoop_of hA _ polls _
  unfold watchTransaction tryWatchPermit loc
  refine asks_lift.bind fun _ => Asks.bind ?_ fun _ => hbody.attempt.bind fun _ =>
    (asks_ask hA.drop).bind fun _ => asks_lift
  exact (asks_ask hA.permit).bind fun _ => asks_ite asks_throw asks_pure

theorem asks_watchAccepted_of (hA : CoversWatch A) (polls : ℕ)
    (input : SubmitSignedTransactionInput)
    (txnHash : String) (timeout : Option UInt64) :
    Asks A (ctx.watchAccepted polls input txnHash timeout) := by
  unfold watchAccepted
  refine asks_ite ((asks_watchTransaction_of hA _ _).attempt.bind fun outcome => ?_) asks_pure
  cases outcome <;> exact asks_pure

end Watch

theorem coversWatch_watching : CoversWatch Op.watching :=
  ⟨fun _ => Op.watching_of_reading, fun _ => rfl, rfl, rfl⟩

theorem asks_watchTransaction (polls : ℕ) (input : WatchTransactionInput) :
    Asks Op.watching (ctx.watchTransaction polls input) :=
  asks_watchTransaction_of coversWatch_watching polls input

/-! ## Choosing the sequence number -/

theorem asks_resolveSequenceNumber (address : String) (caller : Option UInt64) :
    Asks Op.inquiry (resolveSequenceNumber address caller) := by
  unfold resolveSequenceNumber rpc
  cases caller with
  | some n => exact asks_pure
  | none =>
    exact (asks_ask rfl).bind fun _ => asks_lift.bind fun _ => (asks_ask rfl).bind fun _ =>
      asks_lift.bind fun _ => asks_lift

theorem asks_resolveGasPrice (caller : Option UInt64) :
    Asks Op.inquiry (resolveGasPrice caller) := by
  unfold resolveGasPrice rpc
  cases caller with
  | some n => exact asks_pure
  | none =>
    refine (asks_ask rfl).bind fun answer => ?_
    cases answer <;> exact asks_pure

/-! ## Preparing and simulating -/

/-- The operations of a preparation, up to the record that it writes. -/
structure CoversPreparing (ctx : AppContext) (A : Op → Bool) : Prop where
  inquiry : ∀ o, Op.inquiry o → A o
  probe : ∀ o, Op.aboutProbe o → A o
  prune : ∀ retention, ctx.config.maxExpirationTtl.checkedAdd ctx.config.maxWatchTimeout =
    some retention →
    A (.loc (.prunePrepared retention))
  permit : A (.loc .tryExpensivePermit)
  drop : A (.loc .dropExpensivePermit)

section Preparing

variable {A : Op → Bool}

theorem asks_prunePreparedTransactions_of
    (hprune : ∀ retention, ctx.config.maxExpirationTtl.checkedAdd ctx.config.maxWatchTimeout =
      some retention →
      A (.loc (.prunePrepared retention))) : Asks A ctx.prunePreparedTransactions := by
  unfold prunePreparedTransactions retention
  split
  next retention h => exact asks_ask (hprune retention h)
  next => trivial

theorem asks_recordPreparedTransaction_of (hA : CoversPreparing ctx A) {key : List Char}
    {status : SimulationStatus} {chainContext : ChainContext}
    (hinsert : A (.loc (.insertPrepared key status chainContext))) :
    Asks A (ctx.recordPreparedTransaction key chainContext status) :=
  (asks_prunePreparedTransactions_of hA.prune).bind fun _ => asks_ask hinsert

/-- What follows a dry run knows from the status whether there was one. -/
theorem asks_simulatePrepared_bind {α : Type} (hA : CoversPreparing ctx A) (key : List Char)
    (publicKey : Option String)
    {f : SimulationStatus × Option SimulationResult × NextAction → Call α}
    (hf : ∀ status simulation next, (status = .performed ↔ publicKey.isSome = true) →
      Asks A (f (status, simulation, next))) : Asks A (simulatePrepared key publicKey >>= f) := by
  cases publicKey with
  | none => exact hf _ _ _ ⟨nofun, nofun⟩
  | some publicKey =>
    unfold simulatePrepared
    simp only [bind_bind]
    refine (asks_ask (hA.inquiry _ rfl)).bind fun answer => ?_
    apply asks_lift_bind
    intro dryRun _
    apply asks_lift_bind
    intro normalized _
    exact hf _ _ _ ⟨fun _ => rfl, fun _ => rfl⟩

theorem asks_prepareTransaction_of (hA : CoversPreparing ctx A) (sender : AccountAddress)
    {options : PrepareOptions}
    (hinsert : ∀ key status chainContext, (status = .performed ↔
      options.senderPublicKey.isSome = true) →
      A (.loc (.insertPrepared key status chainContext)))
    (payload : TransactionPayload) (kind : TransactionKind) (summary : Value)
    (details : Option PreparedTransferDetails) :
    Asks A (ctx.prepareTransaction sender options payload kind summary details) := by
  have hprobe : Asks A ctx.ensureTransactionCapabilitiesCurrent :=
    asks_ensureTransactionCapabilitiesCurrent.imp hA.probe
  have hsnapshot : Asks A ctx.loadTransactionEndpointSnapshot :=
    asks_loadTransactionEndpointSnapshot.imp fun o h => hA.inquiry o (Op.inquiry_of_reading h)
  have hsequence : ∀ address caller, Asks A (resolveSequenceNumber address caller) :=
    fun _ _ => (asks_resolveSequenceNumber _ _).imp hA.inquiry
  have hgas : ∀ caller, Asks A (resolveGasPrice caller) :=
    fun _ => (asks_resolveGasPrice _).imp hA.inquiry
  unfold prepareTransaction clock
  refine asks_lift.bind fun _ => hprobe.bind fun _ => hsnapshot.bind fun snapshot => ?_
  refine (hsequence _ _).bind fun sequence => (hgas _).bind fun gas => ?_
  iterate 4 refine asks_lift.bind fun _ => ?_
  refine (asks_ask (hA.inquiry _ rfl)).bind fun preparedAt => ?_
  refine asks_simulatePrepared_bind hA _ _ fun status simulation next hstatus => ?_
  exact (asks_recordPreparedTransaction_of hA (hinsert _ _ _ hstatus)).bind fun _ => asks_pure

theorem asks_prepareTransfer_of (hA : CoversPreparing ctx A) {input : PrepareTransferInput}
    (hinsert : ∀ key status chainContext, (status = .performed ↔
      input.senderPublicKey.isSome = true) →
      A (.loc (.insertPrepared key status chainContext))) : Asks A (ctx.prepareTransfer input) := by
  unfold prepareTransfer
  iterate 5 refine asks_lift.bind fun _ => ?_
  exact asks_prepareTransaction_of hA _ hinsert _ _ _ _

theorem asks_prepareContractCall_of (hA : CoversPreparing ctx A) {input : PrepareContractCallInput}
    (hinsert : ∀ key status chainContext, (status = .performed ↔
      input.senderPublicKey.isSome = true) →
      A (.loc (.insertPrepared key status chainContext))) : Asks A
        (ctx.prepareContractCall input) := by
  unfold prepareContractCall
  iterate 2 refine asks_lift.bind fun _ => ?_
  exact asks_prepareTransaction_of hA _ hinsert _ _ _ _

theorem asks_preparePublishPackage_of (hA : CoversPreparing ctx A)
    {input : PreparePublishPackageInput}
    (hinsert : ∀ key status chainContext, (status = .performed ↔
      input.senderPublicKey.isSome = true) →
      A (.loc (.insertPrepared key status chainContext))) : Asks A
        (ctx.preparePublishPackage input) := by
  have hbody : Asks A (ctx.preparePublishPackageBody input) := by
    unfold preparePublishPackageBody
    dsimp only
    refine asks_ite asks_throw ?_
    iterate 3 refine asks_lift.bind fun _ => ?_
    exact asks_prepareTransaction_of hA _ hinsert _ _ _ _
  unfold preparePublishPackage tryExpensivePermit loc
  refine Asks.bind ?_ fun _ => hbody.attempt.bind fun _ =>
    (asks_ask hA.drop).bind fun _ => asks_lift
  exact (asks_ask hA.permit).bind fun _ => asks_ite asks_throw asks_pure

theorem asks_simulateRawTransaction_of (hA : CoversPreparing ctx A)
    (input : SimulateRawTransactionInput)
    (hinsert : ∀ key chainContext, A (.loc (.insertPrepared key .performed chainContext))) :
    Asks A (ctx.simulateRawTransaction input) := by
  have hprobe : Asks A ctx.ensureTransactionCapabilitiesCurrent :=
    asks_ensureTransactionCapabilitiesCurrent.imp hA.probe
  have hsnapshot : Asks A ctx.loadTransactionEndpointSnapshot :=
    asks_loadTransactionEndpointSnapshot.imp fun o h => hA.inquiry o (Op.inquiry_of_reading h)
  unfold simulateRawTransaction rpc
  refine hprobe.bind fun _ => hsnapshot.bind fun snapshot => asks_lift.bind fun _ => ?_
  refine (asks_ask (hA.inquiry _ rfl)).bind fun _ => asks_lift.bind fun _ =>
    asks_lift.bind fun _ => ?_
  exact (asks_recordPreparedTransaction_of hA (hinsert _ _)).bind fun _ => asks_pure

end Preparing

/-! ## Submitting -/

theorem asks_recordUnresolvedSubmission (hash : String) :
    Asks Op.watching (ctx.recordUnresolvedSubmission hash) := by
  unfold recordUnresolvedSubmission pruneUnresolvedSubmissions loc
  refine Asks.bind ?_ fun _ => asks_ask rfl
  exact asks_retention.bind fun _ => asks_ask rfl

theorem asks_signedTransactionSequenceIsStale (signedTxn : SignedUserTransaction) :
    Asks Op.inquiry (ctx.signedTransactionSequenceIsStale signedTxn) :=
  (asks_resolveSequenceNumber _ _).attempt.bind fun _ => asks_lift

/-- The submission call comes first, and nothing like it after. -/
theorem meets_sendSignedTransaction {polls : ℕ} {input : SubmitSignedTransactionInput}
    {txnHash : String} {status : Option SimulationStatus} {timeout : Option UInt64}
    (hquiet : ∀ t o, o.quiet → G t o)
    (hsend : G t (.rpc (.submitSignedTransaction input.signedTxnBcsHex))) :
    Meets G (fun _ _ => True) t
      (ctx.sendSignedTransaction polls input txnHash status timeout) := by
  have hwatching : ∀ t o, Op.watching o → G t o := fun t o h => hquiet t o (Op.quiet_of_watching h)
  unfold sendSignedTransaction rpc
  refine meets_ask_bind hsend fun answer => ?_
  cases answer with
  | ok hash =>
    exact ((asks_watchAccepted_of coversWatch_watching _ _ _ _).bind
      fun _ => asks_pure).meets hwatching
  | error e =>
    refine (asks_ite ?_ (asks_ite asks_pure asks_throw)).meets hwatching
    exact (asks_recordUnresolvedSubmission _).bind fun _ => asks_pure

/-! ## Vouching for a raw transaction -/

end AppContext

/-- A dry run of this raw transaction came back as executed. -/
def DryRunExecuted (rawTxnBcsHex : List Char) (t : List Event) : Prop :=
  ∃ publicKey simulation,
    (⟨.rpc (.dryRunRaw rawTxnBcsHex publicKey), .ok simulation⟩ : Event) ∈ t ∧
      (normalizeSimulation simulation).executed

theorem DryRunExecuted.append {key : List Char} {t : List Event} (h : DryRunExecuted key t)
    (d : List Event) : DryRunExecuted key (t ++ d) := by
  obtain ⟨publicKey, simulation, hmem, hexecuted⟩ := h
  exact ⟨publicKey, simulation, List.mem_append_left d hmem, hexecuted⟩

/-- What a preparation or a simulation may ask for: nothing is submitted, records are kept under
the hexadecimal form of the bytes, and `performed` is written down only after a dry run said so. -/
def Vouching (t : List Event) : Op → Prop
  | .rpc (.submitSignedTransaction _) => False
  | .loc (.insertPrepared key status _) =>
    (∃ rawBytes, key = Hex.encode rawBytes) ∧ (status = .performed → DryRunExecuted key t)
  | _ => True

theorem vouching_of_quiet {t : List Event} {o : Op} (h : o.quiet) : Vouching t o := by
  cases o with
  | rpc o => cases o <;> trivial
  | clock o => trivial
  | loc o => cases o <;> trivial

theorem executed_of_ensureExecuted {simulation : Value} {result : SimulationResult}
    (h : ensureExecuted simulation = .ok result) : (normalizeSimulation simulation).executed := by
  unfold ensureExecuted at h
  split_ifs at h with hexecuted
  · exact hexecuted

namespace AppContext

variable {ctx : AppContext} {t : List Event}

theorem Asks.vouching {α : Type} {A : Op → Bool} {p : Call α} (h : Asks A p)
    (hA : ∀ o, A o → o.quiet) : Meets Vouching (fun _ _ => True) t p :=
  h.meets fun _ o ho => vouching_of_quiet (hA o ho)

theorem meets_simulatePrepared (key : List Char) (publicKey : Option String) :
    Meets Vouching (fun t' r => ∀ status simulation next, r = .ok (status, simulation, next) →
      status = .performed → DryRunExecuted key t') t (simulatePrepared key publicKey) := by
  cases publicKey with
  | none =>
    rintro status simulation next h rfl
    cases h
  | some publicKey =>
    apply meets_ask_bind
    · trivial
    intro answer
    apply meets_lift_bind
    case herr =>
      intro e _ status simulation next h
      cases h
    rintro dryRun rfl
    apply meets_lift_bind
    case herr =>
      intro e _ status simulation next h
      cases h
    intro normalized hrun status simulation next _ _
    exact ⟨publicKey, dryRun, by simp, executed_of_ensureExecuted hrun⟩

theorem meets_prepareTransaction (sender : AccountAddress) (options : PrepareOptions)
    (payload : TransactionPayload) (kind : TransactionKind) (summary : Value)
    (details : Option PreparedTransferDetails) :
    Meets Vouching (fun _ _ => True) t
      (ctx.prepareTransaction sender options payload kind summary details) := by
  unfold prepareTransaction clock
  refine meets_lift_bind (fun _ _ => ?_) fun _ _ => trivial
  refine (Asks.vouching asks_ensureTransactionCapabilitiesCurrent
    fun _ => Op.quiet_of_aboutProbe).bind (fun _ _ _ => ?_) fun _ _ _ => trivial
  refine (Asks.vouching asks_loadTransactionEndpointSnapshot fun _ h =>
    Op.quiet_of_inquiry (Op.inquiry_of_reading h)).bind
      (fun _ snapshot _ => ?_) fun _ _ _ => trivial
  refine (Asks.vouching (asks_resolveSequenceNumber _ _) fun _ => Op.quiet_of_inquiry).bind
    (fun _ sequence _ => ?_) fun _ _ _ => trivial
  refine (Asks.vouching (asks_resolveGasPrice _) fun _ => Op.quiet_of_inquiry).bind
    (fun _ gas _ => ?_) fun _ _ _ => trivial
  refine meets_lift_bind (fun expiration _ => ?_) fun _ _ => trivial
  refine meets_lift_bind (fun gasToken _ => ?_) fun _ _ => trivial
  refine meets_lift_bind (fun rawTxnBcsHex hraw => ?_) fun _ _ => trivial
  obtain ⟨rawBytes, -, hkey⟩ := of_encodeHexBcs hraw
  refine meets_lift_bind (fun view _ => ?_) fun _ _ => trivial
  refine (Asks.vouching (asks_ask rfl) fun _ => Op.quiet_of_inquiry).bind
    (fun _ preparedAt _ => ?_) fun _ _ _ => trivial
  refine (meets_simulatePrepared rawTxnBcsHex options.senderPublicKey).bind ?_ fun _ _ _ => trivial
  rintro d ⟨status, simulation, next⟩ hrun
  refine Meets.bind (meets_recordPreparedTransaction (fun _ _ => vouching_of_quiet) fun d' => ?_)
    (fun _ _ _ => trivial) fun _ _ _ => trivial
  exact ⟨⟨rawBytes, hkey⟩, fun hperformed => (hrun status simulation next rfl hperformed).append d'⟩

theorem meets_preparePublishPackage (input : PreparePublishPackageInput) :
    Meets Vouching (fun _ _ => True) t (ctx.preparePublishPackage input) := by
  have hbody : ∀ t, Meets Vouching (fun _ _ => True) t (ctx.preparePublishPackageBody input) := by
    intro t
    unfold preparePublishPackageBody
    dsimp only
    split
    · exact Asks.vouching (A := Op.quiet) asks_throw fun _ h => h
    · refine meets_lift_bind (fun _ _ => ?_) fun _ _ => trivial
      refine meets_lift_bind (fun _ _ => ?_) fun _ _ => trivial
      refine meets_lift_bind (fun _ _ => ?_) fun _ _ => trivial
      exact meets_prepareTransaction _ _ _ _ _ _
  have hpermit : Asks Op.quiet tryExpensivePermit :=
    (asks_ask rfl).bind fun _ => asks_ite asks_throw asks_pure
  unfold preparePublishPackage loc
  refine (Asks.vouching hpermit fun _ h => h).bind (fun _ _ _ => ?_) fun _ _ _ => trivial
  refine Meets.bind (R := fun _ _ => True) (meets_attempt.mpr (hbody _)) (fun _ _ _ => ?_)
    fun _ _ _ => trivial
  exact Asks.vouching (A := Op.quiet) ((asks_ask rfl).bind fun _ => asks_lift) fun _ h => h

theorem meets_simulateRawTransaction (input : SimulateRawTransactionInput) :
    Meets Vouching (fun _ _ => True) t (ctx.simulateRawTransaction input) := by
  unfold simulateRawTransaction rpc
  refine (Asks.vouching asks_ensureTransactionCapabilitiesCurrent
    fun _ => Op.quiet_of_aboutProbe).bind (fun _ _ _ => ?_) fun _ _ _ => trivial
  refine (Asks.vouching asks_loadTransactionEndpointSnapshot fun _ h =>
    Op.quiet_of_inquiry (Op.inquiry_of_reading h)).bind
      (fun _ snapshot _ => ?_) fun _ _ _ => trivial
  refine meets_lift_bind (fun rawTxnBcsHex hraw => ?_) fun _ _ => trivial
  obtain ⟨rawBytes, -, hkey⟩ := of_canonicalHexPayload hraw
  refine meets_ask_bind trivial fun answer => ?_
  refine meets_lift_bind (fun simulation hanswer => ?_) fun _ _ => trivial
  refine meets_lift_bind (fun normalized hrun => ?_) fun _ _ => trivial
  refine Meets.bind (meets_recordPreparedTransaction (fun _ _ => vouching_of_quiet) fun d => ?_)
    (fun _ _ _ => trivial) fun _ _ _ => trivial
  refine ⟨⟨rawBytes, hkey⟩, fun _ => ?_⟩
  exact ⟨input.senderPublicKey, simulation, by simp [hanswer], executed_of_ensureExecuted hrun⟩

end AppContext

end StarcoinMcp.Node
