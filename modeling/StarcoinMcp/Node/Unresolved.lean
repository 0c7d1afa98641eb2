import StarcoinMcp.Node.Resign

/-! What becomes of a submission whose outcome is unknown. The hash stays in the unresolved
ledger until a watch that has seen the transaction removes it or until it is too old, and
while it is there every submission of that hash is turned back before the endpoint hears
of it, whatever other calls run beside it. -/

namespace StarcoinMcp.Node

open Prog

/-! ## Who touches the unresolved ledger -/

/-- Some lookup of the transaction came back with something. -/
def ObservedFound (hash : String) (t : List Event) : Prop :=
  (∃ decode transaction,
    (⟨.rpc (.getTransaction hash decode), .ok (some transaction)⟩ : Event) ∈ t) ∨
  ∃ info, (⟨.rpc (.getTransactionInfo hash), .ok (some info)⟩ : Event) ∈ t

theorem ObservedFound.append {hash : String} {t : List Event} (h : ObservedFound hash t)
    (d : List Event) : ObservedFound hash (t ++ d) := by
  rcases h with ⟨decode, transaction, hmem⟩ | ⟨info, hmem⟩
  · exact .inl ⟨decode, transaction, List.mem_append_left d hmem⟩
  · exact .inr ⟨info, List.mem_append_left d hmem⟩

/-- What a call that watches certain hashes may do to the ledger. -/
def OnLedger (ctx : AppContext) (watched : String → Prop) (t : List Event) : Op → Prop
  | .loc (.pruneUnresolved retention) =>
    ctx.config.maxExpirationTtl.checkedAdd ctx.config.maxWatchTimeout = some retention
  | .loc (.removeUnresolved hash) => watched hash ∧ ObservedFound hash t
  | _ => True

def Op.offLedger : Op → Bool
  | .loc (.pruneUnresolved _) | .loc (.removeUnresolved _) => false
  | _ => true

theorem Op.offLedger_of_inquiry {o : Op} (h : o.inquiry) : o.offLedger := by
  cases o with
  | rpc o => rfl
  | clock o => rfl
  | loc o => cases h

theorem Op.offLedger_of_aboutProbe {o : Op} (h : o.aboutProbe) : o.offLedger := by
  cases o with
  | rpc o => rfl
  | clock o => rfl
  | loc o => cases o <;> first | rfl | cases h

theorem onLedger_of_offLedger {ctx : AppContext} {watched : String → Prop} {t : List Event} {o : Op}
    (h : o.offLedger) : OnLedger ctx watched t o := by
  cases o with
  | rpc o => trivial
  | clock o => trivial
  | loc o => cases o <;> trivial

section Rules

variable {ctx : AppContext} {watched : String → Prop} {t : List Event}

theorem offLedger_meets {α : Type} {A : Op → Bool} {p : Call α} (h : Asks A p)
    (hA : ∀ o, A o → o.offLedger) : Meets (OnLedger ctx watched) (fun _ _ => True) t p :=
  h.meets fun _ o ho => onLedger_of_offLedger (hA o ho)

theorem coversPreparing_offLedger : AppContext.CoversPreparing ctx Op.offLedger :=
  ⟨fun _ => Op.offLedger_of_inquiry, fun _ => Op.offLedger_of_aboutProbe, fun _ _ => rfl, rfl, rfl⟩

/-! ## Watching -/

theorem meets_getTransaction (input : GetTransactionInput) :
    Meets (OnLedger ctx watched) (fun t' r => ∀ out, r = .ok out →
      out.statusSummary.found = true → ObservedFound input.txnHash t') t
        (ctx.getTransaction input) := by
  -- the events are looked up last and do not matter
  have hlast : ∀ (d : List Event) (transaction info : Option Value),
      (transaction.isSome = true ∨ info.isSome = true → ObservedFound input.txnHash (t ++ d)) →
      Meets (OnLedger ctx watched) (fun t' r => ∀ out, r = .ok out →
        out.statusSummary.found = true → ObservedFound input.txnHash t') (t ++ d) (do
          let events ←
            if input.includeEvents && ctx.startupProbe.supportsTransactionEventsByHash &&
                info.isSome then
              Prog.lift (← rpc (.getEventsByTxnHash input.txnHash input.decode))
            else pure []
          pure (⟨transaction, info, events, statusSummaryFromParts transaction info⟩ :
            GetTransactionOutput)) := by
    intro d transaction info hfound
    have hdone : ∀ (d' : List Event) (events : List Value) (out : GetTransactionOutput),
        (Except.ok ⟨transaction, info, events, statusSummaryFromParts transaction info⟩ :
          Except SharedError GetTransactionOutput) = .ok out →
        out.statusSummary.found = true → ObservedFound input.txnHash (t ++ d ++ d') := by
      intro d' events out hout hseen
      obtain rfl := Except.ok.inj hout
      exact (hfound (Bool.or_eq_true_iff.mp hseen)).append d'
    split
    · refine meets_ask_bind trivial fun answer => ?_
      cases answer with
      | error e => exact fun out hout => nomatch hout
      | ok events => exact hdone _ events
    · intro out hout
      have := hdone [] [] out hout
      rwa [List.append_nil] at this
  unfold AppContext.getTransaction
  refine meets_lift_bind (fun _ _ => ?_) fun _ _ _ h => nomatch h
  refine meets_ask_bind trivial fun transaction => ?_
  refine meets_lift_bind (fun transaction htransaction => ?_) fun _ _ _ h => nomatch h
  split
  · refine meets_ask_bind trivial fun info => ?_
    refine meets_lift_bind (fun info hinfo => ?_) fun _ _ _ h => nomatch h
    rw [List.append_assoc]
    refine hlast _ transaction info fun hseen => ?_
    rw [htransaction, hinfo]
    rcases hseen with hseen | hseen
    · obtain ⟨value, rfl⟩ := Option.isSome_iff_exists.mp hseen
      exact .inl ⟨input.decode, value, by simp⟩
    · obtain ⟨value, rfl⟩ := Option.isSome_iff_exists.mp hseen
      exact .inr ⟨value, by simp⟩
  · refine hlast _ transaction none fun hseen => ?_
    rw [htransaction]
    rcases hseen with hseen | hseen
    · obtain ⟨value, rfl⟩ := Option.isSome_iff_exists.mp hseen
      exact .inl ⟨input.decode, value, by simp⟩
    · cases hseen

/-- A poll that reports the transaction has the endpoint's word for it. -/
theorem meets_watchPoll (hash : String) :
    Meets (OnLedger ctx watched) (fun t' r => ∀ seen, r = .ok seen →
      seen.statusSummary.found = true → ObservedFound hash t') t (ctx.watchPoll hash) := by
  unfold AppContext.watchPoll
  refine (meets_getTransaction ⟨hash, true, true⟩).bind ?_ fun _ _ _ _ h => nomatch h
  intro d current hcurrent
  have hfound := hcurrent current rfl
  split
  · refine (offLedger_meets AppContext.asks_loadTransactionEndpointSnapshot fun _ h =>
      Op.offLedger_of_inquiry (Op.inquiry_of_reading h)).bind ?_ fun _ _ _ _ h => nomatch h
    intro d' snapshot _
    refine meets_lift_bind (fun depth _ => ?_) fun _ _ _ h => nomatch h
    intro seen hseen hseenFound
    obtain rfl := Except.ok.inj hseen
    exact (hfound hseenFound).append d'
  · intro seen hseen
    obtain rfl := Except.ok.inj hseen
    exact hfound

/-- Only what a poll has seen is taken off the ledger. -/
theorem meets_watchLoop {plan : AppContext.WatchPlan} (hwatched : watched plan.txnHash)
    (polls : ℕ) :
    ∀ {t : List Event} (last : AppContext.WatchObservation),
      Meets (OnLedger ctx watched) (fun _ _ => True) t (ctx.watchLoop plan polls last) := by
  induction polls with
  | zero => exact fun _ => trivial
  | succ polls ih =>
    have hrest : ∀ (t : List Event) (current last : AppContext.WatchObservation),
        Meets (OnLedger ctx watched) (fun _ _ => True) t (if plan.satisfied current then
          pure (plan.output current)
        else do
          let now ← clock .unixTimestamp
          if plan.deadline ≤ now then pure (plan.output last)
          else do
            clock (.sleep plan.effectivePollIntervalSeconds)
            ctx.watchLoop plan polls last) := by
      intro t current last
      split
      · trivial
      · refine meets_ask_bind trivial fun now => ?_
        split
        · trivial
        · exact meets_ask_bind trivial fun _ => ih last
    intro t last
    refine (meets_watchPoll plan.txnHash).bind (fun d current hcurrent => ?_) fun _ _ _ => trivial
    refine meets_ite (fun hfound => ?_) fun _ => hrest _ current last
    have hclear : OnLedger ctx watched (t ++ d) (.loc (.removeUnresolved plan.txnHash)) :=
      ⟨hwatched, hcurrent current rfl hfound⟩
    exact meets_ask_bind hclear fun _ => hrest _ current current

theorem meets_watchTransaction {input : WatchTransactionInput} (hwatched : watched input.txnHash)
    (polls : ℕ) : Meets (OnLedger ctx watched) (fun _ _ => True) t
    (ctx.watchTransaction polls input) := by
  have hpermit : Asks Op.offLedger AppContext.tryWatchPermit :=
    (asks_ask rfl).bind fun _ => asks_ite asks_throw asks_pure
  have hbody : ∀ t, Meets (OnLedger ctx watched) (fun _ _ => True) t (ctx.watchBody polls input) :=
    fun _ => meets_ask_bind trivial fun _ => meets_watchLoop hwatched polls _
  unfold AppContext.watchTransaction loc
  refine meets_lift_bind (fun _ _ => ?_) fun _ _ => trivial
  refine (offLedger_meets hpermit fun _ h => h).bind (fun _ _ _ => ?_) fun _ _ _ => trivial
  refine Meets.bind (R := fun _ _ => True) (meets_attempt.mpr (hbody _)) (fun _ outcome _ => ?_)
    fun _ _ _ => trivial
  exact offLedger_meets (A := Op.offLedger) ((asks_ask rfl).bind fun _ => asks_lift) fun _ h => h

/-! ## Submitting -/

/-- The last answer of a submission that came to nothing definite. -/
def EndsUnknown (t : List Event) (out : SubmitSignedTransactionOutput) : Prop :=
  ∃ d x, t = d ++ [x] ∧ (x = ⟨.loc (.insertUnresolved out.txnHash), ()⟩ ∨
    x = ⟨.loc (.containsUnresolved out.txnHash), true⟩)

theorem meets_sendSignedTransaction_ledger {polls : ℕ} {input : SubmitSignedTransactionInput}
    {hash : String} {status : Option SimulationStatus} {timeout : Option UInt64}
    (hwatched : input.blocking = true → watched hash) :
    Meets (OnLedger ctx watched) (fun t' r => ∀ out, r = .ok out → out.submissionState = .unknown →
      EndsUnknown t' out) t (ctx.sendSignedTransaction polls input hash status timeout) := by
  unfold AppContext.sendSignedTransaction
  refine meets_ask_bind trivial fun answer => ?_
  cases answer with
  | ok _ =>
    have hwatch : ∀ t, Meets (OnLedger ctx watched) (fun _ _ => True) t
        (ctx.watchAccepted polls input hash timeout) := by
      intro t
      unfold AppContext.watchAccepted
      refine meets_ite (fun hblocking => ?_) fun _ => trivial
      refine Meets.bind (R := fun _ _ => True)
        (meets_attempt.mpr (meets_watchTransaction (hwatched hblocking) polls))
        (fun _ outcome _ => ?_)
        fun _ _ _ => trivial
      cases outcome <;> trivial
    refine (hwatch _).bind (fun d watchResult _ => ?_) fun _ _ _ _ h => nomatch h
    intro out hout hunknown
    obtain rfl := Except.ok.inj hout
    cases hunknown
  | error e =>
    show Meets _ _ _ (if _ then _ else _)
    split
    · unfold AppContext.recordUnresolvedSubmission AppContext.pruneUnresolvedSubmissions loc
      rw [meets_bind, meets_bind, meets_bind]
      refine AppContext.meets_retention.imp_post ?_
      rintro d r ⟨hd, retention, hretention, rfl⟩
      refine ⟨hretention, fun _ => ⟨trivial, fun _ => ?_⟩⟩
      intro out hout _
      obtain rfl := Except.ok.inj hout
      exact ⟨_, _, rfl, .inl rfl⟩
    · split
      · intro out hout hunknown
        obtain rfl := Except.ok.inj hout
        cases hunknown
      · exact fun out hout => nomatch hout

theorem meets_submitResolved_ledger {polls : ℕ} {input : SubmitSignedTransactionInput}
    {signedTxn : SignedUserTransaction} {record : Option PreparedTransactionRecord}
    {timeout : Option UInt64} (hwatched : input.blocking = true →
      watched (ctx.vm.transactionId signedTxn)) :
    Meets (OnLedger ctx watched) (fun t' r => ∀ out, r = .ok out → out.submissionState = .unknown →
      EndsUnknown t' out) t (ctx.submitResolved polls input signedTxn record timeout) := by
  unfold AppContext.submitResolved
  refine (offLedger_meets AppContext.asks_ensureTransactionCapabilitiesCurrent fun _ =>
    Op.offLedger_of_aboutProbe).bind (fun _ _ _ => ?_) fun _ _ _ _ h => nomatch h
  refine (offLedger_meets AppContext.asks_loadTransactionEndpointSnapshot fun _ h =>
    Op.offLedger_of_inquiry (Op.inquiry_of_reading h)).bind
      (fun _ snapshot _ => ?_) fun _ _ _ _ h => nomatch h
  refine meets_lift_bind (fun _ _ => ?_) fun _ _ _ h => nomatch h
  split
  · intro out hout hunknown
    obtain rfl := Except.ok.inj hout
    cases hunknown
  · refine (offLedger_meets (AppContext.asks_signedTransactionSequenceIsStale _) fun _ =>
      Op.offLedger_of_inquiry).bind (fun _ stale _ => ?_) fun _ _ _ _ h => nomatch h
    cases stale with
    | true =>
      intro out hout hunknown
      obtain rfl := Except.ok.inj hout
      cases hunknown
    | false => exact meets_sendSignedTransaction_ledger hwatched

theorem meets_hasUnresolvedSubmission_ledger (hash : String) :
    Meets (OnLedger ctx watched) (fun t' r => ∃ d found,
      t' = d ++ [⟨.loc (.containsUnresolved hash), found⟩] ∧ r = .ok found) t
      (ctx.hasUnresolvedSubmission hash) := by
  unfold AppContext.hasUnresolvedSubmission AppContext.pruneUnresolvedSubmissions loc
  rw [meets_bind, meets_bind]
  refine AppContext.meets_retention.imp_post ?_
  rintro d r ⟨hd, retention, hretention, rfl⟩
  exact ⟨hretention, fun _ => ⟨trivial, fun found => ⟨_, found, rfl, rfl⟩⟩⟩

/-- The hashes a call watches; a submission that blocks watches its own. -/
def ToolCall.watches (ctx : AppContext) : ToolCall → String → Prop
  | .watchTransaction _ input, hash => input.txnHash = hash
  | .submitSignedTransaction _ input, hash => input.blocking = true ∧
    ∃ signedTxn, ctx.decodeSignedTransaction input = .ok signedTxn ∧
      ctx.vm.transactionId signedTxn = hash
  | _, _ => False

theorem meets_submitSignedTransaction_ledger (polls : ℕ) (input : SubmitSignedTransactionInput) :
    Meets (OnLedger ctx ((ToolCall.submitSignedTransaction polls input).watches ctx))
      (fun t' r => ∀ out, r = .ok out → out.submissionState = .unknown → EndsUnknown t' out)
      t (ctx.submitSignedTransaction polls input) := by
  have hload : ∀ key, Asks Op.offLedger (ctx.loadPreparedTransactionRecord key) := by
    intro key
    unfold AppContext.loadPreparedTransactionRecord AppContext.prunePreparedTransactions loc
    refine Asks.bind ?_ fun _ => asks_ask rfl
    exact AppContext.asks_retention.bind fun _ => asks_ask rfl
  unfold AppContext.submitSignedTransaction
  refine meets_lift_bind (fun _ _ => ?_) fun _ _ _ h => nomatch h
  refine meets_lift_bind (fun signedTxn hdecoded => ?_) fun _ _ _ h => nomatch h
  refine meets_lift_bind (fun _ _ => ?_) fun _ _ _ h => nomatch h
  refine (offLedger_meets (hload _) fun _ h => h).bind
    (fun _ record _ => ?_) fun _ _ _ _ h => nomatch h
  refine (meets_hasUnresolvedSubmission_ledger _).bind ?_ fun _ _ _ _ h => nomatch h
  rintro d found ⟨d', _, hd, hfound⟩
  obtain rfl := Except.ok.inj hfound
  cases found with
  | true =>
    intro out hout _
    obtain rfl := Except.ok.inj hout
    exact ⟨d', _, hd, .inr rfl⟩
  | false =>
    exact meets_submitResolved_ledger fun hblocking => ⟨hblocking, signedTxn, hdecoded, rfl⟩

/-- How a call may end, as far as the ledger goes. -/
def LedgerEnd (t : List Event) (r : Except SharedError ToolOutput) : Prop :=
  ∀ out, r = .ok (.submitted out) → out.submissionState = .unknown → EndsUnknown t out

theorem meets_program_ledger (ctx : AppContext) (c : ToolCall) :
    Meets (OnLedger ctx (c.watches ctx)) LedgerEnd [] (ctx.program c) := by
  have hprepare : ∀ {α : Type} {p : Call α} {f : α → ToolOutput}, Asks Op.offLedger p →
      (∀ a out, f a ≠ .submitted out) →
      Meets (OnLedger ctx (c.watches ctx)) LedgerEnd [] (do return f (← p)) := by
    intro α p f hp hf
    refine (offLedger_meets hp fun _ h => h).bind
      (fun _ a _ out hout => ?_) fun _ _ _ _ h => nomatch h
    exact absurd (Except.ok.inj hout) (hf a out)
  cases c with
  | prepareTransfer input =>
    refine hprepare ?_ fun _ _ h => nomatch h
    exact AppContext.asks_prepareTransfer_of coversPreparing_offLedger fun _ _ _ _ => rfl
  | prepareContractCall input =>
    refine hprepare ?_ fun _ _ h => nomatch h
    exact AppContext.asks_prepareContractCall_of coversPreparing_offLedger fun _ _ _ _ => rfl
  | preparePublishPackage input =>
    refine hprepare ?_ fun _ _ h => nomatch h
    exact AppContext.asks_preparePublishPackage_of coversPreparing_offLedger fun _ _ _ _ => rfl
  | simulateRawTransaction input =>
    refine hprepare ?_ fun _ _ h => nomatch h
    exact AppContext.asks_simulateRawTransaction_of coversPreparing_offLedger input fun _ _ => rfl
  | watchTransaction polls input =>
    have hwatches : (ToolCall.watchTransaction polls input).watches ctx input.txnHash := rfl
    exact Meets.bind (meets_watchTransaction hwatches polls) (fun _ _ _ _ h => nomatch h)
      fun _ _ _ _ h => nomatch h
  | submitSignedTransaction polls input =>
    refine Meets.bind (meets_submitSignedTransaction_ledger polls input) (fun d out hout => ?_)
      fun _ _ _ _ h => nomatch h
    intro out' heq
    obtain rfl := ToolOutput.submitted.inj (Except.ok.inj heq)
    exact hout out rfl

/-- The head of a submission: two ledgers are pruned and read. -/
theorem submitSignedTransaction_eq (polls : ℕ) {input : SubmitSignedTransactionInput}
    {signedTxn : SignedUserTransaction} {rawBytes : List UInt8} {retention : Duration}
    (hmode : ctx.mode = .transaction) (hdecoded : ctx.decodeSignedTransaction input = .ok signedTxn)
    (hencoded : ctx.vm.encodeRaw signedTxn.rawTxn = .ok rawBytes)
    (hretained : ctx.config.maxExpirationTtl.checkedAdd ctx.config.maxWatchTimeout =
      some retention) :
    ∃ timeout, ctx.submitSignedTransaction polls input =
      .op (.loc (.prunePrepared retention)) fun _ =>
      .op (.loc (.getPrepared (Hex.encode rawBytes))) fun record =>
      .op (.loc (.pruneUnresolved retention)) fun _ =>
      .op (.loc (.containsUnresolved (ctx.vm.transactionId signedTxn))) fun found =>
        if found then
          .ret (submissionUnknownOutput (ctx.vm.transactionId signedTxn)
            (record.map PreparedTransactionRecord.simulationStatus) timeout)
        else ctx.submitResolved polls input signedTxn record timeout := by
  have hretention : ctx.retention = .ret retention := by
    unfold AppContext.retention
    rw [hretained]
    rfl
  have hallowed : ensureTransactionMode ctx.mode = .ok () := by
    rw [hmode]
    rfl
  have hhex : encodeHexBcs ctx.vm signedTxn.rawTxn = .ok (Hex.encode rawBytes) := by
    unfold encodeHexBcs
    rw [hencoded]
  refine ⟨effectiveSubmitTimeoutSeconds input.blocking input.timeoutSeconds ctx.config.watchTimeout
    ctx.config.maxSubmitBlockingTimeout, ?_⟩
  unfold AppContext.submitSignedTransaction
  rw [hallowed, hdecoded]
  show (lift (encodeHexBcs ctx.vm signedTxn.rawTxn) >>= _) = _
  rw [hhex]
  unfold AppContext.loadPreparedTransactionRecord AppContext.prunePreparedTransactions
    AppContext.hasUnresolvedSubmission AppContext.pruneUnresolvedSubmissions
  rw [hretention]
  rfl

end Rules

/-! ## Runs -/

/-- The hash was last recorded as unresolved at that time. -/
def LastRecorded (log : List LogEntry) (hash : String) (time : ℕ) : Prop :=
  ∃ before e after, log = before ++ e :: after ∧ e.event.1 = .loc (.insertUnresolved hash) ∧
    e.time = time ∧ ∀ e' ∈ after, e'.event.1 ≠ .loc (.insertUnresolved hash)

section Runs

variable {ctx : AppContext} {s : Shared} {moves : List NodeMove} {hash : String}

/-- One entry makes the ledger forget a hash only by removing it or by finding it too old. -/
theorem forgotten_by_effect {e : LogEntry} (h : (s.unresolvedSubmissions.find hash).isSome = true)
    (hlost : ¬ ((ctx.system.effect s e).unresolvedSubmissions.find hash).isSome = true) :
    e.event.1 = .loc (.removeUnresolved hash) ∨
    ∃ retention r, e.event.1 = .loc (.pruneUnresolved retention) ∧
      s.unresolvedSubmissions.find hash = some r ∧ r.recordedAt + retention.nanos < e.time := by
  obtain ⟨i, now, ⟨o, x⟩⟩ := e
  obtain ⟨r, hr⟩ := Option.isSome_iff_exists.mp h
  cases o with
  | rpc o => exact absurd h hlost
  | clock o => exact absurd h hlost
  | loc o =>
    cases o with
    | pruneUnresolved retention =>
      refine .inr ⟨retention, r, rfl, hr, ?_⟩
      by_contra hage
      have hkeep : (decide (elapsed r.recordedAt now ≤ retention.nanos)) = true := by
        have hage' : now ≤ r.recordedAt + retention.nanos := not_lt.mp hage
        refine decide_eq_true ?_
        unfold elapsed
        omega
      refine hlost (Option.isSome_iff_ne_none.mpr fun hnone => ?_)
      have hnone' := Table.find_filter_eq_none.mp hnone r (Table.mem_of_find hr) hkeep
      exact hnone' (Table.key_of_find hr)
    | insertUnresolved hash' =>
      refine absurd ?_ hlost
      show ((s.unresolvedSubmissions.upsert ⟨hash', now⟩).find hash).isSome = true
      rw [Table.find_upsert]
      split
      · rfl
      · exact h
    | removeUnresolved hash' =>
      by_cases heq : hash' = hash
      · exact .inl (by rw [heq])
      · refine absurd ?_ hlost
        show ((s.unresolvedSubmissions.filter fun r => r.txnHash ≠ hash').find hash).isSome = true
        rw [Table.find_filter]
        · exact h
        · intro r hr
          simpa [hr] using fun he => heq he.symm
    | _ => exact absurd h hlost

/-- In a context that started with nothing unresolved, a row tells when its hash was recorded
last. -/
theorem lastRecorded_of_find (hstart : s.unresolvedSubmissions = Table.empty) {log : List LogEntry}
    (hordered : Logged (fun before e => ∀ e' ∈ before, e'.time ≤ e.time) log) :
    ∀ r, (ctx.system.replay s log).unresolvedSubmissions.find hash = some r →
      LastRecorded log hash r.recordedAt := by
  refine System.replay_invariant (I := fun (log : List LogEntry) (s' : Shared) =>
    ∀ r, s'.unresolvedSubmissions.find hash = some r →
      LastRecorded log hash r.recordedAt) ?_ ?_ hordered
  · intro r hr
    rw [hstart] at hr
    cases hr
  · intro log e ih _ r hr
    have hcarry : (ctx.system.replay s log).unresolvedSubmissions.find hash = some r →
        e.event.1 ≠ .loc (.insertUnresolved hash) →
          LastRecorded (log ++ [e]) hash r.recordedAt := by
      intro hold hne
      obtain ⟨before, e₀, after, rfl, hinsert, htime, hlast⟩ := ih r hold
      refine ⟨before, e₀, after ++ [e], by simp, hinsert, htime, fun e' he' => ?_⟩
      rcases List.mem_append.mp he' with he' | he'
      · exact hlast e' he'
      · rwa [List.mem_singleton.mp he']
    obtain ⟨i, now, ⟨o, x⟩⟩ := e
    cases o with
    | rpc o => exact hcarry hr (by rintro ⟨⟩)
    | clock o => exact hcarry hr (by rintro ⟨⟩)
    | loc o =>
      cases o with
      | insertUnresolved hash' =>
        change ((ctx.system.replay s log).unresolvedSubmissions.upsert ⟨hash', now⟩).find hash =
          some r at hr
        rw [Table.find_upsert] at hr
        split at hr
        · next heq =>
          cases hr
          exact ⟨log, _, [], rfl, by rw [heq], rfl, by rintro e' ⟨⟩⟩
        · next hne =>
          refine hcarry hr fun h => hne ?_
          cases h
          rfl
      | pruneUnresolved retention =>
        refine hcarry ?_ (by rintro ⟨⟩)
        have hmem := (List.mem_filter.mp (Table.mem_of_find hr)).1
        have hfind := Table.find_of_mem hmem
        rwa [Table.key_of_find hr] at hfind
      | removeUnresolved hash' =>
        refine hcarry ?_ (by rintro ⟨⟩)
        have hmem := (List.mem_filter.mp (Table.mem_of_find hr)).1
        have hfind := Table.find_of_mem hmem
        rwa [Table.key_of_find hr] at hfind
      | _ => exact hcarry hr (by rintro ⟨⟩)

/-- A submission that ended as unknown left its hash in the ledger. -/
theorem unresolved_at_return {a polls : ℕ} {input : SubmitSignedTransactionInput}
    {out : SubmitSignedTransactionOutput}
    (hreturned : (ctx.system.run s moves).calls[a]? =
      some (.submitSignedTransaction polls input, .ret (.submitted out)))
    (hunknown : out.submissionState = .unknown) :
    ∃ l e l', (ctx.system.run s moves).log = l ++ e :: l' ∧ (∀ e' ∈ l', e'.call ≠ a) ∧
      ((ctx.system.replay s (l ++ [e])).unresolvedSubmissions.find out.txnHash).isSome = true := by
  have hsteps := (System.followed_run s moves).calls a _ _ hreturned
  have hend : LedgerEnd (traceOf a (ctx.system.run s moves).log) (.ok (.submitted out)) :=
    (meets_program_ledger ctx (.submitSignedTransaction polls input)).steps hsteps
  obtain ⟨d, x, hd, hx⟩ := hend out rfl hunknown
  obtain ⟨l, e, l', hlog, hcall, hevent, htrace⟩ := exists_split_of_traceOf hd
  refine ⟨l, e, l', hlog, fun e' he' heq => ?_, ?_⟩
  · -- the call had no answer after its last one
    have hrest : traceOf a l' = [] := by
      rw [hlog, ← List.singleton_append, traceOf_append, traceOf_append, htrace] at hd
      have hself : traceOf a [e] = [x] := by
        rw [← hevent]
        simp [traceOf, hcall]
      rw [hself] at hd
      have := List.append_cancel_left hd
      exact (List.cons.inj this).2
    have hmem : e'.event ∈ traceOf a l' := mem_traceOf.mpr ⟨e', he', heq, rfl⟩
    rw [hrest] at hmem
    cases hmem
  · rw [System.replay_snoc]
    have hfound := (System.run_replay s moves).2 l e l' hlog
    obtain ⟨i, now, event⟩ := e
    obtain rfl := hevent
    rcases hx with rfl | rfl
    · show ((Table.upsert (ctx.system.replay s l).unresolvedSubmissions ⟨out.txnHash, now⟩).find
        out.txnHash).isSome = true
      rw [Table.find_upsert, if_pos rfl]
      rfl
    · exact hfound

/-- A submission returns only in transaction mode, and with a retention that can be added up. -/
theorem settings_of_return {a polls : ℕ} {input : SubmitSignedTransactionInput}
    {out : SubmitSignedTransactionOutput}
    (hreturned : (ctx.system.run s moves).calls[a]? =
      some (.submitSignedTransaction polls input, .ret (.submitted out))) :
    ctx.mode = .transaction ∧
      ∃ retention, ctx.config.maxExpirationTtl.checkedAdd ctx.config.maxWatchTimeout =
        some retention := by
  have hprogram : Meets (fun _ _ => True) (fun _ r => r.toOption.isSome = true →
    ctx.mode = .transaction ∧
      ∃ retention, ctx.config.maxExpirationTtl.checkedAdd ctx.config.maxWatchTimeout =
        some retention)
      [] (ctx.system.program (.submitSignedTransaction polls input)) := by
    refine Meets.bind (R := fun _ r => r.toOption.isSome = true → ctx.mode = .transaction ∧
      ∃ retention, ctx.config.maxExpirationTtl.checkedAdd ctx.config.maxWatchTimeout =
        some retention) ?_
      (fun _ _ h _ => h rfl) fun _ _ _ h => nomatch h
    unfold AppContext.submitSignedTransaction
    refine meets_lift_bind (fun _ hmode => ?_) fun _ _ h => nomatch h
    refine meets_lift_bind (fun signedTxn _ => ?_) fun _ _ h => nomatch h
    refine meets_lift_bind (fun _ _ => ?_) fun _ _ h => nomatch h
    refine ((AppContext.meets_loadPreparedTransactionRecord _).weaken fun _ _ _ => trivial).bind ?_
      fun _ _ _ h => nomatch h
    rintro d record ⟨retention, _, hretained, -⟩
    exact meets_any.imp_post fun _ _ _ _ => ⟨of_ensureTransactionMode hmode, retention, hretained⟩
  exact hprogram.steps ((System.followed_run s moves).calls a _ _ hreturned) rfl

/-- Where a submission stands: at its ledgers, or past its look at the unresolved one. -/
theorem submission_head {b polls : ℕ} {input : SubmitSignedTransactionInput} {p : Call ToolOutput}
    {signedTxn : SignedUserTransaction} {rawBytes : List UInt8} {retention : Duration}
    (hcall : (ctx.system.run s moves).calls[b]? = some (.submitSignedTransaction polls input, p))
    (hmode : ctx.mode = .transaction) (hdecoded : ctx.decodeSignedTransaction input = .ok signedTxn)
    (hencoded : ctx.vm.encodeRaw signedTxn.rawTxn = .ok rawBytes)
    (hretained : ctx.config.maxExpirationTtl.checkedAdd ctx.config.maxWatchTimeout =
      some retention) :
    ((traceOf b (ctx.system.run s moves).log).length < 4 ∧
      (∀ x ∈ traceOf b (ctx.system.run s moves).log, x.1.isSubmission = false) ∧
      ∃ o k, p = .op (.loc o) k) ∨
    ∃ record found d, traceOf b (ctx.system.run s moves).log =
        [⟨.loc (.prunePrepared retention), ()⟩, ⟨.loc (.getPrepared (Hex.encode rawBytes)), record⟩,
          ⟨.loc (.pruneUnresolved retention), ()⟩] ++
        ⟨.loc (.containsUnresolved (ctx.vm.transactionId signedTxn)), found⟩ :: d ∧
      (found = true → d = [] ∧ ∃ status timeout, p =
        .ret (.submitted
          (submissionUnknownOutput (ctx.vm.transactionId signedTxn) status timeout))) := by
  have hsteps := (System.followed_run s moves).calls b _ _ hcall
  obtain ⟨timeout, heq⟩ := submitSignedTransaction_eq polls hmode hdecoded hencoded hretained
  have hprogram : ctx.system.program (.submitSignedTransaction polls input) =
      (ctx.submitSignedTransaction polls input).bind fun out => .ret (.submitted out) := rfl
  rw [hprogram, heq] at hsteps
  generalize traceOf b (ctx.system.run s moves).log = trace at hsteps ⊢
  rcases hsteps.of_op with ⟨rfl, rfl⟩ | ⟨x₁, d₁, rfl, hsteps₁⟩
  · exact .inl ⟨by simp, by simp, _, _, rfl⟩
  rcases hsteps₁.of_op with ⟨rfl, rfl⟩ | ⟨record, d₂, rfl, hsteps₂⟩
  · exact .inl ⟨by simp, by simp [Op.isSubmission], _, _, rfl⟩
  rcases hsteps₂.of_op with ⟨rfl, rfl⟩ | ⟨x₃, d₃, rfl, hsteps₃⟩
  · exact .inl ⟨by simp, by simp [Op.isSubmission], _, _, rfl⟩
  rcases hsteps₃.of_op with ⟨rfl, rfl⟩ | ⟨found, d₄, rfl, hsteps₄⟩
  · exact .inl ⟨by simp, by simp [Op.isSubmission], _, _, rfl⟩
  refine .inr ⟨record, found, d₄, rfl, fun hfound => ?_⟩
  subst hfound
  obtain ⟨rfl, rfl⟩ := Steps.of_ret hsteps₄
  exact ⟨rfl, _, _, rfl⟩

end Runs

/-- Entry `e`, after the log `l`, ends the wait for a hash: a watch that has seen the transaction
takes it off the ledger, or it was recorded longer ago than it is kept. -/
def Forgets (ctx : AppContext) (w : NodeWorld) (hash : String) (l : List LogEntry)
    (e : LogEntry) : Prop :=
  (e.event.1 = .loc (.removeUnresolved hash) ∧
    ∃ c p, w.calls[e.call]? = some (c, p) ∧ c.watches ctx hash ∧
      ObservedFound hash (traceOf e.call l)) ∨
  ∃ recordedAt, LastRecorded l hash recordedAt ∧
    recordedAt + (ctx.config.maxExpirationTtl.nanos + ctx.config.maxWatchTimeout.nanos) < e.time

theorem forgets_of_lost {ctx : AppContext} {s : Shared} {moves : List NodeMove} {hash : String}
    {l l' : List LogEntry} {e : LogEntry} (hstart : s.unresolvedSubmissions = Table.empty)
    (hlog : (ctx.system.run s moves).log = l ++ e :: l')
    (h : ((ctx.system.replay s l).unresolvedSubmissions.find hash).isSome = true)
    (hlost : ¬ ((ctx.system.effect (ctx.system.replay s l) e).unresolvedSubmissions.find
      hash).isSome = true) :
    Forgets ctx (ctx.system.run s moves) hash l e := by
  obtain ⟨c, p, hcall, hallowed⟩ :=
    (System.followed_run s moves).allowed (meets_program_ledger ctx) hlog
  rcases forgotten_by_effect h hlost with hremove | ⟨retention, r, hprune, hr, hage⟩
  · rw [hremove] at hallowed
    exact .inl ⟨hremove, c, p, hcall, hallowed⟩
  · rw [hprune] at hallowed
    have hordered : Logged (fun before e => ∀ e' ∈ before, e'.time ≤ e.time)
        (ctx.system.run s moves).log := System.run_ordered s moves
    rw [hlog] at hordered
    refine .inr ⟨r.recordedAt, lastRecorded_of_find hstart hordered.of_append r hr, ?_⟩
    rwa [← Duration.checkedAdd_eq_some hallowed]

/-- What BCS has read it can write: the raw transaction of a decoded transaction has bytes. -/
def AppContext.WritesBack (ctx : AppContext) : Prop :=
  ∀ bytes signedTxn, ctx.vm.decodeSigned bytes = .ok signedTxn →
    ∃ rawBytes, ctx.vm.encodeRaw signedTxn.rawTxn = .ok rawBytes

/-- A context in use since its bootstrap. -/
def AppContext.worldAfter (ctx : AppContext) (t₀ : Instant) (moves : List NodeMove) : NodeWorld :=
  ctx.system.run (startShared ctx.config ctx.startupProbe t₀) moves

/-- The submission `b` never gets to the endpoint: it is at its own ledgers, or it has returned
as unknown. -/
def TurnedBack (w : NodeWorld) (b : ℕ) (hash : String) (p : Call ToolOutput) : Prop :=
  (∀ e ∈ w.log, e.call = b → e.event.1.isSubmission = false) ∧
  (((traceOf b w.log).length < 4 ∧ ∃ o k, p = .op (.loc o) k) ∨
    ∃ out, p = .ret (.submitted out) ∧ out.txnHash = hash ∧ out.submissionState = .unknown ∧
      out.nextAction = .reconcileByTxnHash)

/-- Two logs that agree, cut at an entry of the second part. -/
theorem split_of_later {log more m m' : List LogEntry} {f : LogEntry}
    (h : log ++ more = m ++ f :: m')
    (hf : f ∉ log) : ∃ mid, m = log ++ mid ∧ more = mid ++ f :: m' := by
  rcases List.append_eq_append_iff.mp h with ⟨mid, hm, hmore⟩ | ⟨rest, hlog, hrest⟩
  · exact ⟨mid, hm, hmore⟩
  · cases rest with
    | nil => exact ⟨[], by simpa using hlog.symm, by simpa using hrest.symm⟩
    | cons f' rest =>
      obtain ⟨rfl, -⟩ := List.cons.inj hrest
      exact absurd (by rw [hlog]; simp) hf

/-- In the ledger when `a` was through, no longer there when `b` looked. -/
theorem forgotten_between {ctx : AppContext} {s : Shared}
    (hstart : s.unresolvedSubmissions = Table.empty)
    {moves₁ moves₂ : List NodeMove} {a b polls : ℕ} {input : SubmitSignedTransactionInput}
    {out : SubmitSignedTransactionOutput} {d d' : List Event}
    (hreturned : (ctx.system.run s moves₁).calls[a]? =
      some (.submitSignedTransaction polls input, .ret (.submitted out)))
    (hunknown : out.submissionState = .unknown)
    (hlater : (ctx.system.run s moves₁).calls.length ≤ b)
    (htrace : traceOf b (ctx.system.run s (moves₁ ++ moves₂)).log =
      d ++ ⟨.loc (.containsUnresolved out.txnHash), false⟩ :: d') :
    ∃ l e l', (ctx.system.run s (moves₁ ++ moves₂)).log = l ++ e :: l' ∧
      (∀ e' ∈ e :: l', e'.call ≠ a) ∧
      (∃ e' ∈ l', e'.call = b ∧ e'.event.1 = .loc (.containsUnresolved out.txnHash)) ∧
      Forgets ctx (ctx.system.run s (moves₁ ++ moves₂)) out.txnHash l e := by
  obtain ⟨lA, eA, restA, hlogA, hrestA, hheld⟩ := unresolved_at_return hreturned hunknown
  obtain ⟨more, hmore, hmoreA⟩ := System.log_after_return hreturned moves₂
  obtain ⟨m, f, m', hm, hfcall, hfevent, -⟩ := exists_split_of_traceOf htrace
  have hgone := containsUnresolved_entry hm hfevent
  have hf : f ∉ (ctx.system.run s moves₁).log := by
    intro hmem
    have hknown := (System.followed_run s moves₁).known f hmem
    exact absurd (hfcall ▸ hknown) (not_lt.mpr hlater)
  obtain ⟨mid, rfl, rfl⟩ := split_of_later (hmore.symm.trans hm) hf
  have hcut : (ctx.system.run s moves₁).log ++ mid = (lA ++ [eA]) ++ (restA ++ mid) := by
    rw [hlogA]
    simp
  rw [hcut] at hgone hm
  have hlost : ¬ ((ctx.system.replay s ((lA ++ [eA]) ++ (restA ++ mid))).unresolvedSubmissions.find
      out.txnHash).isSome = true := by
    rw [hgone]
    simp
  obtain ⟨l, e, l', hbetween, hbefore, hafter⟩ := System.exists_lost
    (P := fun s' : Shared => (s'.unresolvedSubmissions.find out.txnHash).isSome = true) hheld hlost
  have hlog : (ctx.system.run s (moves₁ ++ moves₂)).log =
    ((lA ++ [eA]) ++ l) ++ e :: (l' ++ f :: m') := by
    rw [hm, hbetween]
    simp
  refine ⟨_, e, _, hlog, fun e' he' => ?_, ⟨f, by simp, hfcall, by rw [hfevent]⟩,
    forgets_of_lost hstart hlog hbefore hafter⟩
  -- everything from `e` on is after the last answer of `a`
  have hmem : e' ∈ restA ++ (mid ++ f :: m') := by
    rw [← List.append_assoc, hbetween]
    simpa using Or.inr he'
  rcases List.mem_append.mp hmem with h | h
  · exact hrestA e' h
  · exact hmoreA e' h

/-- Call `a` returned unknown for a hash, and a submission `b` of that hash was started later. Then
`b` is turned back, unless the hash was forgotten after `a` was through and before `b` looked. -/
theorem unknown_blocks_resubmission (ctx : AppContext) (hbcs : ctx.WritesBack) (t₀ : Instant)
    (moves₁ moves₂ : List NodeMove) {a b pollsA polls : ℕ}
    {inputA input : SubmitSignedTransactionInput}
    {out : SubmitSignedTransactionOutput} {p : Call ToolOutput} {signedTxn : SignedUserTransaction}
    (hreturned : (ctx.worldAfter t₀ moves₁).calls[a]? =
      some (.submitSignedTransaction pollsA inputA, .ret (.submitted out)))
    (hunknown : out.submissionState = .unknown)
    (hlater : (ctx.worldAfter t₀ moves₁).calls.length ≤ b)
    (hcall : (ctx.worldAfter t₀ (moves₁ ++ moves₂)).calls[b]? =
      some (.submitSignedTransaction polls input, p))
    (hdecoded : ctx.decodeSignedTransaction input = .ok signedTxn)
    (hhash : ctx.vm.transactionId signedTxn = out.txnHash) :
    (∃ l e l', (ctx.worldAfter t₀ (moves₁ ++ moves₂)).log = l ++ e :: l' ∧
      (∀ e' ∈ e :: l', e'.call ≠ a) ∧
      (∃ e' ∈ l', e'.call = b ∧ e'.event.1 = .loc (.containsUnresolved out.txnHash)) ∧
      Forgets ctx (ctx.worldAfter t₀ (moves₁ ++ moves₂)) out.txnHash l e) ∨
    TurnedBack (ctx.worldAfter t₀ (moves₁ ++ moves₂)) b out.txnHash p := by
  -- the first call shows the mode and the retention; what was decoded can be encoded
  obtain ⟨hmode, retention, hretained⟩ := settings_of_return hreturned
  obtain ⟨bytes, hbytes, hdecode⟩ := bind_eq_ok hdecoded
  obtain ⟨rawBytes, hencoded⟩ := hbcs bytes signedTxn (mapError_eq_ok hdecode)
  rcases submission_head hcall hmode hdecoded hencoded hretained with
    ⟨hshort, hnone, hwaiting⟩ | ⟨record, found, d, htrace, hfound⟩
  · refine .inr ⟨fun e he heb => ?_, .inl ⟨hshort, hwaiting⟩⟩
    exact hnone e.event (mem_traceOf.mpr ⟨e, he, heb, rfl⟩)
  rw [hhash] at htrace hfound
  cases found with
  | false => exact .inl (forgotten_between rfl hreturned hunknown hlater htrace)
  | true =>
    obtain ⟨rfl, status, timeout, rfl⟩ := hfound rfl
    refine .inr ⟨fun e he heb => ?_, .inr ⟨_, rfl, rfl, rfl, rfl⟩⟩
    have hmem : e.event ∈ traceOf b (ctx.system.run (startShared ctx.config ctx.startupProbe t₀)
      (moves₁ ++ moves₂)).log := mem_traceOf.mpr ⟨e, he, heb, rfl⟩
    rw [htrace] at hmem
    simp only [List.cons_append, List.nil_append, List.mem_cons, List.not_mem_nil, or_false] at hmem
    rcases hmem with h | h | h | h <;> rw [h] <;> rfl

namespace Sample

/-- An endpoint with its own answers to a submission and to a lookup. -/
def replyWith (submitted : Except SharedError String) (found : Option Value) : (o : Op) → o.Ans
  | .rpc (.submitSignedTransaction _) => submitted
  | .rpc (.getTransaction _ _) => .ok found
  | o => reply 7 o

def connectionLost : Except SharedError String := .error (.new .rpcUnavailable "connection closed")

/-- The transfer is simulated and submitted, and the connection breaks. -/
def submitLost : List NodeMove :=
  .start simulate :: answers 0 7 7 ++
    .start submit :: List.replicate 13 (.answer 1 1000 (replyWith connectionLost none))

def submitAgain : List NodeMove := .start submit :: answers 2 4 7

/-- A watch has just seen the transfer when another call submits it and loses the connection. -/
def watchThenLost : List NodeMove :=
  .start simulate :: answers 0 7 7 ++
    .start (.watchTransaction 1 ⟨txnHash, none, none, none⟩) ::
      List.replicate 4 (.answer 1 1000 (replyWith connectionLost (some nodeInfo))) ++
    .start submit :: List.replicate 13 (.answer 2 1000 (replyWith connectionLost (some nodeInfo)))

/-- The watch goes on, and the transfer is submitted again. -/
def clearThenSubmit : List NodeMove :=
  .answer 1 1000 (replyWith connectionLost (some nodeInfo)) :: .start submit :: answers 3 11 7

theorem writesBack : ctx.WritesBack := by
  intro bytes signedTxn h
  change (if bytes = rawBytes ++ signed.authenticator then Except.ok signed else _) = _ at h
  split at h
  · cases h
    exact ⟨_, rfl⟩
  · cases h

/-- The submission of the sample transfer that is call `i` has this outcome. -/
theorem returned_spec (w : NodeWorld) (i : ℕ) (state : SubmissionState)
    (h : (returned w i).map (fun r => (r.2.2.submissionState, r.2.2.txnHash)) =
      some (state, txnHash)) :
    ∃ polls input out, w.calls[i]? =
      some (.submitSignedTransaction polls input, .ret (.submitted out)) ∧
      out.submissionState = state ∧ out.txnHash = txnHash := by
  obtain ⟨⟨polls, input, out⟩, hreturned, hout⟩ := Option.map_eq_some_iff.mp h
  obtain ⟨hstate, hhash⟩ := Prod.mk.inj hout
  exact ⟨polls, input, out, calls_of_returned hreturned, hstate, hhash⟩

end Sample

open Sample in
theorem unknown_blocks_resubmission_lost : ∃ polls input p,
    (ctx.worldAfter 0 (submitLost ++ submitAgain)).calls[2]? =
      some (.submitSignedTransaction polls input, p) ∧
    ((∃ l e l', (ctx.worldAfter 0 (submitLost ++ submitAgain)).log = l ++ e :: l' ∧
      (∀ e' ∈ e :: l', e'.call ≠ 1) ∧
      (∃ e' ∈ l', e'.call = 2 ∧ e'.event.1 = .loc (.containsUnresolved txnHash)) ∧
      Forgets ctx (ctx.worldAfter 0 (submitLost ++ submitAgain)) txnHash l e) ∨
    TurnedBack (ctx.worldAfter 0 (submitLost ++ submitAgain)) 2 txnHash p) := by
  obtain ⟨pollsA, inputA, out, hreturned, hunknown, hhash⟩ :=
    returned_spec (ctx.worldAfter 0 submitLost) 1 .unknown (by decide +kernel)
  obtain ⟨polls, input, out', hcall, -⟩ :=
    returned_spec (ctx.worldAfter 0 (submitLost ++ submitAgain)) 2 .unknown (by decide +kernel)
  obtain ⟨signedTxn, hdecoded, -⟩ := returned_output hcall
  refine ⟨polls, input, _, hcall, ?_⟩
  rw [← hhash]
  exact unknown_blocks_resubmission ctx writesBack 0 submitLost submitAgain hreturned hunknown
    (by decide +kernel) hcall hdecoded hhash.symm

open Sample in
/-- A transfer with an unknown outcome is handed over again within a second, although nobody has
looked it up since; the watch had seen it before. -/
theorem watch_clears_later_unknown : (∃ polls input out,
      (ctx.worldAfter 0 watchThenLost).calls[2]? =
        some (.submitSignedTransaction polls input, .ret (.submitted out)) ∧
      out.submissionState = .unknown ∧ out.txnHash = txnHash) ∧
    (ctx.worldAfter 0 watchThenLost).calls.length = 3 ∧
    (3, Op.rpc (.submitSignedTransaction signedHex)) ∈
      (ctx.worldAfter 0 (watchThenLost ++ clearThenSubmit)).log.map (fun e => (e.call, e.event.1)) ∧
    (∀ e ∈ (ctx.worldAfter 0 (watchThenLost ++ clearThenSubmit)).log.drop
        (ctx.worldAfter 0 watchThenLost).log.length, ∀ decode,
      e.event.1 ≠ .rpc (.getTransaction txnHash decode) ∧
        e.event.1 ≠ .rpc (.getTransactionInfo txnHash)) ∧
    ∀ e ∈ (ctx.worldAfter 0 (watchThenLost ++ clearThenSubmit)).log, e.time ≤
      (seconds 1).nanos := by
  refine ⟨returned_spec _ _ _ (by decide +kernel), ?_⟩
  decide +kernel

end StarcoinMcp.Node
