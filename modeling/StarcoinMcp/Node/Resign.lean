import StarcoinMcp.Node.Gate

/-! When a submission tells the host to prepare and sign again. The sequence number a
transaction is held against is the txpool's next one, which the transaction itself moves
as soon as the txpool takes it; so a transaction that is already on its way is told off as
stale, unless the unresolved ledger still remembers it. -/

namespace StarcoinMcp.Node

open Prog

/-- What the two lookups of `resolve_sequence_number` come to. -/
def sequenceLookup (address : String) (next : Except SharedError (Option UInt64))
    (state : Except SharedError (Option Value)) : Except SharedError (UInt64 × SequenceNumberSource) := do
  let txpoolNext ← AppContext.degradeSequenceLookup next
  let onchainState ← state
  AppContext.combineSequence address txpoolNext onchainState

/-- The stale check, on the endpoint's two answers. -/
def staleOnAnswers (address : String) (sequenceNumber : UInt64)
    (next : Except SharedError (Option UInt64)) (state : Except SharedError (Option Value)) : Prop :=
  AppContext.staleOutcome sequenceNumber (sequenceLookup address next state) = .ok true

section Rules

variable {ctx : AppContext} {t : List Event}

theorem meets_signedTransactionSequenceIsStale (signedTxn : SignedUserTransaction) :
    Meets (fun _ _ => True) (fun t' r =>
      (∃ next state, t' = t ++
        [⟨.rpc (.nextSequenceNumber (ctx.vm.addressText signedTxn.rawTxn.sender)), next⟩,
          ⟨.rpc (.getAccountState (ctx.vm.addressText signedTxn.rawTxn.sender)), state⟩] ∧
        r = AppContext.staleOutcome signedTxn.rawTxn.sequenceNumber
          (sequenceLookup (ctx.vm.addressText signedTxn.rawTxn.sender) next state)) ∨
      (∃ next e, t' = t ++
        [⟨.rpc (.nextSequenceNumber (ctx.vm.addressText signedTxn.rawTxn.sender)), next⟩] ∧
        r = AppContext.staleOutcome signedTxn.rawTxn.sequenceNumber (.error e)))
      t (ctx.signedTransactionSequenceIsStale signedTxn) := by
  unfold AppContext.signedTransactionSequenceIsStale AppContext.resolveSequenceNumber rpc
  rw [meets_bind, meets_attempt]
  refine meets_ask_bind trivial fun next => ?_
  refine meets_lift_bind (fun txpoolNext hnext => ?_) fun e _ => ?_
  · refine meets_ask_bind trivial fun state => ?_
    refine meets_lift_bind (fun onchainState hstate => ?_) fun e he => ?_
    · rw [meets_lift]
      show Meets _ _ _ (lift _)
      rw [meets_lift]
      refine .inl ⟨next, state, by simp, ?_⟩
      unfold sequenceLookup
      rw [hnext, hstate]
      rfl
    · show Meets _ _ _ (lift _)
      rw [meets_lift]
      refine .inl ⟨next, state, by simp, ?_⟩
      unfold sequenceLookup
      rw [hnext, he]
      rfl
  · show Meets _ _ _ (lift _)
    rw [meets_lift]
    exact .inr ⟨next, e, rfl, rfl⟩

/-- After the submission call only the endpoint's own verdict leads to signing again. -/
theorem meets_sendSignedTransaction_output {polls : ℕ} {input : SubmitSignedTransactionInput}
    {txnHash : String} {status : Option SimulationStatus} {timeout : Option UInt64} :
    Meets (fun _ _ => True) (fun t' r => ∃ answer d,
      t' = t ++ ⟨.rpc (.submitSignedTransaction input.signedTxnBcsHex), answer⟩ :: d ∧
      (∀ e ∈ d, e.1.watching) ∧ ∀ out, r = .ok out → (out.nextAction = .reprepareThenResign ↔
        ∃ e, answer = .error e ∧ (e.code = .transactionExpired ∨ e.code = .sequenceNumberStale)))
      t (ctx.sendSignedTransaction polls input txnHash status timeout) := by
  have hfree : ∀ {α : Type} {p : Call α} {t : List Event}, Asks Op.watching p →
      Meets (fun _ _ => True) (fun t' _ => ∃ d, t' = t ++ d ∧ ∀ e ∈ d, e.1.watching) t p := by
    intro α p t hp
    have hwatching : Meets (fun _ o => o.watching) (fun _ _ => True) t p := hp.meets fun _ _ h => h
    exact (hwatching.extends.imp_post fun _ _ h => h.2).weaken fun _ _ _ => trivial
  unfold AppContext.sendSignedTransaction rpc
  refine meets_ask_bind trivial fun answer => ?_
  cases answer with
  | ok hash =>
    refine (hfree (AppContext.asks_watchAccepted_of AppContext.coversWatch_watching _ _ _ _)).bind ?_ ?_
    · rintro d₁ watchResult ⟨d, hd, hwatching⟩
      refine ⟨.ok hash, d, by rw [hd]; simp, hwatching, fun out hout => ?_⟩
      obtain rfl := Except.ok.inj hout
      exact ⟨fun h => (nomatch h), fun ⟨e, he, _⟩ => (nomatch he)⟩
    · rintro d₁ e ⟨d, hd, hwatching⟩
      exact ⟨.ok hash, d, by rw [hd]; simp, hwatching, fun out hout => nomatch hout⟩
  | error e =>
    show Meets _ _ _ (if _ then _ else _)
    split
    · next hunknown =>
      have hnot : ¬ ∃ e', Except.error e = (.error e' : Except SharedError String) ∧
          (e'.code = .transactionExpired ∨ e'.code = .sequenceNumberStale) := by
        rintro ⟨e', he, hcode⟩
        obtain rfl := Except.error.inj he
        rcases hunknown with h | h | h <;> rw [h] at hcode <;> simp at hcode
      refine (hfree (AppContext.asks_recordUnresolvedSubmission _)).bind ?_ ?_
      · rintro d₁ _ ⟨d, hd, hwatching⟩
        refine ⟨.error e, d, by rw [hd]; simp, hwatching, fun out hout => ?_⟩
        obtain rfl := Except.ok.inj hout
        exact ⟨fun h => (nomatch h), fun h => (hnot h).elim⟩
      · rintro d₁ _ ⟨d, hd, hwatching⟩
        exact ⟨.error e, d, by rw [hd]; simp, hwatching, fun out hout => nomatch hout⟩
    · split
      · next hrejected =>
        refine ⟨.error e, [], rfl, fun _ he => (nomatch he), fun out hout => ?_⟩
        obtain rfl := Except.ok.inj hout
        exact ⟨fun _ => ⟨e, rfl, hrejected⟩, fun _ => rfl⟩
      · exact ⟨.error e, [], rfl, fun _ he => (nomatch he), fun out hout => nomatch hout⟩

end Rules

/-! ## The condition -/

/-- Unless both lookups were answered, and to the effect that the sender is past it, the sequence
number is not called stale. -/
def NotStale (ctx : AppContext) (signedTxn : SignedUserTransaction) (t : List Event) : Prop :=
  ∀ next state,
    firstAnswer (.rpc (.nextSequenceNumber (ctx.vm.addressText signedTxn.rawTxn.sender))) t =
      some next →
    firstAnswer (.rpc (.getAccountState (ctx.vm.addressText signedTxn.rawTxn.sender))) t =
      some state →
    ¬ staleOnAnswers (ctx.vm.addressText signedTxn.rawTxn.sender) signedTxn.rawTxn.sequenceNumber
      next state

/-- The endpoint did not itself call the transaction expired or stale. -/
def NotRejected (input : SubmitSignedTransactionInput) (t : List Event) : Prop :=
  ∀ e, firstAnswer (.rpc (.submitSignedTransaction input.signedTxnBcsHex)) t = some (.error e) →
    e.code ≠ .transactionExpired ∧ e.code ≠ .sequenceNumberStale

/-- By the node's own clock. -/
def NotExpired (signedTxn : SignedUserTransaction) (t : List Event) : Prop :=
  ∀ nodeInfo now, firstAnswer (.rpc .nodeInfo) t = some (.ok nodeInfo) →
    extractU64 nodeInfo ["now_seconds"] = .ok now → now < signedTxn.rawTxn.expirationTimestampSecs

/-- What keeps a submission from sending the host back to signing, read off the answers `t` of the
ledgers and the endpoint: the hash is still noted as unresolved, or none of the three verdicts
falls. -/
def KeepsSignature (ctx : AppContext) (input : SubmitSignedTransactionInput)
    (signedTxn : SignedUserTransaction) (t : List Event) : Prop :=
  firstAnswer (.loc (.containsUnresolved (ctx.vm.transactionId signedTxn))) t = some true ∨
    NotExpired signedTxn t ∧ NotStale ctx signedTxn t ∧ NotRejected input t

section Lookups

variable {ctx : AppContext} {input : SubmitSignedTransactionInput}
variable {signedTxn : SignedUserTransaction} {d : List Event}

theorem notStale_of_answers {next : Except SharedError (Option UInt64)}
    {state : Except SharedError (Option Value)} :
    NotStale ctx signedTxn
      (⟨.rpc (.nextSequenceNumber (ctx.vm.addressText signedTxn.rawTxn.sender)), next⟩ ::
        ⟨.rpc (.getAccountState (ctx.vm.addressText signedTxn.rawTxn.sender)), state⟩ :: d) ↔
    ¬ staleOnAnswers (ctx.vm.addressText signedTxn.rawTxn.sender) signedTxn.rawTxn.sequenceNumber
      next state := by
  unfold NotStale
  rw [firstAnswer_cons_self, firstAnswer_cons_of_ne (by simp), firstAnswer_cons_self]
  refine ⟨fun h => h next state rfl rfl, ?_⟩
  rintro h _ _ ⟨rfl⟩ ⟨rfl⟩
  exact h

theorem notStale_of_unanswered
    (h : ∀ e ∈ d, e.1 ≠ .rpc (.getAccountState (ctx.vm.addressText signedTxn.rawTxn.sender))) :
    NotStale ctx signedTxn d := by
  intro next state _ hstate
  have hnone := firstAnswer_append_of_not_mem (d := []) h
  rw [List.append_nil, hstate] at hnone
  cases hnone

theorem notRejected_of_answer {lookups : List Event} {answer : Except SharedError String}
    (h : ∀ e ∈ lookups, e.1.isSubmission = false) :
    NotRejected input (lookups ++ ⟨.rpc (.submitSignedTransaction input.signedTxnBcsHex), answer⟩ :: d) ↔
    ¬ ∃ e, answer = .error e ∧ (e.code = .transactionExpired ∨ e.code = .sequenceNumberStale) := by
  have hskip : ∀ e ∈ lookups, e.1 ≠ .rpc (.submitSignedTransaction input.signedTxnBcsHex) := by
    intro e he heq
    have := h e he
    rw [heq] at this
    cases this
  unfold NotRejected
  rw [firstAnswer_append_of_not_mem hskip, firstAnswer_cons_self]
  simp

theorem staleOutcome_error_ne_true {sequenceNumber : UInt64} {e : SharedError} :
    AppContext.staleOutcome sequenceNumber (.error e) ≠ .ok true := by
  unfold AppContext.staleOutcome
  dsimp only
  split_ifs
  · simp
  · simp

theorem lt_max_right {a b c : UInt64} (h : a < c) : a < max b c := by
  show a < if b ≤ c then c else b
  split_ifs with hle
  · exact h
  · exact UInt64.lt_trans h (UInt64.not_le.mp hle)

/-- A txpool that counts on from a transaction makes that transaction stale. -/
theorem staleOnAnswers_of_lt {address : String} {sequenceNumber next : UInt64}
    {state : Option Value} (h : sequenceNumber < next) :
    staleOnAnswers address sequenceNumber (.ok (some next)) (.ok state) := by
  have hlookup : ∃ current source, sequenceNumber < current ∧
      sequenceLookup address (.ok (some next)) (.ok state) = .ok (current, source) := by
    show ∃ current source, _ ∧ AppContext.combineSequence address (some next) state = _
    unfold AppContext.combineSequence
    cases state.bind fun value => extractOptionalU64 value ["sequence_number"] with
    | none => exact ⟨next, .txpool, h, rfl⟩
    | some onchain => exact ⟨max onchain next, _, lt_max_right h, rfl⟩
  obtain ⟨current, source, hlt, hlookup⟩ := hlookup
  unfold staleOnAnswers
  rw [hlookup]
  simpa [AppContext.staleOutcome] using hlt

end Lookups

/-- The answers of a submission up to its snapshot. -/
def gateAnswers (ctx : AppContext) (signedTxn : SignedUserTransaction) (key : List Char)
    (retention : Duration) (record : Option PreparedTransactionRecord) (probing : List Event)
    (nodeInfo chainInfo : Value) (observedAt : String) : List Event :=
  [⟨.loc (.prunePrepared retention), ()⟩, ⟨.loc (.getPrepared key), record⟩,
    ⟨.loc (.pruneUnresolved retention), ()⟩,
    ⟨.loc (.containsUnresolved (ctx.vm.transactionId signedTxn)), false⟩] ++ (probing ++
    [⟨.rpc .nodeInfo, .ok nodeInfo⟩, ⟨.rpc .chainInfoUncached, .ok chainInfo⟩,
      ⟨.clock .rfc3339Now, observedAt⟩])

section GateAnswers

variable {ctx : AppContext} {signedTxn : SignedUserTransaction} {key : List Char}
variable {retention : Duration} {record : Option PreparedTransactionRecord} {probing : List Event}
variable {nodeInfo chainInfo : Value} {observedAt : String} {d : List Event}

theorem firstAnswer_unresolved :
    firstAnswer (.loc (.containsUnresolved (ctx.vm.transactionId signedTxn)))
      (gateAnswers ctx signedTxn key retention record probing nodeInfo chainInfo observedAt ++ d) =
      some false := by
  simp [gateAnswers, firstAnswer]

theorem firstAnswer_nodeInfo (hprobing : ∀ e ∈ probing, e.1.aboutProbe) :
    firstAnswer (.rpc .nodeInfo)
      (gateAnswers ctx signedTxn key retention record probing nodeInfo chainInfo observedAt ++ d) =
      some (.ok nodeInfo) := by
  have hprobe : ∀ e ∈ probing, e.1 ≠ .rpc .nodeInfo := by
    intro e he heq
    have := hprobing e he
    rw [heq] at this
    cases this
  simp [gateAnswers, firstAnswer, firstAnswer_append_of_not_mem hprobe]

/-- The sequence lookups and the submission come after the gate. -/
theorem firstAnswer_afterGate {o : RpcOp} (hprobing : ∀ e ∈ probing, e.1.aboutProbe)
    (hprobe : ∀ b, o ≠ .probe b) (hnode : o ≠ .nodeInfo) (hchain : o ≠ .chainInfoUncached) :
    firstAnswer (.rpc o)
      (gateAnswers ctx signedTxn key retention record probing nodeInfo chainInfo observedAt ++ d) =
      firstAnswer (.rpc o) d := by
  refine firstAnswer_append_of_not_mem fun e he heq => ?_
  unfold gateAnswers at he
  simp only [List.mem_append, List.mem_cons, List.not_mem_nil, or_false] at he
  rcases he with (rfl | rfl | rfl | rfl) | he | rfl | rfl | rfl
  · cases heq
  · cases heq
  · cases heq
  · cases heq
  · have habout := hprobing e he
    rw [heq] at habout
    cases o with
    | probe b => exact hprobe b rfl
    | _ => cases habout
  · exact hnode (Op.rpc.inj heq).symm
  · exact hchain (Op.rpc.inj heq).symm
  · cases heq

/-- The condition, on the answers after the gate. -/
theorem keepsSignature_iff {input : SubmitSignedTransactionInput} {now : UInt64}
    (hprobing : ∀ e ∈ probing, e.1.aboutProbe)
    (hnow : extractU64 nodeInfo ["now_seconds"] = .ok now) :
    KeepsSignature ctx input signedTxn
      (gateAnswers ctx signedTxn key retention record probing nodeInfo chainInfo observedAt ++ d) ↔
    now < signedTxn.rawTxn.expirationTimestampSecs ∧ NotStale ctx signedTxn d ∧
      NotRejected input d := by
  have hskip : ∀ {o : RpcOp}, (∀ b, o ≠ .probe b) → o ≠ .nodeInfo → o ≠ .chainInfoUncached →
      firstAnswer (.rpc o) (gateAnswers ctx signedTxn key retention record probing nodeInfo
        chainInfo observedAt ++ d) = firstAnswer (.rpc o) d := firstAnswer_afterGate hprobing
  have hexpired : NotExpired signedTxn (gateAnswers ctx signedTxn key retention record probing
      nodeInfo chainInfo observedAt ++ d) ↔ now < signedTxn.rawTxn.expirationTimestampSecs := by
    unfold NotExpired
    rw [firstAnswer_nodeInfo hprobing]
    refine ⟨fun h => h nodeInfo now rfl hnow, fun h nodeInfo' now' heq hnow' => ?_⟩
    obtain rfl := Except.ok.inj (Option.some.inj heq)
    rwa [← Except.ok.inj (hnow.symm.trans hnow')]
  unfold KeepsSignature NotStale NotRejected
  rw [firstAnswer_unresolved, hexpired, hskip, hskip, hskip]
  · simp
  all_goals intros; simp

end GateAnswers

/-! ## One submission -/

section Output

variable {ctx : AppContext} {polls : ℕ} {input : SubmitSignedTransactionInput}
variable {signedTxn : SignedUserTransaction} {record : Option PreparedTransactionRecord}
variable {key : List Char} {retention : Duration} {timeout : Option UInt64}

/-- Past the clock, the outcome is read off the answers `d` to come. -/
theorem meets_unexpired_output {t : List Event} {txnHash : String}
    {status : Option SimulationStatus} :
    Meets (fun _ _ => True) (fun t' r => ∃ d, t' = t ++ d ∧ ∀ out, r = .ok out →
      (out.nextAction ≠ .reprepareThenResign ↔ NotStale ctx signedTxn d ∧ NotRejected input d)) t
      (do
        if ← ctx.signedTransactionSequenceIsStale signedTxn then
          pure (rejectedSubmissionOutput txnHash status "sequence_number_stale" timeout)
        else ctx.sendSignedTransaction polls input txnHash status timeout) := by
  refine (meets_signedTransactionSequenceIsStale signedTxn).bind ?_ fun d e _ => ?_
  · rintro d stale (⟨next, state, hd, hstale⟩ | ⟨next, e, hd, hstale⟩)
    · obtain rfl := List.append_cancel_left hd
      cases stale with
      | true =>
        refine ⟨_, rfl, fun out hout => ?_⟩
        obtain rfl := Except.ok.inj hout
        exact ⟨fun h => (h rfl).elim, fun h => (notStale_of_answers.mp h.1 hstale.symm).elim⟩
      | false =>
        refine meets_sendSignedTransaction_output.imp_post ?_
        rintro _ r ⟨answer, rest, hd', -, hout⟩
        refine ⟨_, by rw [hd', List.append_assoc], fun out hr => ?_⟩
        rw [Ne, hout out hr, notRejected_of_answer (by simp [Op.isSubmission])]
        refine ⟨fun h => ⟨notStale_of_answers.mpr fun h' => ?_, h⟩, fun h => h.2⟩
        exact nomatch hstale.trans h'
    · obtain rfl := List.append_cancel_left hd
      cases stale with
      | true => exact (staleOutcome_error_ne_true hstale.symm).elim
      | false =>
        refine meets_sendSignedTransaction_output.imp_post ?_
        rintro _ r ⟨answer, rest, hd', hwatching, hout⟩
        refine ⟨_, by rw [hd', List.append_assoc], fun out hr => ?_⟩
        rw [Ne, hout out hr, notRejected_of_answer (by simp [Op.isSubmission])]
        -- without the account state there is nothing to be stale against
        refine ⟨fun h => ⟨notStale_of_unanswered fun e he heq => ?_, h⟩, fun h => h.2⟩
        rcases List.mem_append.mp he with he | he
        · rw [List.mem_singleton.mp he] at heq
          cases heq
        · rcases List.mem_cons.mp he with rfl | he
          · cases heq
          · have := hwatching e he
            rw [heq] at this
            cases this
  · exact ⟨d, rfl, fun out hout => nomatch hout⟩

/-- Past the unresolved ledger, the outcome is the one `KeepsSignature` tells. -/
theorem meets_submitResolved_output :
    Meets (fun _ _ => True) (fun t r => ∀ out, r = .ok out →
      (out.nextAction ≠ .reprepareThenResign ↔ KeepsSignature ctx input signedTxn t))
      [⟨.loc (.prunePrepared retention), ()⟩, ⟨.loc (.getPrepared key), record⟩,
        ⟨.loc (.pruneUnresolved retention), ()⟩,
        ⟨.loc (.containsUnresolved (ctx.vm.transactionId signedTxn)), false⟩]
      (ctx.submitResolved polls input signedTxn record timeout) := by
  unfold AppContext.submitResolved
  refine (AppContext.meets_ensureTransactionCapabilitiesCurrent.weaken fun _ _ _ => trivial).bind ?_
    fun _ _ _ _ h => nomatch h
  rintro d₁ _ ⟨probing, hd₁, hprobing⟩
  refine (AppContext.meets_loadTransactionEndpointSnapshot.weaken fun _ _ _ => trivial).bind ?_
    fun _ _ _ _ h => nomatch h
  intro d₂ snapshot hsnapshot
  obtain ⟨nodeInfo, chainInfo, observedAt, hd₂, hcheck, hcontext⟩ := hsnapshot snapshot rfl
  refine meets_lift_bind (fun _ _ => ?_) fun _ _ _ h => nomatch h
  have htrace : [⟨.loc (.prunePrepared retention), ()⟩, ⟨.loc (.getPrepared key), record⟩,
      ⟨.loc (.pruneUnresolved retention), ()⟩,
      ⟨.loc (.containsUnresolved (ctx.vm.transactionId signedTxn)), false⟩] ++ d₁ ++ d₂ =
      gateAnswers ctx signedTxn key retention record probing nodeInfo chainInfo observedAt := by
    rw [hd₂, hd₁, List.append_assoc]
    rfl
  rw [htrace]
  have hkeeps : ∀ d, KeepsSignature ctx input signedTxn (gateAnswers ctx signedTxn key retention
      record probing nodeInfo chainInfo observedAt ++ d) ↔
      snapshot.nowSeconds < signedTxn.rawTxn.expirationTimestampSecs ∧ NotStale ctx signedTxn d ∧
        NotRejected input d := fun _ =>
    keepsSignature_iff hprobing (snapshotFacts hcheck hcontext).nowSeconds
  split
  · next hexpired =>
    intro out hout
    obtain rfl := Except.ok.inj hout
    rw [← List.append_nil (gateAnswers ..), hkeeps]
    exact ⟨fun h => (h rfl).elim, fun h => (UInt64.not_lt.mpr hexpired h.1).elim⟩
  · next hexpired =>
    refine meets_unexpired_output.imp_post ?_
    rintro d r ⟨d', hd, hout⟩ out hr
    obtain rfl := List.append_cancel_left hd
    rw [hkeeps, hout out hr]
    exact ⟨fun h => ⟨UInt64.not_le.mp hexpired, h⟩, fun h => h.2⟩

theorem meets_submitSignedTransaction_output :
    Meets (fun _ _ => True) (fun t r => ∀ out, r = .ok out → ∃ signedTxn,
      ctx.decodeSignedTransaction input = .ok signedTxn ∧
      (out.nextAction ≠ .reprepareThenResign ↔ KeepsSignature ctx input signedTxn t))
      [] (ctx.submitSignedTransaction polls input) := by
  unfold AppContext.submitSignedTransaction
  refine meets_lift_bind (fun _ _ => ?_) fun _ _ _ h => nomatch h
  refine meets_lift_bind (fun signedTxn hdecoded => ?_) fun _ _ _ h => nomatch h
  refine meets_lift_bind (fun rawTxnBcsHex _ => ?_) fun _ _ _ h => nomatch h
  refine ((AppContext.meets_loadPreparedTransactionRecord _).weaken fun _ _ _ => trivial).bind ?_
    fun _ _ _ _ h => nomatch h
  rintro d₁ record ⟨retention, _, hretained, hd₁, hr⟩
  obtain rfl := Except.ok.inj hr
  refine ((AppContext.meets_hasUnresolvedSubmission _).weaken fun _ _ _ => trivial).bind ?_
    fun _ _ _ _ h => nomatch h
  rintro d₂ found ⟨_, _, hretained', hd₂, hr⟩
  obtain rfl := Except.ok.inj hr
  obtain rfl := Option.some.inj (hretained.symm.trans hretained')
  rw [hd₂, hd₁]
  cases found with
  | true =>
    intro out hout
    obtain rfl := Except.ok.inj hout
    refine ⟨signedTxn, hdecoded, fun _ => .inl ?_, fun _ h => nomatch h⟩
    simp [firstAnswer]
  | false =>
    show Meets _ _ _ (ctx.submitResolved polls input signedTxn record _)
    refine meets_submitResolved_output.imp_post fun d r h out hr => ?_
    exact ⟨signedTxn, hdecoded, h out hr⟩

/-- The answers of a submission that has returned. -/
theorem returned_output {s : Shared} {moves : List NodeMove} {i : ℕ}
    {out : SubmitSignedTransactionOutput} (hcall : (ctx.system.run s moves).calls[i]? =
      some (.submitSignedTransaction polls input, .ret (.submitted out))) :
    ∃ signedTxn, ctx.decodeSignedTransaction input = .ok signedTxn ∧
      (out.nextAction ≠ .reprepareThenResign ↔
        KeepsSignature ctx input signedTxn (traceOf i (ctx.system.run s moves).log)) := by
  have hmeets : Meets (fun _ _ => True) (fun t r => ∀ out, r = .ok (.submitted out) → ∃ signedTxn,
      ctx.decodeSignedTransaction input = .ok signedTxn ∧
      (out.nextAction ≠ .reprepareThenResign ↔ KeepsSignature ctx input signedTxn t)) []
      (ctx.program (.submitSignedTransaction polls input)) := by
    refine meets_submitSignedTransaction_output.bind ?_ fun _ _ _ _ h => nomatch h
    intro d out h out' hout'
    obtain rfl := ToolOutput.submitted.inj (Except.ok.inj hout')
    exact h out rfl
  have hfollowed : System.Followed ctx.system _ := System.followed_run s moves
  exact hmeets.steps (hfollowed.calls i _ _ hcall) out rfl

end Output

/-- What a txpool answers while it, or the chain, has the transaction. -/
def CountsPast (ctx : AppContext) (signedTxn : SignedUserTransaction) (t : List Event) : Prop :=
  ∃ next state, signedTxn.rawTxn.sequenceNumber < next ∧
    firstAnswer (.rpc (.nextSequenceNumber (ctx.vm.addressText signedTxn.rawTxn.sender))) t =
      some (.ok (some next)) ∧
    firstAnswer (.rpc (.getAccountState (ctx.vm.addressText signedTxn.rawTxn.sender))) t =
      some (.ok state)

theorem CountsPast.not_notStale {ctx : AppContext} {signedTxn : SignedUserTransaction}
    {t : List Event} (h : CountsPast ctx signedTxn t) : ¬ NotStale ctx signedTxn t := by
  obtain ⟨next, state, hlt, hnext, hstate⟩ := h
  exact fun hfresh => hfresh _ _ hnext hstate (staleOnAnswers_of_lt hlt)

/-- Whatever calls came before or run beside it, a submission spares the host a second signature
exactly under `KeepsSignature`; in particular, once the ledger has nothing on the hash, never for
a transaction whose own acceptance the txpool already counts. -/
theorem submission_keeps_signature (ctx : AppContext) (s : Shared) (moves : List NodeMove) {i polls : ℕ}
    {input : SubmitSignedTransactionInput} {out : SubmitSignedTransactionOutput}
    (hcall : (ctx.system.run s moves).calls[i]? =
      some (.submitSignedTransaction polls input, .ret (.submitted out))) :
    ∃ signedTxn, ctx.decodeSignedTransaction input = .ok signedTxn ∧
      (out.nextAction ≠ .reprepareThenResign ↔
        KeepsSignature ctx input signedTxn (traceOf i (ctx.system.run s moves).log)) ∧
      (firstAnswer (.loc (.containsUnresolved (ctx.vm.transactionId signedTxn)))
          (traceOf i (ctx.system.run s moves).log) ≠ some true →
        CountsPast ctx signedTxn (traceOf i (ctx.system.run s moves).log) →
        out.nextAction = .reprepareThenResign) := by
  obtain ⟨signedTxn, hdecoded, hiff⟩ := returned_output hcall
  refine ⟨signedTxn, hdecoded, hiff, fun hunresolved hpast => ?_⟩
  by_contra hne
  rcases hiff.mp hne with h | ⟨-, hfresh, -⟩
  · exact hunresolved h
  · exact hpast.not_notStale hfresh

namespace Sample

/-- The transfer is submitted again, now that the txpool has it and expects number 8 next. -/
def submitTwice : List NodeMove := simulateThenSubmit ++ .start submit :: answers 2 10 8

def twice : NodeWorld := ctx.system.run start submitTwice

/-- The submission that is call `i`, once it has returned. -/
def returned (w : NodeWorld) (i : ℕ) :
    Option (ℕ × SubmitSignedTransactionInput × SubmitSignedTransactionOutput) :=
  match w.calls[i]? with
  | some (.submitSignedTransaction polls input, .ret (.submitted out)) => some (polls, input, out)
  | _ => none

theorem calls_of_returned {w : NodeWorld} {i polls : ℕ} {input : SubmitSignedTransactionInput}
    {out : SubmitSignedTransactionOutput} (h : returned w i = some (polls, input, out)) :
    w.calls[i]? = some (.submitSignedTransaction polls input, .ret (.submitted out)) := by
  unfold returned at h
  split at h
  · next hcall =>
    cases h
    exact hcall
  · cases h

/-- Both submissions are of the sample transfer; the first is accepted, the second is not. -/
theorem returned_twice : ∃ polls₁ input₁ out₁ polls₂ input₂ out₂,
    returned twice 1 = some (polls₁, input₁, out₁) ∧
    returned twice 2 = some (polls₂, input₂, out₂) ∧
    input₁.signedTxnBcsHex = signedHex ∧ input₂.signedTxnBcsHex = signedHex ∧
    out₁.submissionState = .accepted ∧ out₂.submissionState = .rejected ∧
    out₂.nextAction = .reprepareThenResign := by
  have hboth : ((returned twice 1).bind fun r₁ => (returned twice 2).map fun r₂ =>
      (r₁.2.1.signedTxnBcsHex, r₂.2.1.signedTxnBcsHex, r₁.2.2.submissionState,
        r₂.2.2.submissionState, r₂.2.2.nextAction)) =
      some (signedHex, signedHex, .accepted, .rejected, .reprepareThenResign) := by decide +kernel
  obtain ⟨⟨polls₁, input₁, out₁⟩, h₁, hboth⟩ := Option.bind_eq_some_iff.mp hboth
  obtain ⟨⟨polls₂, input₂, out₂⟩, h₂, hboth⟩ := Option.map_eq_some_iff.mp hboth
  simp only [Prod.mk.injEq] at hboth
  exact ⟨_, _, _, _, _, _, h₁, h₂, hboth⟩

/-- While the second one runs, the txpool counts on from the transfer. -/
theorem countsPast_twice : CountsPast ctx signed (traceOf 2 twice.log) := by
  have hnext : ((firstAnswer (.rpc (.nextSequenceNumber (addressText alice)))
      (traceOf 2 twice.log)).map Except.toOption) = some (some (some 8)) := by decide +kernel
  have hstate : ((firstAnswer (.rpc (.getAccountState (addressText alice)))
      (traceOf 2 twice.log)).map Except.isOk) = some true := by decide +kernel
  obtain ⟨next, hfound, hnext⟩ := Option.map_eq_some_iff.mp hnext
  obtain ⟨state, hfound', hstate⟩ := Option.map_eq_some_iff.mp hstate
  cases next with
  | error e => cases hnext
  | ok next =>
    obtain rfl := Option.some.inj hnext
    cases state with
    | error e => cases hstate
    | ok state => exact ⟨8, state, by decide, hfound, hfound'⟩

end Sample

theorem submission_keeps_signature_twice : ∃ polls input out,
    Sample.twice.calls[2]? = some (.submitSignedTransaction polls input, .ret (.submitted out)) ∧
    ∃ signedTxn, Sample.ctx.decodeSignedTransaction input = .ok signedTxn ∧
      (out.nextAction ≠ .reprepareThenResign ↔
        KeepsSignature Sample.ctx input signedTxn (traceOf 2 Sample.twice.log)) := by
  obtain ⟨_, _, _, polls, input, out, -, hreturned, -⟩ := Sample.returned_twice
  have hcall := Sample.calls_of_returned hreturned
  obtain ⟨signedTxn, hdecoded, hiff, -⟩ :=
    submission_keeps_signature Sample.ctx Sample.start Sample.submitTwice hcall
  exact ⟨polls, input, out, hcall, signedTxn, hdecoded, hiff⟩

/-- The endpoint accepts the transfer; submitted once more, it is to be signed anew. -/
theorem accepted_then_sent_back : ∃ polls₁ input₁ out₁ polls₂ input₂ out₂,
    Sample.twice.calls[1]? =
      some (.submitSignedTransaction polls₁ input₁, .ret (.submitted out₁)) ∧
    Sample.twice.calls[2]? =
      some (.submitSignedTransaction polls₂ input₂, .ret (.submitted out₂)) ∧
    input₁.signedTxnBcsHex = Sample.signedHex ∧ input₂.signedTxnBcsHex = Sample.signedHex ∧
    out₁.submissionState = .accepted ∧
    CountsPast Sample.ctx Sample.signed (traceOf 2 Sample.twice.log) ∧
    out₂.submissionState = .rejected ∧ out₂.nextAction = .reprepareThenResign := by
  obtain ⟨polls₁, input₁, out₁, polls₂, input₂, out₂, h₁, h₂, hhex₁, hhex₂, haccepted, hrejected,
    hagain⟩ := Sample.returned_twice
  exact ⟨polls₁, input₁, out₁, polls₂, input₂, out₂, Sample.calls_of_returned h₁,
    Sample.calls_of_returned h₂, hhex₁, hhex₂, haccepted, Sample.countsPast_twice, hrejected, hagain⟩

end StarcoinMcp.Node
