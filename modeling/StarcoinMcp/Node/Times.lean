import StarcoinMcp.Node.Gate

/-! Times that are added up: the expiration of a prepared transaction, the deadline of a watch
and the age at which a record is pruned. Preparing takes the node time itself as an expiration
that is not yet over, submitting takes it as one that is. -/

namespace StarcoinMcp.Node

open Prog

theorem Duration.toNat_asSecs (d : Duration) : d.asSecs.toNat = d.nanos / 10 ^ 9 := by
  have hbound := d.bound
  unfold Duration.asSecs
  rw [UInt64.toNat_ofNat', Nat.mod_eq_of_lt (by omega)]

theorem toNat_min (a b : UInt64) : (min a b).toNat = min a.toNat b.toNat := by
  have hdef : min a b = if a ≤ b then a else b := rfl
  rw [hdef]
  split
  next h =>
    have hle := UInt64.le_iff_toNat_le.mp h
    omega
  next h =>
    have hlt := UInt64.lt_iff_toNat_lt.mp (UInt64.not_le.mp h)
    omega

/-! ## Expirations -/

namespace AppContext

variable {ctx : AppContext} {t e : UInt64} {requested : Option UInt64}

/-- What is asked for lasts beyond `t`. -/
def Outlasts (ctx : AppContext) (t : UInt64) : Option UInt64 → Prop
  | some value => t < value ∧ 1 ≤ ctx.config.maxExpirationTtl.asSecs
  | none => t.toNat < 2 ^ 64 - 1 ∧ 1 ≤ ctx.config.defaultExpirationTtl.asSecs

theorem ttl_le_of_validate {config : RuntimeConfig} (h : config.validate = .ok ()) :
    config.defaultExpirationTtl.asSecs.toNat ≤ config.maxExpirationTtl.asSecs.toNat := by
  unfold RuntimeConfig.validate at h
  obtain ⟨_, -, h₁⟩ := bind_eq_ok h
  obtain ⟨_, -, h₂⟩ := bind_eq_ok h₁
  unfold RuntimeConfig.validateClamps at h₂
  obtain ⟨hle, -⟩ := guard_eq_ok h₂
  rw [Duration.toNat_asSecs, Duration.toNat_asSecs]
  exact Nat.div_le_div_right (not_lt.mp hle)

theorem lt_resolveExpiration_iff (h : ctx.resolveExpiration t requested = .ok e) :
    t < e ↔ ctx.Outlasts t requested := by
  have ht := t.toNat_lt
  unfold resolveExpiration at h
  cases requested with
  | some value =>
    simp only at h
    split at h
    next => cases h
    next hge =>
      cases h
      have hle := UInt64.le_iff_toNat_le.mp (UInt64.not_lt.mp hge)
      have hvalue := value.toNat_lt
      have hone : (1 : UInt64).toNat = 1 := rfl
      show t < min value (saturatingAdd t ctx.config.maxExpirationTtl.asSecs) ↔
        t < value ∧ 1 ≤ ctx.config.maxExpirationTtl.asSecs
      rw [UInt64.lt_iff_toNat_lt, UInt64.lt_iff_toNat_lt, UInt64.le_iff_toNat_le, toNat_min,
        toNat_saturatingAdd]
      omega
  | none =>
    cases h
    have hone : (1 : UInt64).toNat = 1 := rfl
    show t < saturatingAdd t ctx.config.defaultExpirationTtl.asSecs ↔
      t.toNat < 2 ^ 64 - 1 ∧ 1 ≤ ctx.config.defaultExpirationTtl.asSecs
    rw [UInt64.lt_iff_toNat_lt, UInt64.le_iff_toNat_le, toNat_saturatingAdd]
    omega

theorem resolveExpiration_le (hvalid : ctx.config.validate = .ok ())
    (h : ctx.resolveExpiration t requested = .ok e) :
    e ≤ saturatingAdd t ctx.config.maxExpirationTtl.asSecs := by
  have httl := ttl_le_of_validate hvalid
  unfold resolveExpiration at h
  cases requested with
  | some value =>
    simp only at h
    split at h
    next => cases h
    next =>
      cases h
      rw [UInt64.le_iff_toNat_le, toNat_min]
      exact Nat.min_le_right ..
  | none =>
    cases h
    rw [UInt64.le_iff_toNat_le, toNat_saturatingAdd, toNat_saturatingAdd]
    omega

end AppContext

/-! ## The node time of a call -/

/-- The node time of a call is what the first answer to `node.info` says. -/
def NodeTime (d : List Event) (t : UInt64) : Prop :=
  ∃ nodeInfo, firstAnswer (.rpc .nodeInfo) d = some (.ok nodeInfo) ∧
    extractU64 nodeInfo ["now_seconds"] = .ok t

section Time

variable {ctx : AppContext} {d d' : List Event} {t t' : UInt64}

theorem NodeTime.unique (h : NodeTime d t) (h' : NodeTime d t') : t = t' := by
  obtain ⟨nodeInfo, hfirst, ht⟩ := h
  obtain ⟨nodeInfo', hfirst', ht'⟩ := h'
  cases hfirst.symm.trans hfirst'
  exact Except.ok.inj (ht.symm.trans ht')

theorem NodeTime.append (h : NodeTime d t) (d' : List Event) : NodeTime (d ++ d') t := by
  obtain ⟨nodeInfo, hfirst, ht⟩ := h
  exact ⟨nodeInfo, firstAnswer_append_of_some hfirst d', ht⟩

theorem NodeTime.after (h : NodeTime d t) (hd : ∀ x ∈ d', x.1 ≠ .rpc .nodeInfo) :
    NodeTime (d' ++ d) t := by
  obtain ⟨nodeInfo, hfirst, ht⟩ := h
  exact ⟨nodeInfo, by rw [firstAnswer_append_of_not_mem hd, hfirst], ht⟩

theorem NodeTime.of_after (h : NodeTime (d' ++ d) t) (hd : ∀ x ∈ d', x.1 ≠ .rpc .nodeInfo) :
    NodeTime d t := by
  obtain ⟨nodeInfo, hfirst, ht⟩ := h
  exact ⟨nodeInfo, by rw [← hfirst, firstAnswer_append_of_not_mem hd], ht⟩

theorem nodeTime_snapshot {snapshot : TransactionEndpointSnapshot}
    (h : Ended ctx.loadTransactionEndpointSnapshot d (.ok snapshot)) : NodeTime d snapshot.nowSeconds := by
  obtain ⟨nodeInfo, chainInfo, observedAt, hd, hcheck, hcontext⟩ :=
    (AppContext.meets_loadTransactionEndpointSnapshot (t := [])).ended h snapshot rfl
  rw [List.nil_append, List.nil_append] at hd
  subst hd
  exact ⟨nodeInfo, firstAnswer_cons_self, (snapshotFacts hcheck hcontext).nowSeconds⟩

theorem not_nodeInfo_of_aboutProbe {x : Event} (h : x.1.aboutProbe = true) : x.1 ≠ .rpc .nodeInfo := by
  intro heq
  rw [heq] at h
  cases h

/-- The node time of a call that checks the endpoint's methods first. -/
theorem NodeTime.afterProbe (h : NodeTime d t)
    (hprobe : Ended ctx.ensureTransactionCapabilitiesCurrent d' (.ok ())) : NodeTime (d' ++ d) t :=
  h.after fun x hx =>
    not_nodeInfo_of_aboutProbe (hprobe.asked AppContext.asks_ensureTransactionCapabilitiesCurrent x hx)

end Time

/-! ## Preparing -/

/-- The raw transaction of the result, and when it was prepared. -/
structure Prepared (ctx : AppContext) (requested : Option UInt64) (d : List Event)
    (result : PreparationResult) : Prop where
  raw : ∃ raw, encodeHexBcs ctx.vm raw = .ok result.rawTxnBcsHex ∧
    raw.expirationTimestampSecs = result.executionFacts.expirationTimestampSecs
  expiration : ∃ t, NodeTime d t ∧
    ctx.resolveExpiration t requested = .ok result.executionFacts.expirationTimestampSecs

theorem Prepared.around {ctx : AppContext} {requested : Option UInt64} {d d₁ : List Event}
    {result : PreparationResult} (h : Prepared ctx requested d result)
    (hd : ∀ x ∈ d₁, x.1 ≠ .rpc .nodeInfo) (d₂ : List Event) :
    Prepared ctx requested (d₁ ++ d ++ d₂) result := by
  obtain ⟨t, ht, hexpiration⟩ := h.expiration
  exact ⟨h.raw, t, (ht.after hd).append d₂, hexpiration⟩

theorem prepareTransaction_prepared {ctx : AppContext} {sender : AccountAddress} {options : PrepareOptions}
    {payload : TransactionPayload} {kind : TransactionKind} {summary : Value}
    {details : Option AppContext.PreparedTransferDetails} {d : List Event} {result : PreparationResult}
    (h : Ended (ctx.prepareTransaction sender options payload kind summary details) d (.ok result)) :
    Prepared ctx options.expirationTimeSecs d result := by
  unfold AppContext.prepareTransaction clock at h
  obtain ⟨_, -, h₁⟩ := h.of_lift_bind_ok
  obtain ⟨_, d₁, d₂, rfl, hprobe, h₂⟩ := h₁.of_bind_ok
  obtain ⟨snapshot, d₃, d₄, rfl, hsnapshot, h₃⟩ := h₂.of_bind_ok
  obtain ⟨sequence, d₅, d₆, rfl, -, h₄⟩ := h₃.of_bind_ok
  obtain ⟨gasPrice, d₇, d₈, rfl, -, h₅⟩ := h₄.of_bind_ok
  obtain ⟨expiration, hexpiration, h₆⟩ := h₅.of_lift_bind_ok
  obtain ⟨gasToken, -, h₇⟩ := h₆.of_lift_bind_ok
  obtain ⟨hex, hhex, h₈⟩ := h₇.of_lift_bind_ok
  obtain ⟨view, -, h₉⟩ := h₈.of_lift_bind_ok
  obtain ⟨preparedAt, d₉, rfl, h₁₀⟩ := ended_ask_bind.mp h₉
  obtain ⟨simulation, d₁₁, d₁₂, rfl, -, h₁₁⟩ := h₁₀.of_bind_ok
  obtain ⟨_, d₁₃, d₁₄, rfl, -, h₁₂⟩ := h₁₁.of_bind_ok
  obtain ⟨rfl, hresult⟩ := ended_pure.mp h₁₂
  cases hresult
  exact ⟨⟨_, hhex, rfl⟩, snapshot.nowSeconds,
    ((nodeTime_snapshot hsnapshot).append _).afterProbe hprobe, hexpiration⟩

/-- The expiration that a call to prepare a transaction asks for. -/
def ToolCall.requestedExpiration : ToolCall → Option UInt64
  | .prepareTransfer input => input.expirationTimeSecs
  | .prepareContractCall input => input.expirationTimeSecs
  | .preparePublishPackage input => input.expirationTimeSecs
  | _ => none

section Tools

variable {ctx : AppContext} {d : List Event} {result : PreparationResult}

theorem prepareTransfer_prepared {input : PrepareTransferInput}
    (h : Ended (ctx.prepareTransfer input) d (.ok result)) :
    Prepared ctx input.expirationTimeSecs d result := by
  unfold AppContext.prepareTransfer at h
  obtain ⟨sender, -, h₁⟩ := h.of_lift_bind_ok
  obtain ⟨receiver, -, h₂⟩ := h₁.of_lift_bind_ok
  obtain ⟨amount, -, h₃⟩ := h₂.of_lift_bind_ok
  obtain ⟨tokenCode, -, h₄⟩ := h₃.of_lift_bind_ok
  obtain ⟨payload, -, h₅⟩ := h₄.of_lift_bind_ok
  exact prepareTransaction_prepared h₅

theorem prepareContractCall_prepared {input : PrepareContractCallInput}
    (h : Ended (ctx.prepareContractCall input) d (.ok result)) :
    Prepared ctx input.expirationTimeSecs d result := by
  unfold AppContext.prepareContractCall at h
  obtain ⟨sender, -, h₁⟩ := h.of_lift_bind_ok
  obtain ⟨payload, -, h₂⟩ := h₁.of_lift_bind_ok
  exact prepareTransaction_prepared h₂

theorem preparePublishPackage_prepared {input : PreparePublishPackageInput}
    (h : Ended (ctx.preparePublishPackage input) d (.ok result)) :
    Prepared ctx input.expirationTimeSecs d result := by
  unfold AppContext.preparePublishPackage AppContext.tryExpensivePermit loc at h
  obtain ⟨_, d₁, d₂, rfl, hpermit, h₁⟩ := h.of_bind_ok
  obtain ⟨outcome, d₃, d₄, rfl, hbody, h₂⟩ := h₁.of_bind_ok
  obtain ⟨_, d₅, rfl, h₃⟩ := ended_ask_bind.mp h₂
  obtain ⟨rfl, houtcome⟩ := ended_lift.mp h₃
  obtain ⟨r, hr, hended⟩ := hbody.of_attempt
  cases hr
  subst houtcome
  have hpermitted : ∀ x ∈ d₁, x.1 ≠ .rpc .nodeInfo := by
    obtain ⟨granted, d₆, rfl, hrest⟩ := ended_ask_bind.mp hpermit
    cases granted with
    | false => cases hrest
    | true =>
      obtain ⟨rfl, -⟩ := ended_pure.mp hrest
      intro x hx
      rw [List.mem_singleton.mp hx]
      exact nofun
  have hprepared : Prepared ctx input.expirationTimeSecs d₃ result := by
    unfold AppContext.preparePublishPackageBody at hended
    simp only at hended
    split at hended
    next => cases hended
    next =>
      obtain ⟨sender, -, h₄⟩ := hended.of_lift_bind_ok
      obtain ⟨bytes, -, h₅⟩ := h₄.of_lift_bind_ok
      obtain ⟨package, -, h₆⟩ := h₅.of_lift_bind_ok
      exact prepareTransaction_prepared h₆
  rw [← List.append_assoc]
  exact hprepared.around hpermitted _

theorem ended_map_ok {α β : Type} {p : Call α} {f : α → β} {b : β}
    (h : Ended (do return f (← p)) d (.ok b)) : ∃ a, Ended p d (.ok a) ∧ b = f a := by
  obtain ⟨a, d₁, d₂, rfl, hp, h₁⟩ := h.of_bind_ok
  obtain ⟨rfl, hb⟩ := ended_pure.mp h₁
  rw [List.append_nil]
  exact ⟨a, hp, Except.ok.inj hb⟩

/-- Each of the tools that answer with a raw transaction. -/
theorem program_prepared {call : ToolCall} (h : Ended (ctx.program call) d (.ok (.prepared result))) :
    Prepared ctx call.requestedExpiration d result := by
  cases call with
  | prepareTransfer input =>
    obtain ⟨_, hcall, hresult⟩ := ended_map_ok h
    cases hresult
    exact prepareTransfer_prepared hcall
  | prepareContractCall input =>
    obtain ⟨_, hcall, hresult⟩ := ended_map_ok h
    cases hresult
    exact prepareContractCall_prepared hcall
  | preparePublishPackage input =>
    obtain ⟨_, hcall, hresult⟩ := ended_map_ok h
    cases hresult
    exact preparePublishPackage_prepared hcall
  | simulateRawTransaction input =>
    obtain ⟨_, -, hresult⟩ := ended_map_ok h
    cases hresult
  | watchTransaction polls input =>
    obtain ⟨_, -, hresult⟩ := ended_map_ok h
    cases hresult
  | submitSignedTransaction polls input =>
    obtain ⟨_, -, hresult⟩ := ended_map_ok h
    cases hresult

end Tools

/-! ## Submitting -/

/-- The endpoint itself said that the transaction has expired. -/
def EndpointSaysExpired (d : List Event) : Prop :=
  ∃ hex error, (⟨.rpc (.submitSignedTransaction hex), .error error⟩ : Event) ∈ d ∧
    error.code = .transactionExpired

section Submission

variable {ctx : AppContext} {d d' : List Event} {n : ℕ} {input : SubmitSignedTransactionInput}
  {signed : SignedUserTransaction} {out : SubmitSignedTransactionOutput} {t : UInt64}

theorem EndpointSaysExpired.after (h : EndpointSaysExpired d) : EndpointSaysExpired (d' ++ d) := by
  obtain ⟨hex, error, hmem, hcode⟩ := h
  exact ⟨hex, error, List.mem_append_right _ hmem, hcode⟩

theorem sendSignedTransaction_expired {txnHash : String} {status : Option SimulationStatus}
    {timeout : Option UInt64}
    (h : Ended (ctx.sendSignedTransaction n input txnHash status timeout) d (.ok out))
    (hcode : out.errorCode = some "transaction_expired") : EndpointSaysExpired d := by
  unfold AppContext.sendSignedTransaction rpc at h
  obtain ⟨answer, d₁, rfl, h₁⟩ := ended_ask_bind.mp h
  cases answer with
  | ok hash =>
    obtain ⟨watch, d₂, d₃, rfl, -, h₂⟩ := h₁.of_bind_ok
    obtain ⟨rfl, hout⟩ := ended_pure.mp h₂
    cases hout
    cases hcode
  | error error =>
    simp only at h₁
    split at h₁
    next =>
      obtain ⟨_, d₂, d₃, rfl, -, h₂⟩ := h₁.of_bind_ok
      obtain ⟨rfl, hout⟩ := ended_pure.mp h₂
      cases hout
      have hname : some "submission_unknown" = some "transaction_expired" := hcode
      exact absurd hname (by decide)
    next =>
      split at h₁
      next hrejected =>
        refine ⟨_, error, List.mem_cons_self .., ?_⟩
        rcases hrejected with hexpired | hstale
        · exact hexpired
        · obtain ⟨rfl, hout⟩ := ended_pure.mp h₁
          cases hout
          have hname : some (sharedErrorCodeName error.code) = some "transaction_expired" := hcode
          rw [hstale] at hname
          exact absurd hname (by decide)
      next => cases h₁

theorem submitResolved_expired {record : Option PreparedTransactionRecord} {timeout : Option UInt64}
    (ht : t < signed.rawTxn.expirationTimestampSecs)
    (h : Ended (ctx.submitResolved n input signed record timeout) d (.ok out)) (htime : NodeTime d t)
    (hcode : out.errorCode = some "transaction_expired") : EndpointSaysExpired d := by
  unfold AppContext.submitResolved at h
  obtain ⟨_, d₁, d₂, rfl, hprobe, h₁⟩ := h.of_bind_ok
  obtain ⟨snapshot, d₃, d₄, rfl, hsnapshot, h₂⟩ := h₁.of_bind_ok
  obtain ⟨_, -, h₃⟩ := h₂.of_lift_bind_ok
  have hnow : t = snapshot.nowSeconds :=
    htime.unique (((nodeTime_snapshot hsnapshot).append d₄).afterProbe hprobe)
  split at h₃
  next hlate =>
    rw [← hnow] at hlate
    exact absurd ht (UInt64.not_lt.mpr hlate)
  next =>
    obtain ⟨stale, d₅, d₆, rfl, -, h₄⟩ := h₃.of_bind_ok
    split at h₄
    next =>
      obtain ⟨rfl, hout⟩ := ended_pure.mp h₄
      cases hout
      have hname : some "sequence_number_stale" = some "transaction_expired" := hcode
      exact absurd hname (by decide)
    next => exact (((sendSignedTransaction_expired h₄ hcode).after).after).after

/-- A submission at a node time before the expiration is not refused as expired, except by the
endpoint. -/
theorem submitSignedTransaction_expired (hdecode : ctx.decodeSignedTransaction input = .ok signed)
    (ht : t < signed.rawTxn.expirationTimestampSecs)
    (h : Ended (ctx.submitSignedTransaction n input) d (.ok out)) (htime : NodeTime d t)
    (hcode : out.errorCode = some "transaction_expired") : EndpointSaysExpired d := by
  unfold AppContext.submitSignedTransaction at h
  obtain ⟨_, -, h₁⟩ := h.of_lift_bind_ok
  obtain ⟨signed', hsigned, h₂⟩ := h₁.of_lift_bind_ok
  obtain rfl := Except.ok.inj (hdecode.symm.trans hsigned)
  obtain ⟨hex, -, h₃⟩ := h₂.of_lift_bind_ok
  obtain ⟨record, d₁, d₂, rfl, hrecord, h₄⟩ := h₃.of_bind_ok
  obtain ⟨found, d₃, d₄, rfl, hfound, h₅⟩ := h₄.of_bind_ok
  split at h₅
  next =>
    obtain ⟨rfl, hout⟩ := ended_pure.mp h₅
    cases hout
    have hname : some "submission_unknown" = some "transaction_expired" := hcode
    exact absurd hname (by decide)
  next =>
    refine (EndpointSaysExpired.after ?_).after
    refine submitResolved_expired ht h₅ ?_ hcode
    -- the two ledgers are asked before the endpoint is
    have hledgers : ∀ x ∈ d₁ ++ d₃, x.1 ≠ .rpc .nodeInfo := by
      obtain ⟨_, _, -, hd₁, -⟩ := (AppContext.meets_loadPreparedTransactionRecord (t := []) _).ended hrecord
      obtain ⟨_, _, -, hd₃, -⟩ := (AppContext.meets_hasUnresolvedSubmission (t := []) _).ended hfound
      simp only [List.nil_append] at hd₁ hd₃
      rw [hd₁, hd₃]
      intro x hx
      simp only [List.cons_append, List.nil_append, List.mem_cons, List.not_mem_nil, or_false] at hx
      rcases hx with rfl | rfl | rfl | rfl <;> exact nofun
    rw [← List.append_assoc] at htime
    exact htime.of_after hledgers

end Submission

/-- A transaction that expires at `e` can be submitted at the node time `t`: the expiration is in
range, and no submission there is answered with `transaction_expired` on this side. -/
structure AppContext.Submittable (ctx : AppContext) (t e : UInt64) : Prop where
  after : t < e
  within : e ≤ saturatingAdd t ctx.config.maxExpirationTtl.asSecs
  accepted : ∀ n input signed d out, ctx.decodeSignedTransaction input = .ok signed →
    signed.rawTxn.expirationTimestampSecs = e →
    Ended (ctx.submitSignedTransaction n input) d (.ok out) → NodeTime d t →
    out.errorCode = some "transaction_expired" → EndpointSaysExpired d

/-- What was prepared at the node time `t` can be submitted at `t` just when the expiration that was
asked for, or the default one, lasts beyond `t`. -/
theorem prepared_submittable_iff (ctx : AppContext) (hvalid : ctx.config.validate = .ok ())
    (call : ToolCall) (d : List Event) (result : PreparationResult) (t : UInt64)
    (h : Ended (ctx.program call) d (.ok (.prepared result))) (ht : NodeTime d t) :
    (∃ raw, encodeHexBcs ctx.vm raw = .ok result.rawTxnBcsHex ∧
        raw.expirationTimestampSecs = result.executionFacts.expirationTimestampSecs) ∧
      (ctx.Submittable t result.executionFacts.expirationTimestampSecs ↔
        ctx.Outlasts t call.requestedExpiration) := by
  have hprepared := program_prepared h
  refine ⟨hprepared.raw, ?_⟩
  obtain ⟨t', ht', hexpiration⟩ := hprepared.expiration
  obtain rfl := ht.unique ht'
  constructor
  · intro hsubmittable
    exact (AppContext.lt_resolveExpiration_iff hexpiration).mp hsubmittable.after
  · intro hlasts
    have hafter := (AppContext.lt_resolveExpiration_iff hexpiration).mpr hlasts
    constructor
    · exact hafter
    · exact AppContext.resolveExpiration_le hvalid hexpiration
    · intro n input signed d' out hdecode he hended htime hcode
      rw [← he] at hafter
      exact submitSignedTransaction_expired hdecode hafter hended htime hcode

namespace Sample

/-- Five units from `alice` to `bob`, with the expiration that is asked for. -/
def transferInput (expiration : Option UInt64) : PrepareTransferInput where
  sender := addressText alice
  receiver := addressText bob
  amount := "5"
  tokenCode := none
  senderPublicKey := some "0x07"
  sequenceNumber := some 7
  maxGasAmount := none
  gasUnitPrice := none
  expirationTimeSecs := expiration
  gasToken := none

/-- The node time is 2000, and the transfer was simulated. -/
def atExpiration : (o : Op) → o.Ans
  | .rpc .nodeInfo =>
    .ok (.object [("net", .string "main"), ("now_seconds", .number (.posInt 2000))])
  | .rpc .chainInfoUncached =>
    .ok (.object [("chain_id", .number (.posInt 1)),
      ("genesis_hash",
        .string "0x80848150abee7e9a3bfe9542a019eb0b8b01f124b63b011f9c338fdb935c417d"),
      ("head", .object [("block_hash", .string "0x01"), ("number", .string "100"),
        ("timestamp", .string "1990")])])
  | .loc (.getPrepared key) => some ⟨key, .performed, chainContext, 0⟩
  | o => reply 7 o

/-- What the tool answers with, and the node time. -/
def prepareAt (answers : (o : Op) → o.Ans) (expiration : Option UInt64) :
    Option (List Event × Except SharedError ToolOutput) :=
  (ctx.program (.prepareTransfer (transferInput expiration))).answeredBy answers

def expirationOf : Except SharedError ToolOutput → Option UInt64
  | .ok (.prepared result) => some result.executionFacts.expirationTimestampSecs
  | _ => none

def nodeTimeOf (d : List Event) : Option UInt64 :=
  (firstAnswer (.rpc .nodeInfo) d : Option (Except SharedError Value)).bind fun answer =>
    answer.toOption.bind fun nodeInfo => (extractU64 nodeInfo ["now_seconds"]).toOption

theorem nodeTime_of_eq {d : List Event} {t : UInt64} (h : nodeTimeOf d = some t) : NodeTime d t := by
  obtain ⟨answer, hfirst, h₁⟩ := Option.bind_eq_some_iff.mp h
  cases answer with
  | error e => cases h₁
  | ok nodeInfo =>
    have h₂ : (extractU64 nodeInfo ["now_seconds"]).toOption = some t := h₁
    refine ⟨nodeInfo, hfirst, ?_⟩
    cases htime : extractU64 nodeInfo ["now_seconds"] with
    | error e =>
      rw [htime] at h₂
      cases h₂
    | ok t' =>
      rw [htime] at h₂
      cases h₂
      rfl

theorem prepared_of_prepareAt {answers : (o : Op) → o.Ans} {expiration : Option UInt64} {t e : UInt64}
    (h : (prepareAt answers expiration).map (fun (d, r) => (nodeTimeOf d, expirationOf r)) =
      some (some t, some e)) :
    ∃ d result, Ended (ctx.program (.prepareTransfer (transferInput expiration))) d
      (.ok (.prepared result)) ∧
      NodeTime d t ∧ result.executionFacts.expirationTimestampSecs = e := by
  obtain ⟨⟨d, r⟩, hrun, hr⟩ := Option.map_eq_some_iff.mp h
  obtain ⟨htime, hexpiration⟩ := Prod.mk.inj hr
  have hended := ended_of_answeredBy hrun
  clear hrun h
  cases r with
  | error error => cases hexpiration
  | ok output =>
    cases output with
    | prepared result => exact ⟨d, result, hended, nodeTime_of_eq htime, Option.some.inj hexpiration⟩
    | simulated output => cases hexpiration
    | watched output => cases hexpiration
    | submitted output => cases hexpiration

end Sample

open Sample in
theorem prepared_submittable_default : ∃ d result,
    Ended (ctx.program (.prepareTransfer (transferInput none))) d (.ok (.prepared result)) ∧
      NodeTime d 1000 ∧ result.executionFacts.expirationTimestampSecs = 1600 ∧
      ctx.Submittable 1000 result.executionFacts.expirationTimestampSecs := by
  have hrun : (prepareAt (reply 7) none).map (fun (d, r) => (nodeTimeOf d, expirationOf r)) =
      some (some 1000, some 1600) := by decide +kernel
  obtain ⟨d, result, hended, htime, hexpiration⟩ := prepared_of_prepareAt hrun
  refine ⟨d, result, hended, htime, hexpiration, ?_⟩
  have hvalid : ctx.config.validate = .ok () := by decide +kernel
  exact (prepared_submittable_iff ctx hvalid _ d result 1000 hended htime).2.mpr
    (show _ ∧ _ from ⟨by decide, by decide +kernel⟩)

open Sample in
/-- A transfer is prepared at the node time 2000 with the expiration 2000, and submitted then. -/
theorem prepared_is_expired :
    (∃ d result, Ended (ctx.program (.prepareTransfer (transferInput (some 2000)))) d
      (.ok (.prepared result)) ∧
      NodeTime d 2000 ∧ result.executionFacts.expirationTimestampSecs = 2000 ∧
      ¬ ctx.Submittable 2000 result.executionFacts.expirationTimestampSecs) ∧
    ctx.config.validate = .ok () ∧
    (ctx.decodeSignedTransaction submission).toOption.map (·.rawTxn.expirationTimestampSecs) = some 2000 ∧
    (∃ d out, Ended (ctx.submitSignedTransaction 0 submission) d (.ok out) ∧ NodeTime d 2000 ∧
      out.errorCode = some "transaction_expired" ∧ ∀ x ∈ d, x.1.isSubmission = false) := by
  have hprepared : (prepareAt atExpiration (some 2000)).map (fun (d, r) => (nodeTimeOf d, expirationOf r)) =
      some (some 2000, some 2000) := by decide +kernel
  have hsubmitted : ((ctx.submitSignedTransaction 0 submission).answeredBy atExpiration).map
      (fun (d, r) => (nodeTimeOf d, r.toOption.map (·.errorCode), d.all fun x => !x.1.isSubmission)) =
      some (some 2000, some (some "transaction_expired"), true) := by decide +kernel
  refine ⟨?_, by decide +kernel, by decide +kernel, ?_⟩
  · obtain ⟨d, result, hended, htime, hexpiration⟩ := prepared_of_prepareAt hprepared
    refine ⟨d, result, hended, htime, hexpiration, ?_⟩
    rw [hexpiration]
    intro hsubmittable
    exact absurd hsubmittable.after (by decide)
  · obtain ⟨⟨d, r⟩, hrun, hr⟩ := Option.map_eq_some_iff.mp hsubmitted
    simp only [Prod.mk.injEq] at hr
    obtain ⟨htime, hcode, hall⟩ := hr
    have hended := ended_of_answeredBy hrun
    clear hrun hsubmitted
    cases r with
    | error error => cases hcode
    | ok out =>
      refine ⟨d, out, hended, nodeTime_of_eq htime, Option.some.inj hcode, ?_⟩
      intro x hx
      simpa using List.all_eq_true.mp hall x hx

/-! ## Sums that may leave their range -/

namespace AppContext

variable {ctx : AppContext}

/-- No sum of times leaves its range: the deadline of a watch is not wrapped, and neither pruning
nor any tool that prunes panics. -/
structure TimesFit (ctx : AppContext) : Prop where
  deadline : ∀ (input : WatchTransactionInput) (now : UInt64), now.toNat < 2 ^ 63 →
    (now + ctx.effectiveWatchTimeoutSeconds input).toNat =
      now.toNat + (ctx.effectiveWatchTimeoutSeconds input).toNat
  prunePrepared : ∀ d message, ¬ Steps ctx.prunePreparedTransactions d (.halt (.panicked message))
  pruneUnresolved : ∀ d message, ¬ Steps ctx.pruneUnresolvedSubmissions d (.halt (.panicked message))
  tools : ∀ call d message, ¬ Steps (ctx.program call) d (.halt (.panicked message))

/-- The sum that pruning computes is in range. -/
def RetentionFits (ctx : AppContext) : Prop :=
  ctx.config.maxExpirationTtl.nanos + ctx.config.maxWatchTimeout.nanos < 2 ^ 64 * 10 ^ 9

theorem retention_eq_halt (h : ¬ ctx.RetentionFits) :
    ctx.retention = .halt (.panicked "overflow when adding durations") := by
  unfold RetentionFits at h
  unfold retention Duration.checkedAdd
  rw [dif_neg h]

theorem retentionFits_of_calm
    (h : ∀ d message, ¬ Steps ctx.prunePreparedTransactions d (.halt (.panicked message))) :
    ctx.RetentionFits := by
  by_contra hover
  refine h [] "overflow when adding durations" ?_
  unfold prunePreparedTransactions
  rw [retention_eq_halt hover]
  exact .start _

/-- The latest deadline is that of the longest watch, at the latest time. -/
theorem deadline_fits_iff : (∀ (input : WatchTransactionInput) (now : UInt64), now.toNat < 2 ^ 63 →
    (now + ctx.effectiveWatchTimeoutSeconds input).toNat =
      now.toNat + (ctx.effectiveWatchTimeoutSeconds input).toNat) ↔
    ctx.config.maxWatchTimeout.asSecs.toNat ≤ 2 ^ 63 := by
  constructor
  · intro h
    have hmax := ctx.config.maxWatchTimeout.asSecs.toNat_lt
    have hlatest := h ⟨"", some ctx.config.maxWatchTimeout.asSecs, none, none⟩
      (UInt64.ofNat (2 ^ 63 - 1)) (by decide)
    have hnow : (UInt64.ofNat (2 ^ 63 - 1)).toNat = 2 ^ 63 - 1 := by decide
    have htimeout : (ctx.effectiveWatchTimeoutSeconds
        ⟨"", some ctx.config.maxWatchTimeout.asSecs, none, none⟩).toNat =
        ctx.config.maxWatchTimeout.asSecs.toNat := by
      unfold effectiveWatchTimeoutSeconds
      rw [toNat_min]
      exact Nat.min_self _
    rw [UInt64.toNat_add, hnow, htimeout] at hlatest
    omega
  · intro h input now hnow
    have hle : (ctx.effectiveWatchTimeoutSeconds input).toNat ≤
      ctx.config.maxWatchTimeout.asSecs.toNat := by
      unfold effectiveWatchTimeoutSeconds
      rw [toNat_min]
      exact Nat.min_le_right ..
    rw [UInt64.toNat_add, Nat.mod_eq_of_lt (by omega)]

/-! Where pruning does not panic, nothing does. -/

section Calm

variable (h : ctx.RetentionFits)

include h

theorem calm_retention : Calm ctx.retention := by
  unfold RetentionFits at h
  unfold retention Duration.checkedAdd
  rw [dif_pos h]
  exact calm_pure

theorem calm_prunePreparedTransactions : Calm ctx.prunePreparedTransactions :=
  (calm_retention h).bind fun _ => calm_ask

theorem calm_pruneUnresolvedSubmissions : Calm ctx.pruneUnresolvedSubmissions :=
  (calm_retention h).bind fun _ => calm_ask

theorem calm_recordPreparedTransaction (key : List Char) (chainContext : ChainContext)
    (status : SimulationStatus) : Calm (ctx.recordPreparedTransaction key chainContext status) :=
  (calm_prunePreparedTransactions h).bind fun _ => calm_ask

theorem calm_recordUnresolvedSubmission (hash : String) : Calm (ctx.recordUnresolvedSubmission hash) :=
  (calm_pruneUnresolvedSubmissions h).bind fun _ => calm_ask

omit h

theorem calm_ensureTransactionCapabilitiesCurrent : Calm ctx.ensureTransactionCapabilitiesCurrent := by
  have hrefresh : Calm refreshTransactionProbe := by
    refine calm_ask.bind fun answer => ?_
    cases answer with
    | none => exact calm_throw
    | some answer => exact calm_lift.bind fun _ => calm_ask.bind fun _ => calm_lift
  unfold ensureTransactionCapabilitiesCurrent
  refine calm_ite calm_pure (calm_ask.bind fun cached => ?_)
  cases cached with
  | none => exact hrefresh
  | some cached => exact calm_ite calm_lift hrefresh

theorem calm_loadTransactionEndpointSnapshot : Calm ctx.loadTransactionEndpointSnapshot :=
  calm_ask.bind fun _ => calm_lift.bind fun _ => calm_ask.bind fun _ => calm_lift.bind fun _ =>
    calm_lift.bind fun _ => calm_ask.bind fun _ => calm_lift.bind fun _ => calm_pure

theorem calm_resolveSequenceNumber (address : String) (caller : Option UInt64) :
    Calm (resolveSequenceNumber address caller) := by
  cases caller with
  | some n => exact calm_pure
  | none =>
    exact calm_ask.bind fun _ => calm_lift.bind fun _ => calm_ask.bind fun _ => calm_lift.bind fun _ =>
      calm_lift

theorem calm_resolveGasPrice (caller : Option UInt64) : Calm (resolveGasPrice caller) := by
  cases caller with
  | some n => exact calm_pure
  | none =>
    refine calm_ask.bind fun answer => ?_
    cases answer <;> exact calm_pure

theorem calm_simulatePrepared (key : List Char) (publicKey : Option String) :
    Calm (simulatePrepared key publicKey) := by
  cases publicKey with
  | none => exact calm_pure
  | some publicKey =>
    exact calm_ask.bind fun _ => calm_lift.bind fun _ => calm_lift.bind fun _ => calm_pure

theorem calm_getTransaction (input : GetTransactionInput) : Calm (ctx.getTransaction input) := by
  unfold getTransaction
  refine calm_lift.bind fun _ => calm_ask.bind fun _ => calm_lift.bind fun _ => ?_
  refine calm_ite (calm_ask.bind fun _ => calm_lift.bind fun info => ?_) ?_
  · exact calm_ite (calm_ask.bind fun _ => calm_lift.bind fun _ => calm_pure) calm_pure
  · exact calm_ite (calm_ask.bind fun _ => calm_lift.bind fun _ => calm_pure) calm_pure

theorem calm_watchPoll (txnHash : String) : Calm (ctx.watchPoll txnHash) := by
  unfold watchPoll
  refine (calm_getTransaction _).bind fun _ => calm_ite ?_ calm_pure
  exact calm_loadTransactionEndpointSnapshot.bind fun _ => calm_lift.bind fun _ => calm_pure

theorem calm_watchLoop (plan : WatchPlan) (polls : ℕ) : ∀ last, Calm (ctx.watchLoop plan polls last) := by
  induction polls with
  | zero => exact fun _ => trivial
  | succ polls ih =>
    intro last
    have hrest : ∀ current last, Calm (if plan.satisfied current then pure (plan.output current)
      else do
        let now ← clock .unixTimestamp
        if plan.deadline ≤ now then pure (plan.output last)
        else do
          clock (.sleep plan.effectivePollIntervalSeconds)
          ctx.watchLoop plan polls last) := fun current last =>
      calm_ite calm_pure (calm_ask.bind fun _ => calm_ite calm_pure (calm_ask.bind fun _ => ih last))
    refine (calm_watchPoll _).bind fun current => calm_ite ?_ (hrest current last)
    exact calm_ask.bind fun _ => hrest current current

theorem calm_watchTransaction (polls : ℕ) (input : WatchTransactionInput) :
    Calm (ctx.watchTransaction polls input) := by
  have hbody : Calm (ctx.watchBody polls input) := calm_ask.bind fun _ => calm_watchLoop _ polls _
  unfold watchTransaction tryWatchPermit
  refine calm_lift.bind fun _ => Calm.bind ?_ fun _ => hbody.attempt.bind fun _ =>
    calm_ask.bind fun _ => calm_lift
  exact calm_ask.bind fun _ => calm_ite calm_throw calm_pure

theorem calm_watchAccepted (polls : ℕ) (input : SubmitSignedTransactionInput) (txnHash : String)
    (timeout : Option UInt64) : Calm (ctx.watchAccepted polls input txnHash timeout) := by
  unfold watchAccepted
  refine calm_ite ((calm_watchTransaction _ _).attempt.bind fun outcome => ?_) calm_pure
  cases outcome <;> exact calm_pure

include h

theorem calm_prepareTransaction (sender : AccountAddress) (options : PrepareOptions)
    (payload : TransactionPayload) (kind : TransactionKind) (summary : Value)
    (details : Option PreparedTransferDetails) :
    Calm (ctx.prepareTransaction sender options payload kind summary details) := by
  unfold prepareTransaction
  refine calm_lift.bind fun _ => calm_ensureTransactionCapabilitiesCurrent.bind fun _ => ?_
  refine calm_loadTransactionEndpointSnapshot.bind fun _ =>
    (calm_resolveSequenceNumber _ _).bind fun _ => ?_
  refine (calm_resolveGasPrice _).bind fun _ => calm_lift.bind fun _ => calm_lift.bind fun _ => ?_
  refine calm_lift.bind fun _ => calm_lift.bind fun _ => calm_ask.bind fun _ => ?_
  refine (calm_simulatePrepared _ _).bind fun _ => ?_
  exact (calm_recordPreparedTransaction h _ _ _).bind fun _ => calm_pure

theorem calm_preparePublishPackage (input : PreparePublishPackageInput) :
    Calm (ctx.preparePublishPackage input) := by
  have hbody : Calm (ctx.preparePublishPackageBody input) := by
    unfold preparePublishPackageBody
    refine calm_ite calm_throw (calm_lift.bind fun _ => calm_lift.bind fun _ => calm_lift.bind fun _ => ?_)
    exact calm_prepareTransaction h _ _ _ _ _ _
  unfold preparePublishPackage tryExpensivePermit
  refine Calm.bind ?_ fun _ => hbody.attempt.bind fun _ => calm_ask.bind fun _ => calm_lift
  exact calm_ask.bind fun _ => calm_ite calm_throw calm_pure

theorem calm_sendSignedTransaction (polls : ℕ) (input : SubmitSignedTransactionInput) (txnHash : String)
    (status : Option SimulationStatus) (timeout : Option UInt64) :
    Calm (ctx.sendSignedTransaction polls input txnHash status timeout) := by
  unfold sendSignedTransaction
  refine calm_ask.bind fun answer => ?_
  cases answer with
  | ok hash => exact (calm_watchAccepted _ _ _ _).bind fun _ => calm_pure
  | error e =>
    refine calm_ite ?_ (calm_ite calm_pure calm_throw)
    exact (calm_recordUnresolvedSubmission h _).bind fun _ => calm_pure

theorem calm_submitSignedTransaction (polls : ℕ) (input : SubmitSignedTransactionInput) :
    Calm (ctx.submitSignedTransaction polls input) := by
  unfold submitSignedTransaction loadPreparedTransactionRecord hasUnresolvedSubmission submitResolved
  refine calm_lift.bind fun _ => calm_lift.bind fun _ => calm_lift.bind fun _ => ?_
  refine ((calm_prunePreparedTransactions h).bind fun _ => calm_ask).bind fun _ => ?_
  refine ((calm_pruneUnresolvedSubmissions h).bind fun _ => calm_ask).bind fun _ => calm_ite calm_pure ?_
  refine calm_ensureTransactionCapabilitiesCurrent.bind fun _ => ?_
  refine calm_loadTransactionEndpointSnapshot.bind fun _ => calm_lift.bind fun _ => calm_ite calm_pure ?_
  refine Calm.bind ((calm_resolveSequenceNumber _ _).attempt.bind fun _ => calm_lift) fun _ => ?_
  exact calm_ite calm_pure (calm_sendSignedTransaction h _ _ _ _ _)

theorem calm_program (call : ToolCall) : Calm (ctx.program call) := by
  cases call with
  | prepareTransfer input =>
    refine Calm.bind ?_ fun _ => calm_pure
    unfold prepareTransfer
    refine calm_lift.bind fun _ => calm_lift.bind fun _ => calm_lift.bind fun _ =>
      calm_lift.bind fun _ => ?_
    exact calm_lift.bind fun _ => calm_prepareTransaction h _ _ _ _ _ _
  | prepareContractCall input =>
    refine Calm.bind ?_ fun _ => calm_pure
    exact calm_lift.bind fun _ => calm_lift.bind fun _ => calm_prepareTransaction h _ _ _ _ _ _
  | preparePublishPackage input => exact (calm_preparePublishPackage h input).bind fun _ => calm_pure
  | simulateRawTransaction input =>
    refine Calm.bind ?_ fun _ => calm_pure
    unfold simulateRawTransaction
    refine calm_ensureTransactionCapabilitiesCurrent.bind fun _ => ?_
    refine calm_loadTransactionEndpointSnapshot.bind fun _ => calm_lift.bind fun _ =>
      calm_ask.bind fun _ => ?_
    refine calm_lift.bind fun _ => calm_lift.bind fun _ => ?_
    exact (calm_recordPreparedTransaction h _ _ _).bind fun _ => calm_pure
  | watchTransaction polls input => exact (calm_watchTransaction _ _).bind fun _ => calm_pure
  | submitSignedTransaction polls input =>
    exact (calm_submitSignedTransaction h _ _).bind fun _ => calm_pure

end Calm

end AppContext

/-- The sums stay in range just when the longest watch is at most 2 ^ 63 seconds and the retention
of records is a duration. -/
theorem times_fit_iff (ctx : AppContext) :
    ctx.TimesFit ↔ ctx.config.maxWatchTimeout.asSecs.toNat ≤ 2 ^ 63 ∧ ctx.RetentionFits := by
  constructor
  · intro h
    exact ⟨AppContext.deadline_fits_iff.mp h.deadline, AppContext.retentionFits_of_calm h.prunePrepared⟩
  · rintro ⟨hwatch, hretention⟩
    constructor
    · exact AppContext.deadline_fits_iff.mpr hwatch
    · exact (AppContext.calm_prunePreparedTransactions hretention).not_panicked
    · exact (AppContext.calm_pruneUnresolvedSubmissions hretention).not_panicked
    · exact fun call => (AppContext.calm_program hretention call).not_panicked

namespace Sample

/-- Watches may last for as long as a number of seconds can say. -/
def endless : AppContext :=
  { ctx with config := { config with maxWatchTimeout := .ofSecs (UInt64.ofNat (2 ^ 64 - 1)) } }

def longWatch : WatchTransactionInput := ⟨txnHash, some (UInt64.ofNat (2 ^ 64 - 1)), none, none⟩

end Sample

open Sample in
/-- The longest watch that can be configured: its deadline lies before its start, and pruning the
ledgers panics. -/
theorem endless_watch_overflows :
    endless.config.validate = .ok () ∧
      (1000 + endless.effectiveWatchTimeoutSeconds longWatch : UInt64) = 999 ∧
      endless.retention = .halt (.panicked "overflow when adding durations") ∧ ¬ endless.TimesFit := by
  have hover : ¬ endless.RetentionFits := by
    unfold AppContext.RetentionFits
    decide +kernel
  refine ⟨by decide +kernel, by decide +kernel, AppContext.retention_eq_halt hover, ?_⟩
  intro h
  exact hover (AppContext.retentionFits_of_calm h.prunePrepared)

end StarcoinMcp.Node
