import StarcoinMcp.Host.Balances

/-! The preflight of a transfer (`transfer_host.py`): what the node says of the chain and of
the two accounts is read against the prepared transaction, and every concern becomes a label.
A transfer with a blocking label goes no further, so what matters is which facts the absence
of one guarantees. -/

namespace StarcoinMcp.Host.Preflight

open Py (get lookup)

/-! ## Values that may be anything -/

/-- `for x in v`. -/
def iterate : Py → Except Exc (List Py)
  | .list items => .ok items
  | .dict items => .ok (items.map fun item => .str item.1)
  | .str s => .ok (s.toList.map fun c => .str (String.singleton c))
  | _ => .error (.typeError "object is not iterable")

/-- `v.get(key, default)`. -/
def callGetOr (v : Py) (key : String) (default : Py) : Except Exc Py :=
  match v with
  | .dict items => .ok ((lookup key items).getD default)
  | _ => .error (.attributeError "get")

/-- `int(raw_amount)`, for the amounts that `normalize_transfer_amount` makes. -/
def rawAmountOf (py : Interpreter) (session : TransferSession) : Except Exc Int := do
  let n ← intOfDigits py session.amount.rawAmount.toList
  pure n

/-! ## Risks -/

inductive Severity
  | block | warn | info
deriving DecidableEq, Repr

/-- `SEVERITY_ORDER`, as a text that sorts the same way. -/
def Severity.order : Severity → String
  | .block => "0"
  | .warn => "1"
  | .info => "2"

structure TransferRiskLabel where
  code : String
  severity : Severity
  message : String
deriving DecidableEq, Repr

/-- Sorted by severity, and by code where the severity is the same. -/
def sortedRiskLabels (riskLabels : List TransferRiskLabel) : List TransferRiskLabel :=
  Py.sortBy (fun risk => risk.severity.order) (Py.sortBy TransferRiskLabel.code riskLabels)

/-- One label, when there is reason for it. -/
def labelWhen (found : Bool) (code : String) (severity : Severity) (message : String) :
    List TransferRiskLabel :=
  if found then [⟨code, severity, message⟩] else []

/-! ## Tokens and accounts -/

def isStcLikeToken (py : Interpreter) (tokenCode : String) : Bool :=
  (canonicalStcCodes py).contains (comparable py tokenCode)

def tokenCodesMatch (py : Interpreter) (left right : String) : Bool :=
  comparable py left = comparable py right || isStcLikeToken py left && isStcLikeToken py right

def tokenPresentInAcceptedTokens (py : Interpreter) (tokenCode : String) (acceptedTokens : List Py) :
    Bool :=
  acceptedTokens.any fun candidate =>
    match candidate with
    | .str code => tokenCodesMatch py (normalizeTokenCode tokenCode) code
    | _ => false

def anyAccount (py : Interpreter) (sender : String) : List Py → Except Exc Bool
  | [] => .ok false
  | account :: accounts => do
    let address ← account.callGet "address"
    if py.lower ((address.orElse (.str "")).toStr py) = py.lower sender then pure true
    else anyAccount py sender accounts

def anyGroup (py : Interpreter) (sender : String) : List Py → Except Exc Bool
  | [] => .ok false
  | group :: groups => do
    let accounts ← callGetOr group "accounts" (.list [])
    let accounts ← iterate accounts
    if ← anyAccount py sender accounts then pure true else anyGroup py sender groups

def senderVisibleInWallet (py : Interpreter) (walletAccounts : Py) (sender : String) :
    Except Exc Bool := do
  let groups ← callGetOr walletAccounts "wallet_instances" (.list [])
  let groups ← iterate groups
  anyGroup py sender groups

def executionFacts (session : TransferSession) : List (String × Py) :=
  match get session.prepareResult "execution_facts" with
  | .dict facts => facts
  | _ => []

def selectedTokenCode (py : Interpreter) (session : TransferSession) : Except Exc String :=
  match nonBlank (get (executionFacts session) "transfer_token_code") with
  | some code => pure (normalizeTokenCode code)
  | none => do
    let summary := (get session.prepareResult "transaction_summary").orElse (.dict [])
    let tokenCode ← summary.callGet "token_code"
    pure (normalizeTokenCode ((tokenCode.orElse (.str session.amount.tokenCode)).toStr py))

def rawTxn (session : TransferSession) : Py :=
  (get session.prepareResult "raw_txn").orElse (.dict [])

def selectedGasTokenCode (py : Interpreter) (session : TransferSession) : Except Exc String :=
  match nonBlank (get (executionFacts session) "gas_token_code") with
  | some code => pure (normalizeTokenCode code)
  | none =>
    match extractNestedStr (rawTxn session)
      [["gas_token_code"], ["gasTokenCode"], ["gas_token"], ["gasToken"]] with
    | some code => pure (normalizeTokenCode code)
    | none => do
      let tokenCode ← selectedTokenCode py session
      pure (if isStcLikeToken py tokenCode then tokenCode else canonicalStcTokenCode)

/-! ## Figures -/

/-- A number among the execution facts, or else in the prepared transaction. -/
def preferredInt (py : Interpreter) (session : TransferSession) (fact : String)
    (paths : List (List String)) : Except Exc (Option Int) := do
  let primary ← coerceInt py (get (executionFacts session) fact)
  let fallback ← extractNestedInt py (rawTxn session) paths
  pure (primary.or fallback)

/-- A fee among the execution facts, or else the product of a price and an amount of gas. -/
def feeOf (py : Interpreter) (session : TransferSession) (fact : String)
    (gasUnitPrice gas : Option Int) : Except Exc (Option Int) := do
  match ← coerceInt py (get (executionFacts session) fact) with
  | some fee => pure (some fee)
  | none =>
    match gasUnitPrice, gas with
    | some price, some gas => pure (some (price * gas))
    | _, _ => pure none

/-- What the labels are decided by. -/
structure Figures where
  rawAmount : Int
  tokenCode : String
  gasTokenCode : String
  senderVisibleInWallet : Bool
  preparedSequenceNumber : Option Int
  nextSequenceNumberHint : Option Int
  gasUnitPrice : Option Int
  maxGasAmount : Option Int
  simulationGasUsed : Option Int
  estimatedNetworkFee : Option Int
  maxNetworkFee : Option Int
  senderTokenBalance : Option Int
  senderGasBalance : Option Int

/-- What the node answered. -/
structure PreflightAnswers where
  chainStatus : Py
  nodeHealth : Py
  senderOverview : Py
  receiverOverview : Py

/-- The entries among which the balances are looked for. -/
def balancesOf (senderOverview : Py) : Except Exc (List Py) := do
  let balances ← senderOverview.callGet "balances"
  iterate (balances.orElse (.list []))

def figuresOf (py : Interpreter) (session : TransferSession) (senderOverview : Py) :
    Except Exc Figures := do
  let rawAmount ← rawAmountOf py session
  let tokenCode ← selectedTokenCode py session
  let gasTokenCode ← selectedGasTokenCode py session
  let senderVisibleInWallet ← senderVisibleInWallet py session.walletAccounts session.sender
  let preparedSequenceNumber ←
    preferredInt py session "sequence_number" [["sequence_number"], ["sequenceNumber"]]
  let hint ← senderOverview.callGet "next_sequence_number_hint"
  let nextSequenceNumberHint ← coerceInt py hint
  let gasUnitPrice ← preferredInt py session "gas_unit_price" [["gas_unit_price"], ["gasUnitPrice"]]
  let maxGasAmount ← preferredInt py session "max_gas_amount" [["max_gas_amount"], ["maxGasAmount"]]
  let simulationGasUsed ← extractNestedInt py
    ((get session.prepareResult "simulation").orElse (.dict [])) [["gas_used"], ["gasUsed"]]
  let estimatedNetworkFee ←
    feeOf py session "estimated_network_fee" gasUnitPrice simulationGasUsed
  let maxNetworkFee ← feeOf py session "estimated_max_network_fee" gasUnitPrice maxGasAmount
  let balances ← balancesOf senderOverview
  let senderTokenBalance ← findBalanceForToken py tokenCode balances
  let senderGasBalance ← findBalanceForToken py gasTokenCode balances
  pure { rawAmount, tokenCode, gasTokenCode, senderVisibleInWallet, preparedSequenceNumber,
         nextSequenceNumberHint, gasUnitPrice, maxGasAmount, simulationGasUsed,
         estimatedNetworkFee, maxNetworkFee, senderTokenBalance, senderGasBalance }

/-- What is left of the balance, the fee being paid from it where it is in the same token. -/
def Figures.senderPostTransferBalance (py : Interpreter) (f : Figures) : Option Int :=
  f.senderTokenBalance.map fun balance =>
    match f.estimatedNetworkFee with
    | some fee =>
      if tokenCodesMatch py f.tokenCode f.gasTokenCode then balance - f.rawAmount - fee
      else balance - f.rawAmount
    | none => balance - f.rawAmount

/-! ## The labels -/

/-- What identifies the chain in a status or in a prepared context. -/
def chainFacts (py : Interpreter) (v : Py) : Except Exc (String × String × String) := do
  let chainId ← v.callGet "chain_id"
  let network ← v.callGet "network"
  let genesisHash ← v.callGet "genesis_hash"
  pure (chainId.toStr py, (network.orElse (.str "")).toStr py,
    py.lower ((genesisHash.orElse (.str "")).toStr py))

def preparedContext (session : TransferSession) : Py :=
  (get session.prepareResult "chain_context").orElse (.dict [])

def chainLabels (py : Interpreter) (session : TransferSession) (chainStatus : Py) :
    Except Exc (List TransferRiskLabel) := do
  let current ← chainFacts py chainStatus
  let prepared ← chainFacts py (preparedContext session)
  pure (labelWhen (current ≠ prepared) "chain_context_mismatch" .block
    "Current chain status no longer matches the prepared chain context.")

def healthLabels (py : Interpreter) (nodeHealth : Py) : Except Exc (List TransferRiskLabel) := do
  let available ← callGetOr nodeHealth "node_available" (.bool true)
  let warnings ← nodeHealth.callGet "warnings"
  let warnings ← iterate (warnings.orElse (.list []))
  let texts := (warnings.map (Py.toStr py)).filter fun text => !text.isEmpty
  pure (labelWhen (!available.truthy) "rpc_unavailable" .block
      "The node health probe reports that the RPC endpoint is unavailable." ++
    labelWhen (!texts.isEmpty) "rpc_health_warning" .warn
      ("RPC health warnings: " ++ "; ".intercalate texts))

def partyLabels (py : Interpreter) (session : TransferSession) (f : Figures) :
    List TransferRiskLabel :=
  labelWhen (py.lower session.sender = py.lower session.receiver) "sender_equals_receiver" .warn
      "Sender and receiver are the same address." ++
    labelWhen (!f.senderVisibleInWallet) "sender_not_visible_in_wallet" .warn
      "The sender address is not visible in wallet_list_accounts output."

/-- A balance that could not be found, or is below the amount. -/
def balanceLabels (py : Interpreter) (senderOverview : Py) (f : Figures) :
    Except Exc (List TransferRiskLabel) :=
  match f.senderTokenBalance with
  | none => do
    let acceptedTokens ← senderOverview.callGet "accepted_tokens"
    let acceptedTokens ← iterate (acceptedTokens.orElse (.list []))
    if tokenPresentInAcceptedTokens py f.tokenCode acceptedTokens then
      pure (labelWhen true "sender_balance_unknown" .warn
        "The sender token appears in accepted_tokens, but its balance could not be derived.")
    else pure (labelWhen true "token_balance_not_visible" .warn
      ("No sender balance entry matched token " ++ f.tokenCode ++ "."))
  | some balance => pure (labelWhen (balance < f.rawAmount) "insufficient_token_balance" .block
      ("Sender token balance " ++ toString balance ++ " is below transfer amount " ++
        toString f.rawAmount ++ "."))

def feeLabels (py : Interpreter) (f : Figures) : List TransferRiskLabel :=
  match f.estimatedNetworkFee with
  | none => labelWhen true "fee_estimate_unavailable" .info
      "Network fee could not be estimated from the prepared transaction and simulation output."
  | some fee =>
    if tokenCodesMatch py f.tokenCode f.gasTokenCode then
      labelWhen (f.senderTokenBalance.any fun balance => balance < f.rawAmount + fee)
        "insufficient_balance_for_amount_and_fee" .block
        "The sender balance does not cover both the transfer amount and the estimated fee."
    else
      match f.senderGasBalance with
      | none => labelWhen true "gas_balance_unknown" .warn
          ("No sender balance entry matched gas token " ++ f.gasTokenCode ++ ".")
      | some balance => labelWhen (balance < fee) "insufficient_gas_balance" .block
          ("Sender gas-token balance " ++ toString balance ++ " is below estimated fee " ++
            toString fee ++ ".")

def nonceLabels (f : Figures) : List TransferRiskLabel :=
  match f.preparedSequenceNumber, f.nextSequenceNumberHint with
  | some prepared, some hint => labelWhen (prepared < hint) "nonce_advanced_after_prepare" .block
      ("Next sequence hint " ++ toString hint ++ " is ahead of prepared nonce " ++
        toString prepared ++ "; prepare the transfer again before signing.")
  | _, _ => []

def receiverLabels (receiverOverview : Py) : Except Exc (List TransferRiskLabel) := do
  let exists' ← callGetOr receiverOverview "onchain_exists" (.bool false)
  pure (labelWhen (!exists'.truthy) "receiver_account_not_initialized" .info
    "Receiver account does not currently exist on-chain.")

structure TransferPreflightReport extends PreflightAnswers, Figures where
  senderPostTransferBalance : Option Int
  riskLabels : List TransferRiskLabel

def analyzePreflight (py : Interpreter) (session : TransferSession) (answers : PreflightAnswers) :
    Except Exc TransferPreflightReport := do
  let figures ← figuresOf py session answers.senderOverview
  let chain ← chainLabels py session answers.chainStatus
  let health ← healthLabels py answers.nodeHealth
  let balance ← balanceLabels py answers.senderOverview figures
  let receiver ← receiverLabels answers.receiverOverview
  pure {
    toPreflightAnswers := answers
    toFigures := figures
    senderPostTransferBalance := figures.senderPostTransferBalance py
    riskLabels := sortedRiskLabels (chain ++ health ++ partyLabels py session figures ++ balance ++
      feeLabels py figures ++ nonceLabels figures ++ receiver) }

namespace TransferPreflightReport

variable (report : TransferPreflightReport)

def riskCount (severity : Severity) : ℕ :=
  (report.riskLabels.filter fun risk => risk.severity = severity).length

def hasBlockingRisks : Bool := 0 < report.riskCount .block

end TransferPreflightReport

/-! ## What the absence of a blocking label says -/

/-- No label of a list blocks. -/
def Passes (riskLabels : List TransferRiskLabel) : Prop :=
  ∀ risk ∈ riskLabels, risk.severity ≠ .block

theorem passes_append {l l' : List TransferRiskLabel} :
    Passes (l ++ l') ↔ Passes l ∧ Passes l' := by
  unfold Passes
  simp only [List.mem_append]
  constructor
  · intro h
    exact ⟨fun risk hrisk => h risk (.inl hrisk), fun risk hrisk => h risk (.inr hrisk)⟩
  · rintro ⟨hl, hl'⟩ risk (hrisk | hrisk)
    · exact hl risk hrisk
    · exact hl' risk hrisk

theorem passes_sorted {l : List TransferRiskLabel} : Passes (sortedRiskLabels l) ↔ Passes l := by
  unfold Passes sortedRiskLabels
  simp only [Py.mem_sortBy]

theorem passes_labelWhen {found : Bool} {code message : String} :
    Passes (labelWhen found code .block message) ↔ found = false := by
  unfold Passes labelWhen
  cases found <;> simp

theorem passes_of_lower {found : Bool} {code message : String} {severity : Severity}
    (h : severity ≠ .block) : Passes (labelWhen found code severity message) := by
  unfold Passes labelWhen
  cases found <;> simp [h]

theorem hasBlockingRisks_eq_false {report : TransferPreflightReport} :
    report.hasBlockingRisks = false ↔ Passes report.riskLabels := by
  unfold TransferPreflightReport.hasBlockingRisks TransferPreflightReport.riskCount Passes
  simp

/-- The chain is the one the transfer was prepared for, the node is there, the balances that were
found cover what is to be paid from them, and no later transaction of the sender is under way. -/
structure Clear (py : Interpreter) (session : TransferSession) (answers : PreflightAnswers)
    (f : Figures) (balances : List Py) : Prop where
  sameChain : chainFacts py answers.chainStatus = chainFacts py (preparedContext session)
  available : ∃ v, callGetOr answers.nodeHealth "node_available" (.bool true) = .ok v ∧ v.truthy = true
  amount : ∀ entry n, Supplies py f.tokenCode balances entry n → f.rawAmount ≤ n
  amountAndFee : tokenCodesMatch py f.tokenCode f.gasTokenCode = true →
    ∀ fee, f.estimatedNetworkFee = some fee →
      ∀ entry n, Supplies py f.tokenCode balances entry n → f.rawAmount + fee ≤ n
  fee : tokenCodesMatch py f.tokenCode f.gasTokenCode = false →
    ∀ fee, f.estimatedNetworkFee = some fee →
      ∀ entry n, Supplies py f.gasTokenCode balances entry n → fee ≤ n
  nonce : ∀ prepared hint, f.preparedSequenceNumber = some prepared →
    f.nextSequenceNumberHint = some hint → hint ≤ prepared

section Reading

variable {py : Interpreter} {session : TransferSession} {f : Figures}

/-- The two balances among the figures are those that the entries supply. -/
theorem balances_of_figuresOf {senderOverview : Py} (h : figuresOf py session senderOverview = .ok f) :
    ∃ balances, balancesOf senderOverview = .ok balances ∧
      findBalanceForToken py f.tokenCode balances = .ok f.senderTokenBalance ∧
      findBalanceForToken py f.gasTokenCode balances = .ok f.senderGasBalance := by
  obtain ⟨rawAmount, -, h⟩ := bind_eq_ok h
  obtain ⟨tokenCode, -, h⟩ := bind_eq_ok h
  obtain ⟨gasTokenCode, -, h⟩ := bind_eq_ok h
  obtain ⟨visible, -, h⟩ := bind_eq_ok h
  obtain ⟨prepared, -, h⟩ := bind_eq_ok h
  obtain ⟨hintValue, -, h⟩ := bind_eq_ok h
  obtain ⟨hint, -, h⟩ := bind_eq_ok h
  obtain ⟨gasUnitPrice, -, h⟩ := bind_eq_ok h
  obtain ⟨maxGasAmount, -, h⟩ := bind_eq_ok h
  obtain ⟨gasUsed, -, h⟩ := bind_eq_ok h
  obtain ⟨estimated, -, h⟩ := bind_eq_ok h
  obtain ⟨maxFee, -, h⟩ := bind_eq_ok h
  obtain ⟨balances, hbalances, h⟩ := bind_eq_ok h
  obtain ⟨tokenBalance, htoken, h⟩ := bind_eq_ok h
  obtain ⟨gasBalance, hgas, h⟩ := bind_eq_ok h
  obtain rfl := Except.ok.inj h
  exact ⟨balances, hbalances, htoken, hgas⟩

/-- A bound on the balance that was found is a bound on what the entries supply. -/
theorem bound_iff {tokenCode : String} {balances : List Py} {found : Option Int} {m : Int}
    (h : findBalanceForToken py tokenCode balances = .ok found) :
    (∀ n, found = some n → m ≤ n) ↔ ∀ entry n, Supplies py tokenCode balances entry n → m ≤ n := by
  constructor
  · intro hbound entry n hsupplies
    have hsome := findBalanceForToken_eq_some.mpr ⟨entry, hsupplies⟩
    rw [h] at hsome
    exact hbound n (Except.ok.inj hsome)
  · rintro hbound n rfl
    obtain ⟨entry, hsupplies⟩ := findBalanceForToken_eq_some.mp h
    exact hbound entry n hsupplies

theorem passes_chainLabels {chainStatus : Py} {labels : List TransferRiskLabel}
    (h : chainLabels py session chainStatus = .ok labels) :
    Passes labels ↔ chainFacts py chainStatus = chainFacts py (preparedContext session) := by
  obtain ⟨current, hcurrent, h⟩ := bind_eq_ok h
  obtain ⟨prepared, hprepared, h⟩ := bind_eq_ok h
  obtain rfl := Except.ok.inj h
  rw [passes_labelWhen, hcurrent, hprepared]
  simp

theorem passes_healthLabels {nodeHealth : Py} {labels : List TransferRiskLabel}
    (h : healthLabels py nodeHealth = .ok labels) :
    Passes labels ↔ ∃ v, callGetOr nodeHealth "node_available" (.bool true) = .ok v ∧
      v.truthy = true := by
  obtain ⟨available, havailable, h⟩ := bind_eq_ok h
  obtain ⟨warnings, -, h⟩ := bind_eq_ok h
  obtain ⟨items, -, h⟩ := bind_eq_ok h
  obtain rfl := Except.ok.inj h
  rw [passes_append, passes_labelWhen, havailable]
  constructor
  · rintro ⟨htruthy, -⟩
    exact ⟨available, rfl, by simpa using htruthy⟩
  · rintro ⟨v, ⟨⟩, htruthy⟩
    exact ⟨by simpa using htruthy, passes_of_lower (by decide)⟩

theorem passes_balanceLabels {senderOverview : Py} {labels : List TransferRiskLabel}
    (h : balanceLabels py senderOverview f = .ok labels) :
    Passes labels ↔ ∀ n, f.senderTokenBalance = some n → f.rawAmount ≤ n := by
  unfold balanceLabels at h
  cases hbalance : f.senderTokenBalance with
  | none =>
    rw [hbalance] at h
    obtain ⟨accepted, -, h⟩ := bind_eq_ok h
    obtain ⟨items, -, h⟩ := bind_eq_ok h
    have hpasses : Passes labels := by
      split at h
      · obtain rfl := Except.ok.inj h
        exact passes_of_lower (by decide)
      · obtain rfl := Except.ok.inj h
        exact passes_of_lower (by decide)
    exact iff_of_true hpasses fun n hn => nomatch hn
  | some balance =>
    rw [hbalance] at h
    obtain rfl := Except.ok.inj h
    rw [passes_labelWhen]
    simp

theorem passes_feeLabels :
    Passes (feeLabels py f) ↔
      (tokenCodesMatch py f.tokenCode f.gasTokenCode = true →
        ∀ fee, f.estimatedNetworkFee = some fee →
          ∀ n, f.senderTokenBalance = some n → f.rawAmount + fee ≤ n) ∧
      (tokenCodesMatch py f.tokenCode f.gasTokenCode = false →
        ∀ fee, f.estimatedNetworkFee = some fee →
          ∀ n, f.senderGasBalance = some n → fee ≤ n) := by
  unfold feeLabels
  cases hfee : f.estimatedNetworkFee with
  | none => exact iff_of_true (passes_of_lower (by decide)) (by simp)
  | some fee =>
    cases hmatch : tokenCodesMatch py f.tokenCode f.gasTokenCode with
    | true =>
      simp only [if_true]
      rw [passes_labelWhen]
      cases hbalance : f.senderTokenBalance <;> simp
    | false =>
      simp only [Bool.false_eq_true, if_false]
      cases hgas : f.senderGasBalance with
      | none => exact iff_of_true (passes_of_lower (by decide)) (by simp)
      | some balance =>
        rw [passes_labelWhen]
        simp

theorem passes_nonceLabels :
    Passes (nonceLabels f) ↔ ∀ prepared hint, f.preparedSequenceNumber = some prepared →
      f.nextSequenceNumberHint = some hint → hint ≤ prepared := by
  unfold nonceLabels
  cases hprepared : f.preparedSequenceNumber with
  | none => simp [Passes]
  | some prepared =>
    cases hhint : f.nextSequenceNumberHint with
    | none => simp [Passes]
    | some hint =>
      rw [passes_labelWhen]
      simp

/-- A preflight blocks unless everything it looked at is clear. -/
theorem clear_iff {answers : PreflightAnswers} {report : TransferPreflightReport}
    (h : analyzePreflight py session answers = .ok report) :
    report.hasBlockingRisks = false ↔
      ∃ f balances, figuresOf py session answers.senderOverview = .ok f ∧
        balancesOf answers.senderOverview = .ok balances ∧ Clear py session answers f balances := by
  obtain ⟨f, hfigures, h⟩ := bind_eq_ok h
  obtain ⟨chain, hchain, h⟩ := bind_eq_ok h
  obtain ⟨health, hhealth, h⟩ := bind_eq_ok h
  obtain ⟨balance, hbalance, h⟩ := bind_eq_ok h
  obtain ⟨receiver, hreceiver, h⟩ := bind_eq_ok h
  obtain rfl := Except.ok.inj h
  obtain ⟨balances, hbalances, htoken, hgas⟩ := balances_of_figuresOf hfigures
  have hparties : Passes (partyLabels py session f) := by
    apply passes_append.mpr
    exact ⟨passes_of_lower (by decide), passes_of_lower (by decide)⟩
  have hreceiverPasses : Passes receiver := by
    obtain ⟨known, -, hlabel⟩ := bind_eq_ok hreceiver
    obtain rfl := Except.ok.inj hlabel
    exact passes_of_lower (by decide)
  rw [hasBlockingRisks_eq_false, passes_sorted]
  simp only [passes_append, passes_chainLabels hchain, passes_healthLabels hhealth,
    passes_balanceLabels hbalance, passes_feeLabels, passes_nonceLabels, bound_iff htoken,
    bound_iff hgas, hparties, hreceiverPasses, and_true]
  constructor
  · rintro ⟨⟨⟨⟨hsame, havailable⟩, hamount⟩, hboth, hfee⟩, hnonce⟩
    exact ⟨f, balances, hfigures, hbalances, hsame, havailable, hamount, hboth, hfee, hnonce⟩
  · rintro ⟨f', balances', hf, hb, hclear⟩
    obtain rfl : f = f' := Except.ok.inj (hfigures.symm.trans hf)
    obtain rfl : balances = balances' := Except.ok.inj (hbalances.symm.trans hb)
    exact ⟨⟨⟨⟨hclear.sameChain, hclear.available⟩, hclear.amount⟩, hclear.amountAndFee, hclear.fee⟩,
      hclear.nonce⟩

end Reading

end StarcoinMcp.Host.Preflight
