import StarcoinMcp.Host.State

/-! The transfer host (`transfer_controller.py`): it prepares a transfer on the node, asks
the wallet for a signature and submits what the wallet returned. The node is a process of
its own for every call (`node_cli_client.py`), so all that is remembered between two
calls is in the state file. -/

namespace StarcoinMcp.Host

open Py (get lookup)

/-! ## Amounts and profiles -/

def vm1StcTokenCode : String := "0x1::STC::STC"

def canonicalStcTokenCode : String := "0x1::starcoin_coin::STC"

def stcScale : Nat := 1000000000

def normalizeTokenCode (tokenCode : String) : Except Exc String :=
  if Py.isBlank tokenCode then .error (.valueError "token code must not be empty")
  else .ok (Py.strip tokenCode)

def isStcTokenCode (py : Interpreter) (tokenCode : String) : Except Exc Bool := do
  let normalized ← normalizeTokenCode tokenCode
  pure ([py.lower canonicalStcTokenCode, py.lower vm1StcTokenCode].contains (py.lower normalized))

def normalizeVmProfile (py : Interpreter) (vmProfile : String) : Except Exc String :=
  let normalized := String.ofList ((py.lower (Py.strip vmProfile)).toList.map fun c =>
    if c = '-' then '_' else c)
  if ["auto", "vm1_only", "vm2_only"].contains normalized then .ok normalized
  else .error (.valueError "vm profile must be one of auto, vm1_only, or vm2_only")

def normalizeMinConfirmedBlocks : Option Int → Int
  | none => 2
  | some n => max 1 n

/-- The number that decimal digits write, which may be those of any script. -/
def decimalValue (py : Interpreter) (digits : List Char) : Option Nat :=
  digits.foldlM (fun n c => (py.decimal c).map fun d => n * 10 + d) 0

def converts (py : Interpreter) (digits : Nat) : Bool :=
  py.maxStrDigits = 0 || digits ≤ py.maxStrDigits

/-- `int(text)` for a text for which `isdigit` holds. -/
def intOfDigits (py : Interpreter) (text : List Char) : Except Exc Nat :=
  match decimalValue py text with
  | none => .error (.valueError ("invalid literal for int() with base 10: " ++
      py.repr (.str (String.ofList text))))
  | some n =>
    if converts py text.length then .ok n
    else .error (.valueError ("Exceeds the limit (" ++ toString py.maxStrDigits ++
      " digits) for integer string conversion: value has " ++ toString text.length ++
      " digits; use sys.set_int_max_str_digits() to increase the limit"))

/-- `str(n)`. -/
def strOfInt (py : Interpreter) (n : Nat) : Except Exc String :=
  if converts py (toString n).length then .ok (toString n)
  else .error (.valueError ("Exceeds the limit (" ++ toString py.maxStrDigits ++
    " digits) for integer string conversion; use sys.set_int_max_str_digits() to increase the limit"))

/-- `STC_AMOUNT_PATTERN.fullmatch`: the digits before the point and those after it. -/
def stcAmountParts (py : Interpreter) (value : List Char) : Option (List Char × List Char) :=
  let whole := value.takeWhile fun c => (py.decimal c).isSome
  if whole.isEmpty then none
  else
    match value.drop whole.length with
    | [] => some (whole, [])
    | '.' :: fraction =>
      if fraction.all (fun c => (py.decimal c).isSome) ∧ 1 ≤ fraction.length ∧ fraction.length ≤ 9
      then some (whole, fraction)
      else none
    | _ => none

/-- `int(fraction.ljust(9, "0"))`, if there is a fraction. -/
def fractionUnits (py : Interpreter) (fraction : List Char) : Except Exc Nat :=
  if fraction.isEmpty then .ok 0
  else intOfDigits py (fraction ++ List.replicate (9 - fraction.length) '0')

def normalizeTransferAmount (py : Interpreter) (amount amountUnit tokenCode : String) :
    Except Exc TransferAmount := do
  let value := Py.strip amount
  let normalizedTokenCode ← normalizeTokenCode tokenCode
  if amountUnit = "raw" then
    if value.isEmpty ∨ ¬ value.toList.all py.isDigit then
      throw (.valueError "raw transfer amount must be a non-negative integer string")
    pure { inputAmount := amount, inputUnit := amountUnit, rawAmount := value,
           displayAmount := value ++ " raw units", tokenCode := normalizedTokenCode }
  else
    let isStc ← isStcTokenCode py normalizedTokenCode
    if !isStc then throw (.valueError "--amount-unit stc is only supported for STC token codes")
    match stcAmountParts py value.toList with
    | none =>
      throw (.valueError "human-readable STC amount must look like 1, 1.5, or 1.234567890")
    | some (whole, fraction) =>
      let whole ← intOfDigits py whole
      let fraction ← fractionUnits py fraction
      let rawAmount ← strOfInt py (whole * stcScale + fraction)
      pure { inputAmount := amount, inputUnit := amountUnit, rawAmount,
             displayAmount := value ++ " STC", tokenCode := normalizedTokenCode }

/-! ## Calling the tools -/

section Tools

variable (env : Surroundings)

/-- `NodeCliClient.call_tool`, once the process has ended or could not be launched. -/
def toolResult (tool : NodeTool) : Except Exc Completed → Except Exc Py
  | .error e => .error e
  | .ok completed =>
    if completed.returncode ≠ 0 then
      .error (.runtimeError ("starcoin-node-cli " ++ tool.name ++ " failed with exit code " ++
        toString completed.returncode ++ ": " ++ Py.strip completed.stderr))
    else
      match completed.stdout with
      | .empty => .error (.runtimeError ("starcoin-node-cli " ++ tool.name ++ " returned empty stdout"))
      | .text (.error message) => .error (.valueError message)
      | .text (.ok v) => .ok v

def callNode (tool : NodeTool) (arguments : List (String × Py)) : HostM Py := fun s =>
  (toolResult tool (env.node s.log tool (.dict arguments)),
    { s with log := s.log ++ [.node tool (.dict arguments) (env.node s.log tool (.dict arguments))] })

def callWallet (tool : WalletTool) (arguments : List (String × Py)) : HostM Py := fun s =>
  (env.wallet s.log tool (.dict arguments),
    { s with log := s.log ++ [.wallet tool (.dict arguments) (env.wallet s.log tool (.dict arguments))] })

end Tools

/-! ## Preparing and signing -/

def requiredPrepareFields : List String :=
  ["transaction_kind", "raw_txn_bcs_hex", "chain_context", "prepared_at", "simulation_status",
    "next_action"]

/-- Only a dictionary passes: anything else raises at one of the tests, at which is not followed. -/
def validatePrepareResult (py : Interpreter) : Py → Except Exc (List (String × Py))
  | .dict prepareResult => do
    let missing := requiredPrepareFields.filter fun field => (lookup field prepareResult).isNone
    if !missing.isEmpty then
      throw (.runtimeError ("prepare_transfer returned an incomplete result: missing " ++
        ", ".intercalate missing))
    if (get prepareResult "simulation_status").isStr "failed" then
      throw (.runtimeError "prepare_transfer returned simulation_status = failed")
    if !(get prepareResult "next_action").isStr "sign_transaction" then
      throw (.runtimeError ("prepare_transfer returned a non-signable next_action: " ++
        (get prepareResult "next_action").toStr py))
    pure prepareResult
  | _ => throw (.typeError "prepare_transfer did not return an object")

structure TransferController where
  chainId : Int
  network : String
  genesisHash : String
  stateStore : Option StoreLimits

namespace TransferController

variable (py : Interpreter) (env : Surroundings) (controller : TransferController)

structure PrepareArgs where
  walletInstanceId : String
  vmProfile : String
  sender : String
  receiver : String
  amount : String
  amountUnit : String
  tokenCode : String

def recordIfKept (session : TransferSession) : HostM Unit :=
  match controller.stateStore with
  | some limits => recordPrepared py env limits session
  | none => pure ()

def prepareSession (args : PrepareArgs) : HostM TransferSession := do
  let normalizedVmProfile ← FailState.lift (normalizeVmProfile py args.vmProfile)
  let normalizedAmount ← FailState.lift
    (normalizeTransferAmount py args.amount args.amountUnit args.tokenCode)
  let walletInstances ← callWallet env .listInstances []
  let walletAccounts ← callWallet env .listAccounts
    [("wallet_instance_id", .str args.walletInstanceId), ("include_public_key", .bool true)]
  let publicKeyResult ← callWallet env .getPublicKey
    [("wallet_instance_id", .str args.walletInstanceId), ("address", .str args.sender)]
  let publicKey ← FailState.lift (publicKeyResult.subscript "public_key")
  let prepareResult ← callNode env .prepareTransfer
    [("sender", .str args.sender), ("sender_public_key", publicKey), ("receiver", .str args.receiver),
      ("amount", .str normalizedAmount.rawAmount), ("token_code", .str normalizedAmount.tokenCode)]
  let prepareResult ← FailState.lift (validatePrepareResult py prepareResult)
  let session : TransferSession :=
    { sender := args.sender, receiver := args.receiver, walletInstanceId := args.walletInstanceId,
      vmProfile := normalizedVmProfile, chainId := controller.chainId,
      network := controller.network, genesisHash := controller.genesisHash,
      amount := normalizedAmount, walletInstances, walletAccounts, publicKey, prepareResult }
  recordIfKept py env controller session
  pure session

def createSignRequest (session : TransferSession) (clientRequestId : String) (ttlSeconds : Int)
    (clientContext : String) : HostM TransferSession := do
  let rawTxnBcsHex ← FailState.lift (Py.item session.prepareResult "raw_txn_bcs_hex")
  let transactionKind ← FailState.lift (Py.item session.prepareResult "transaction_kind")
  let request ← callWallet env .requestSignTransaction
    [("client_request_id", .str clientRequestId), ("account_address", .str session.sender),
      ("wallet_instance_id", .str session.walletInstanceId), ("chain_id", .int session.chainId),
      ("raw_txn_bcs_hex", rawTxnBcsHex), ("tx_kind", .str (py.lower (transactionKind.toStr py))),
      ("display_hint", .str ("Transfer " ++ session.amount.displayAmount ++ " to " ++ session.receiver)),
      ("client_context", .str clientContext), ("ttl_seconds", .int ttlSeconds)]
  pure { session with request }

/-- What can be looked up in a set. -/
def hashable : Py → Except Exc Py
  | .list _ | .dict _ => .error (.typeError "unhashable type")
  | v => .ok v

def terminalRequestStatuses : List String := ["approved", "rejected", "cancelled", "expired", "failed"]

/-- The session once the request has ended: the signature is what the wallet says it is. -/
def storeResult (session : TransferSession) (status current : Py) : Except Exc TransferSession :=
  if current.isStr "approved" then do
    let result ← status.callGet "result"
    let signedTxnBcsHex ← (result.orElse (.dict [])).callGet "signed_txn_bcs_hex"
    pure { session with requestStatus := status, signedTxnBcsHex }
  else .ok { session with requestStatus := status }

/-- `wait_for_terminal_request`, followed for so many polls. -/
def waitForTerminalRequest (session : TransferSession) : Nat → HostM TransferSession
  | 0 => FailState.throw (.runtimeError "still waiting")
  | polls + 1 =>
    if session.request.isNone then
      FailState.throw (.runtimeError "wallet request has not been created yet")
    else do
      let requestId ← FailState.lift (session.request.subscript "request_id")
      let status ← callWallet env .getRequestStatus [("request_id", requestId)]
      let current ← FailState.lift (status.subscript "status" >>= hashable)
      if terminalRequestStatuses.any fun s => current.isStr s then
        FailState.lift (storeResult session status current)
      else waitForTerminalRequest { session with requestStatus := status } polls

/-! ## Submitting -/

structure SubmitOptions where
  timeoutSeconds : Int
  minConfirmedBlocks : Option Int := none
  blocking : Bool := true

structure TransferSubmitOutcome where
  submitResult : List (String × Py)
  watchResult : Py
  watchSource : Option String
  success : Bool
  guidance : Option String

/-- `watch_result is not None and bool(watch_result.get("confirmed"))`. -/
def watchConfirmed (watchResult : Py) : Except Exc Bool :=
  if watchResult.isNone then .ok false
  else do
    let confirmed ← watchResult.callGet "confirmed"
    pure confirmed.truthy

def submitRecoveryHint (submitResult : List (String × Py)) (watchResult : Py) :
    Except Exc (Option String) := do
  if (get submitResult "next_action").isStr "reconcile_by_txn_hash" then
    let confirmed ← watchConfirmed watchResult
    if confirmed then pure none
    else pure (some "Submission outcome was uncertain. Reconcile by txn hash before any retry.")
  else if (get submitResult "next_action").isStr "reprepare_then_resign" then
    pure (some ("The prepared transaction is no longer fresh. " ++
      "Prepare again and request a new signature."))
  else if (get submitResult "submission_state").isStr "accepted" then
    let confirmed ← watchConfirmed watchResult
    if confirmed then pure none
    else pure (some "The transaction was submitted, but final confirmation was not observed yet.")
  else pure none

def watchTransaction (options : SubmitOptions) (txnHash : Py) : HostM Py :=
  callNode env .watchTransaction
    [("txn_hash", txnHash), ("timeout_seconds", .int options.timeoutSeconds),
      ("min_confirmed_blocks", .int (normalizeMinConfirmedBlocks options.minConfirmedBlocks))]

/-- What `submit` reports instead of submitting again. -/
def reconciledResult (txnHash : String) (confirmed : Bool) : List (String × Py) :=
  if confirmed then
    [("txn_hash", .str txnHash), ("submission_state", .str "accepted"), ("submitted", .bool true),
      ("next_action", .none), ("error_code", .none), ("reconciled_from_unresolved", .bool true)]
  else
    [("txn_hash", .str txnHash), ("submission_state", .str "unknown"), ("submitted", .bool false),
      ("next_action", .str "reconcile_by_txn_hash"), ("error_code", .str "submission_unknown")]

def clearWhen (confirmed : Bool) (session : TransferSession) : HostM Unit :=
  if confirmed then clearUnresolvedSubmission py session else pure ()

def reconcile (session : TransferSession) (options : SubmitOptions)
    (unresolved : UnresolvedSubmissionRecord) : HostM TransferSubmitOutcome := do
  let watchResult ← watchTransaction env options (.str unresolved.txnHash)
  let confirmed ← FailState.lift (watchResult.callGet "confirmed")
  clearWhen py confirmed.truthy session
  let submitResult := reconciledResult unresolved.txnHash confirmed.truthy
  let guidance ← FailState.lift (submitRecoveryHint submitResult watchResult)
  pure { submitResult, watchResult, watchSource := some "pre-submit reconcile",
         success := confirmed.truthy, guidance }

/-- The ledger entry an answer asks for, where there is a ledger. -/
def recordIfUnresolved (session : TransferSession) (submitResult : List (String × Py)) : HostM Unit :=
  match controller.stateStore with
  | some limits =>
    if (get submitResult "next_action").isStr "reconcile_by_txn_hash" then
      recordUnresolvedSubmission py env limits session submitResult
    else pure ()
  | none => pure ()

/-- With the last watch there is, which may be the one the node reported itself. -/
def clearIfConfirmed (session : TransferSession) (watchResult : Py) : HostM Unit :=
  if controller.stateStore.isSome then do
    let confirmed ← FailState.lift (watchConfirmed watchResult)
    clearWhen py confirmed session
  else pure ()

/-- Right after the watch of an unresolved submission. -/
def clearIfReconciled (session : TransferSession) (watchResult : Py) : HostM Unit :=
  if controller.stateStore.isSome then do
    let confirmed ← FailState.lift (watchResult.callGet "confirmed")
    clearWhen py confirmed.truthy session
  else pure ()

/-- The watch that follows an answer when the caller waits, and what it is called. -/
def followUp (session : TransferSession) (options : SubmitOptions)
    (submitResult : List (String × Py)) (watchResult : Py) (watchSource : Option String) :
    HostM (Py × Option String) := do
  if !options.blocking then pure (watchResult, watchSource)
  else
    let nextAction ← FailState.lift (Py.item submitResult "next_action")
    if nextAction.isStr "reconcile_by_txn_hash" then
      let txnHash ← FailState.lift (Py.item submitResult "txn_hash")
      let watchResult ← watchTransaction env options txnHash
      clearIfReconciled py controller session watchResult
      pure (watchResult, some "reconcile")
    else
      let submissionState ← FailState.lift (Py.item submitResult "submission_state")
      if submissionState.isStr "accepted" && watchResult.isNone then
        let txnHash ← FailState.lift (Py.item submitResult "txn_hash")
        let watchResult ← watchTransaction env options txnHash
        pure (watchResult, some "follow-up watch")
      else pure (watchResult, watchSource)

def conclude (submitResult : List (String × Py)) (watchResult : Py) (watchSource : Option String) :
    Except Exc TransferSubmitOutcome := do
  let guidance ← submitRecoveryHint submitResult watchResult
  let submissionState ← Py.item submitResult "submission_state"
  let success ←
    if submissionState.isStr "accepted" then watchConfirmed watchResult
    else pure false
  pure { submitResult, watchResult, watchSource, success, guidance }

/-- What `submit` does with the answer of the node. -/
def settle (session : TransferSession) (options : SubmitOptions) (answer : Py) :
    HostM TransferSubmitOutcome := do
  match answer with
  | .dict submitResult =>
    let reported := get submitResult "watch_result"
    recordIfUnresolved py env controller session submitResult
    let (watchResult, watchSource) ← followUp py env controller session options submitResult reported
      (if reported.isNone then none else some "submit")
    clearIfConfirmed py controller session watchResult
    FailState.lift (conclude submitResult watchResult watchSource)
  | _ => FailState.throw (.attributeError "get")

def submitArguments (session : TransferSession) (options : SubmitOptions) (chainContext : Py) :
    List (String × Py) :=
  [("signed_txn_bcs_hex", session.signedTxnBcsHex), ("prepared_chain_context", chainContext),
    ("blocking", .bool options.blocking), ("timeout_seconds", .int options.timeoutSeconds),
    ("min_confirmed_blocks", .int (normalizeMinConfirmedBlocks options.minConfirmedBlocks))]

/-- The submission itself, once nothing stands against it. -/
def submitSigned (session : TransferSession) (options : SubmitOptions) :
    HostM TransferSubmitOutcome := do
  let chainContext ← FailState.lift (Py.item session.prepareResult "chain_context")
  let answer ← callNode env .submitSignedTransaction (submitArguments session options chainContext)
  settle py env controller session options answer

/-- The gate a kept state puts before the submission. -/
def submitWithStore (session : TransferSession) (options : SubmitOptions) :
    HostM TransferSubmitOutcome := do
  let unresolved ← unresolvedForSession py session
  match unresolved with
  | some record => reconcile py env session options record
  | none =>
    requirePreparedForSubmit py session
    submitSigned py env controller session options

def submit (session : TransferSession) (options : SubmitOptions) : HostM TransferSubmitOutcome :=
  if session.signedTxnBcsHex.isNone then
    FailState.throw (.runtimeError "transfer session does not have signed_txn_bcs_hex yet")
  else if controller.stateStore.isSome then submitWithStore py env controller session options
  else submitSigned py env controller session options

end TransferController

end StarcoinMcp.Host
