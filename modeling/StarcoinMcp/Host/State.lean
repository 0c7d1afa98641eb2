import StarcoinMcp.Lib.FailState
import StarcoinMcp.Lib.Python

/-! The state the transfer host keeps between its processes (`transfer_state.py`,
`workflow_audit.py`): prepared payloads, each with what was attested about it, and
submissions whose outcome is not known. Both are dictionaries in one JSON file, read
whole and written whole under a lock. -/

namespace StarcoinMcp.Host

open Py (get lookup)

structure TransferAmount where
  inputAmount : String
  inputUnit : String
  rawAmount : String
  displayAmount : String
  tokenCode : String
deriving DecidableEq, Repr

structure TransferSession where
  sender : String
  receiver : String
  walletInstanceId : String
  vmProfile : String
  chainId : Int
  network : String
  genesisHash : String
  amount : TransferAmount
  walletInstances : Py
  walletAccounts : Py
  publicKey : Py
  prepareResult : List (String × Py)
  request : Py := .none
  requestStatus : Py := .none
  signedTxnBcsHex : Py := .none

/-! ## What is hashed -/

/-- The bytes `payload_sha256` digests: those of the hexadecimal text, or the text itself where it
is none. -/
def payloadBytes (rawTxnBcsHex : String) : List UInt8 :=
  let normalized := (Py.strip rawTxnBcsHex).toList
  let normalized := if ['0', 'x'].isPrefixOf normalized then normalized.drop 2 else normalized
  if normalized.length % 2 = 0 then
    match Py.fromHex normalized with
    | some payload => payload
    | none => Text.utf8 rawTxnBcsHex
  else Text.utf8 rawTxnBcsHex

def payloadSha256 (py : Interpreter) (rawTxnBcsHex : String) : String :=
  py.sha256 (payloadBytes rawTxnBcsHex)

/-- `isinstance(v, str) and v.strip()`, with the text. -/
def nonBlank : Py → Option String
  | .str s => if Py.isBlank s then none else some s
  | _ => none

def sessionPayloadSha256 (py : Interpreter) (session : TransferSession) : Except Exc String :=
  match nonBlank (get session.prepareResult "raw_txn_bcs_hex") with
  | some rawTxnBcsHex => .ok (payloadSha256 py rawTxnBcsHex)
  | none => .error (.valueError "prepare_result is missing raw_txn_bcs_hex")

/-- The text under `key` of a value that is a dictionary, stripped. -/
def strippedField (key : String) : Py → Option String
  | .dict items => (nonBlank (get items key)).map Py.strip
  | _ => none

def sessionTokenCode (session : TransferSession) : String :=
  match strippedField "transfer_token_code" (get session.prepareResult "execution_facts") with
  | some code => code
  | none =>
    match strippedField "token_code" (get session.prepareResult "transaction_summary") with
    | some code => code
    | none => session.amount.tokenCode

def chainIdentity (py : Interpreter) (chainContext : List (String × Py)) : String × String × String :=
  ((get chainContext "chain_id").toStr py,
    py.lower (((get chainContext "network").orElse (.str "")).toStr py),
    py.lower (((get chainContext "genesis_hash").orElse (.str "")).toStr py))

/-! ## The state file -/

def stateVersion : Int := 1

def stateDefault : List (String × Py) :=
  [("version", .int stateVersion), ("prepared_transactions", .dict []),
    ("unresolved_submissions", .dict [])]

def setDefault (key : String) (v : Py) (state : List (String × Py)) : List (String × Py) :=
  match lookup key state with
  | some _ => state
  | none => Py.setItem key v state

/-- `TransferStateStore.read`. The file is what `json.loads` makes of it; a file that is not there
or is not JSON is `none`. -/
def readState (file : Option Py) : List (String × Py) :=
  match file with
  | some (.dict payload) =>
    setDefault "unresolved_submissions" (.dict [])
      (setDefault "prepared_transactions" (.dict [])
        (setDefault "version" (.int stateVersion) payload))
  | _ => stateDefault

/-- `_write_unlocked`, as the next `read` finds it. -/
def writeState (state : List (String × Py)) : Option Py := some (Py.dumped (.dict state))

/-- The dictionary under `key`; anything else there counts as an empty one. -/
def records (key : String) (state : List (String × Py)) : List (String × Py) :=
  match get state key with
  | .dict items => items
  | _ => []

def preparedRecords (state : List (String × Py)) : List (String × Py) :=
  records "prepared_transactions" state

def unresolvedRecords (state : List (String × Py)) : List (String × Py) :=
  records "unresolved_submissions" state

/-- `str((record or {}).get("recorded_at") or "")`. -/
def recordedAt (py : Interpreter) (record : Py) : Except Exc String := do
  let at_ ← (record.orElse (.dict [])).callGet "recorded_at"
  pure ((at_.orElse (.str "")).toStr py)

/-- `prune_records`: the records written longest ago go. -/
def pruneRecords (py : Interpreter) (maxRecords : Int) (items : List (String × Py)) :
    Except Exc (List (String × Py)) :=
  if maxRecords ≤ 0 then .ok []
  else if (items.length : Int) ≤ maxRecords then .ok items
  else do
    let keyed ← items.mapM fun e => do
      let time ← recordedAt py e.2
      pure (time, e.1)
    let dropped := (Py.sortBy Prod.fst keyed).take (items.length - maxRecords.toNat)
    pure (dropped.foldl (fun kept e => Py.pop e.2 kept) items)

/-! ## The world of the host -/

structure StoreLimits where
  maxPreparedRecords : Int := 128
  maxUnresolvedRecords : Int := 128
deriving DecidableEq, Repr

inductive WalletTool
  | listInstances | listAccounts | getPublicKey | requestSignTransaction | getRequestStatus
deriving DecidableEq, Repr

inductive NodeTool
  | prepareTransfer | submitSignedTransaction | watchTransaction
deriving DecidableEq, Repr

def NodeTool.name : NodeTool → String
  | .prepareTransfer => "prepare_transfer"
  | .submitSignedTransaction => "submit_signed_transaction"
  | .watchTransaction => "watch_transaction"

/-- What a finished process left on its standard output, white space around it removed. -/
inductive Stdout
  | empty
  | text (parsed : Except String Py)

structure Completed where
  returncode : Int
  stderr : String
  stdout : Stdout

/-- A call of a tool and how it went. For the node that is the process it was launched as, or the
error that kept it from being launched. -/
inductive Event
  | wallet (tool : WalletTool) (arguments : Py) (reply : Except Exc Py)
  | node (tool : NodeTool) (arguments : Py) (reply : Except Exc Completed)

/-- What the host does not decide. An answer may depend on all that was asked before. -/
structure Surroundings where
  wallet : List Event → WalletTool → Py → Except Exc Py
  node : List Event → NodeTool → Py → Except Exc Completed
  now : List Event → String

structure HostState where
  stateFile : Option Py
  log : List Event

abbrev HostM := FailState HostState Exc

section Store

variable (py : Interpreter) (env : Surroundings)

def read : HostM (List (String × Py)) := FailState.read fun s => readState s.stateFile

def utcNowRfc3339 : HostM String := FailState.read fun s => env.now s.log

/-- `with self._locked_state() as state`: nothing is written when the body raises. -/
def lockedState (body : List (String × Py) → Except Exc (List (String × Py))) : HostM Unit :=
  FailState.call fun s =>
    match body (readState s.stateFile) with
    | .ok state => .ok ((), { s with stateFile := writeState state })
    | .error e => .error e

def preparedRecord (payloadHash recordedAt : String) (session : TransferSession) : Py :=
  .dict [("payload_sha256", .str payloadHash), ("recorded_at", .str recordedAt),
    ("prepared_at", get session.prepareResult "prepared_at"),
    ("simulation_status", get session.prepareResult "simulation_status"),
    ("transaction_kind", get session.prepareResult "transaction_kind"),
    ("chain_context", get session.prepareResult "chain_context"),
    ("backend_id", .str session.walletInstanceId), ("sender", .str session.sender),
    ("receiver", .str session.receiver), ("token_code", .str (sessionTokenCode session)),
    ("raw_amount", .str session.amount.rawAmount),
    ("display_amount", .str session.amount.displayAmount)]

/-- What `record_unresolved_submission` keeps of a submission. -/
def unresolvedEntry (payloadHash txnHash recordedAt : String) (submitResult : List (String × Py)) : Py :=
  .dict [("payload_sha256", .str payloadHash), ("txn_hash", .str txnHash),
    ("recorded_at", .str recordedAt), ("submission_state", get submitResult "submission_state"),
    ("next_action", get submitResult "next_action")]

def recordPrepared (limits : StoreLimits) (session : TransferSession) : HostM Unit := do
  let payloadHash ← FailState.lift (sessionPayloadSha256 py session)
  let recordedAt ← utcNowRfc3339 env
  let record := preparedRecord payloadHash recordedAt session
  lockedState fun state => do
    let prepared ← pruneRecords py limits.maxPreparedRecords
      (Py.setItem payloadHash record (preparedRecords state))
    pure (Py.setItem "prepared_transactions" (.dict prepared) state)

/-- The names whose values in the record are not the session's. -/
def mismatchedFields (record : List (String × Py)) (session : TransferSession) : List String :=
  ([("backend_id", session.walletInstanceId), ("sender", session.sender),
    ("receiver", session.receiver), ("token_code", sessionTokenCode session),
    ("raw_amount", session.amount.rawAmount)].filter fun e =>
      !(get record e.1).isStr e.2).map Prod.fst

def checkSimulated (record : Py) : Except Exc Unit := do
  let simulationStatus ← record.callGet "simulation_status"
  if simulationStatus.isStr "performed" then .ok ()
  else .error (.runtimeError ("persisted prepared-transfer attestation is not signable: " ++
    "simulation_status=" ++ py.repr simulationStatus))

def checkChainContext (storedContext currentContext : Py) : Except Exc Unit :=
  match storedContext, currentContext with
  | .dict stored, .dict current =>
    if chainIdentity py stored = chainIdentity py current then .ok ()
    else .error (.runtimeError ("persisted prepared-transfer attestation does not match the " ++
      "current prepared chain context"))
  | _, _ => .error (.runtimeError "persisted prepared-transfer attestation is missing chain_context")

def checkMetadata (record : Py) (session : TransferSession) : Except Exc Unit :=
  match record with
  | .dict items =>
    if (mismatchedFields items session).isEmpty then .ok ()
    else .error (.runtimeError ("persisted prepared-transfer attestation does not match the " ++
      "current session metadata: " ++
      ", ".intercalate (Py.sortBy id (mismatchedFields items session))))
  | _ => .error (.attributeError "get")

/-- What `require_prepared_for_submit` checks of the record it found. -/
def checkPrepared (record : Py) (session : TransferSession) : Except Exc Unit := do
  checkSimulated py record
  let storedContext ← record.callGet "chain_context"
  checkChainContext py storedContext (get session.prepareResult "chain_context")
  checkMetadata record session

def requirePreparedForSubmit (session : TransferSession) : HostM Unit := do
  let payloadHash ← FailState.lift (sessionPayloadSha256 py session)
  let state ← read
  let record := get (preparedRecords state) payloadHash
  if record.isNone then
    FailState.throw (.runtimeError ("no persisted prepared-transfer attestation was found for this " ++
      "payload; prepare and dry-run the transfer again before requesting a signature"))
  else FailState.lift (checkPrepared py record session)

structure UnresolvedSubmissionRecord where
  payloadSha256 : String
  txnHash : String
  recordedAt : String
  submissionState : Option String
  nextAction : Option String
deriving DecidableEq, Repr

def optionalStr : Py → Option String
  | .str s => some s
  | _ => none

/-- What the ledger of unresolved submissions says about a payload. -/
def unresolvedRecord (state : List (String × Py)) (payloadHash : String) :
    Option UnresolvedSubmissionRecord :=
  match get (unresolvedRecords state) payloadHash with
  | .dict record =>
    (nonBlank (get record "txn_hash")).map fun txnHash =>
      { payloadSha256 := payloadHash, txnHash,
        recordedAt := ((get record "recorded_at").orElse (.str "")).toStr py,
        submissionState := optionalStr (get record "submission_state"),
        nextAction := optionalStr (get record "next_action") }
  | _ => none

def unresolvedForSession (session : TransferSession) : HostM (Option UnresolvedSubmissionRecord) := do
  let payloadHash ← FailState.lift (sessionPayloadSha256 py session)
  let state ← read
  pure (unresolvedRecord py state payloadHash)

def recordUnresolvedSubmission (limits : StoreLimits) (session : TransferSession)
    (submitResult : List (String × Py)) : HostM Unit := do
  let payloadHash ← FailState.lift (sessionPayloadSha256 py session)
  match nonBlank (get submitResult "txn_hash") with
  | none => pure ()
  | some txnHash =>
    let recordedAt ← utcNowRfc3339 env
    lockedState fun state => do
      let unresolved ← pruneRecords py limits.maxUnresolvedRecords
        (Py.setItem payloadHash (unresolvedEntry payloadHash txnHash recordedAt submitResult)
          (unresolvedRecords state))
      pure (Py.setItem "unresolved_submissions" (.dict unresolved) state)

def clearUnresolvedSubmission (session : TransferSession) : HostM Unit := do
  let payloadHash ← FailState.lift (sessionPayloadSha256 py session)
  lockedState fun state =>
    pure (Py.setItem "unresolved_submissions"
      (.dict (Py.pop payloadHash (unresolvedRecords state))) state)

end Store

end StarcoinMcp.Host
