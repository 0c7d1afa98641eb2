import StarcoinMcp.Host.Effects

/-! What is submitted against what was attested. The gate before a submission looks up the
record of the session's own prepared payload, while the bytes that go out are those the
wallet returned. Nothing compares the two, so the gate vouches for the submitted bytes
exactly when they embed the prepared transaction. -/

namespace StarcoinMcp.Host

open TransferController
open FailState (Moves)
open Py (get lookup isStr_iff)

variable {py : Interpreter} {env : Surroundings} {controller : TransferController}
variable {session : TransferSession} {options : SubmitOptions}

/-! ## The attestation -/

/-- A prepared record that was simulated, on the session's chain and for its transfer. -/
structure Vouches (py : Interpreter) (record : List (String × Py)) (session : TransferSession) :
    Prop where
  performed : get record "simulation_status" = .str "performed"
  chain : ∃ stored current, get record "chain_context" = .dict stored ∧
    get session.prepareResult "chain_context" = .dict current ∧
    chainIdentity py stored = chainIdentity py current
  wallet : get record "backend_id" = .str session.walletInstanceId
  sender : get record "sender" = .str session.sender
  receiver : get record "receiver" = .str session.receiver
  token : get record "token_code" = .str (sessionTokenCode session)
  rawAmount : get record "raw_amount" = .str session.amount.rawAmount

theorem mismatchedFields_isEmpty_iff {record : List (String × Py)} :
    (mismatchedFields record session).isEmpty = true ↔
      get record "backend_id" = .str session.walletInstanceId ∧
      get record "sender" = .str session.sender ∧ get record "receiver" = .str session.receiver ∧
      get record "token_code" = .str (sessionTokenCode session) ∧
      get record "raw_amount" = .str session.amount.rawAmount := by
  unfold mismatchedFields
  rw [List.isEmpty_iff, List.map_eq_nil_iff, List.filter_eq_nil_iff]
  simp [isStr_iff]

theorem checkSimulated_eq_ok_iff {items : List (String × Py)} :
    checkSimulated py (.dict items) = .ok () ↔ get items "simulation_status" = .str "performed" := by
  show (if (get items "simulation_status").isStr "performed" then _ else _) = _ ↔ _
  split
  next h => exact iff_of_true rfl (isStr_iff.mp h)
  next h => exact iff_of_false (fun hok => nomatch hok) fun hstr => h (isStr_iff.mpr hstr)

theorem checkChainContext_eq_ok_iff {v w : Py} :
    checkChainContext py v w = .ok () ↔ ∃ stored current, v = .dict stored ∧ w = .dict current ∧
      chainIdentity py stored = chainIdentity py current := by
  unfold checkChainContext
  split
  next stored current =>
    split
    next h => exact iff_of_true rfl ⟨stored, current, rfl, rfl, h⟩
    next h =>
      refine iff_of_false (fun hok => nomatch hok) ?_
      rintro ⟨_, _, hs, hc, heq⟩
      cases hs
      cases hc
      exact h heq
  next hother =>
    refine iff_of_false (fun hok => nomatch hok) ?_
    rintro ⟨stored, current, rfl, rfl, -⟩
    exact hother stored current rfl rfl

theorem checkMetadata_eq_ok_iff {items : List (String × Py)} :
    checkMetadata (.dict items) session = .ok () ↔ (mismatchedFields items session).isEmpty = true := by
  show (if (mismatchedFields items session).isEmpty then _ else _) = _ ↔ _
  split
  next h => exact iff_of_true rfl h
  next h => exact iff_of_false (fun hok => nomatch hok) h

/-- The check of a record passes on those that vouch for the session, and on no others. -/
theorem checkPrepared_eq_ok_iff {record : Py} :
    checkPrepared py record session = .ok () ↔
      ∃ items, record = .dict items ∧ Vouches py items session := by
  constructor
  · intro h
    obtain ⟨_, hsimulated, h⟩ := bind_eq_ok h
    obtain ⟨stored, hstored, h⟩ := bind_eq_ok h
    obtain ⟨_, hchain, hmetadata⟩ := bind_eq_ok h
    cases record with
    | dict items =>
      obtain rfl := Except.ok.inj hstored
      obtain ⟨hw, hs, hr, ht, ha⟩ :=
        mismatchedFields_isEmpty_iff.mp (checkMetadata_eq_ok_iff.mp hmetadata)
      exact ⟨items, rfl, checkSimulated_eq_ok_iff.mp hsimulated,
        checkChainContext_eq_ok_iff.mp hchain, hw, hs, hr, ht, ha⟩
    | _ => cases hstored
  · rintro ⟨items, rfl, h⟩
    have hsimulated : checkSimulated py (.dict items) = .ok () :=
      checkSimulated_eq_ok_iff.mpr h.performed
    have hchain := checkChainContext_eq_ok_iff.mpr h.chain
    have hmetadata := checkMetadata_eq_ok_iff.mpr (mismatchedFields_isEmpty_iff.mpr
      ⟨h.wallet, h.sender, h.receiver, h.token, h.rawAmount⟩)
    calc checkPrepared py (.dict items) session
        = (checkChainContext py (get items "chain_context")
            (get session.prepareResult "chain_context") >>= fun _ =>
              checkMetadata (.dict items) session) := by
          unfold checkPrepared
          rw [hsimulated]
          rfl
      _ = checkMetadata (.dict items) session := by
          rw [hchain]
          rfl
      _ = .ok () := hmetadata

/-! ## Sessions -/

/-- What `prepare_session` returns. -/
def Prepares (py : Interpreter) (controller : TransferController) (session : TransferSession) : Prop :=
  ∃ env args s s', prepareSession py env controller args s = (.ok session, s')

def Requests (py : Interpreter) (session session' : TransferSession) : Prop :=
  ∃ env clientRequestId ttlSeconds clientContext s s',
    createSignRequest py env session clientRequestId ttlSeconds clientContext s = (.ok session', s')

/-- What `wait_for_terminal_request` makes of the session, whatever the wallet answers. -/
def Collects (session session' : TransferSession) : Prop :=
  ∃ env polls s s', waitForTerminalRequest env session polls s = (.ok session', s')

/-- A session that went from preparation to the wallet's answer. The state file, and all that
answers the host, may be others at each of the three steps. -/
def Built (py : Interpreter) (controller : TransferController) (session : TransferSession) : Prop :=
  ∃ prepared requested, Prepares py controller prepared ∧ Requests py prepared requested ∧
    Collects requested session

theorem item_ok_of_isSome {items : List (String × Py)} {key : String}
    (h : (lookup key items).isNone = false) : ∃ v, Py.item items key = .ok v := by
  unfold Py.item
  cases hv : lookup key items with
  | none => simp [hv] at h
  | some v => exact ⟨v, rfl⟩

theorem validatePrepareResult_context {v : Py} {prepareResult : List (String × Py)}
    (h : validatePrepareResult py v = .ok prepareResult) :
    ∃ chainContext, Py.item prepareResult "chain_context" = .ok chainContext := by
  cases v with
  | dict items =>
    unfold validatePrepareResult at h
    obtain ⟨hmissing, h⟩ := guard_eq_ok h
    obtain ⟨-, h⟩ := guard_eq_ok h
    obtain ⟨-, h⟩ := guard_eq_ok h
    obtain rfl := Except.ok.inj h
    apply item_ok_of_isSome
    simp only [Bool.not_eq_true', Bool.not_eq_false, List.isEmpty_iff, List.filter_eq_nil_iff,
      Bool.not_eq_true] at hmissing
    exact hmissing "chain_context" (by decide)
  | _ => cases h

theorem recordPrepared_payload {limits : StoreLimits} {s s' : HostState}
    (h : recordPrepared py env limits session s = (.ok (), s')) :
    ∃ rawTxnBcsHex, nonBlank (get session.prepareResult "raw_txn_bcs_hex") = some rawTxnBcsHex := by
  obtain ⟨payloadHash, _, hpayload, -⟩ := FailState.bind_apply_eq_ok h
  obtain ⟨hpayload, -⟩ := FailState.lift_eq_ok hpayload
  unfold sessionPayloadSha256 at hpayload
  cases hraw : nonBlank (get session.prepareResult "raw_txn_bcs_hex") with
  | none =>
    rw [hraw] at hpayload
    cases hpayload
  | some rawTxnBcsHex => exact ⟨rawTxnBcsHex, rfl⟩

/-- A session that was recorded has the payload its record is kept under. -/
theorem Prepares.prepared (hstore : controller.stateStore.isSome) (h : Prepares py controller session) :
    (∃ rawTxnBcsHex, nonBlank (get session.prepareResult "raw_txn_bcs_hex") = some rawTxnBcsHex) ∧
    ∃ chainContext, Py.item session.prepareResult "chain_context" = .ok chainContext := by
  obtain ⟨env, args, s, s', h⟩ := h
  obtain ⟨vmProfile, _, -, h⟩ := FailState.bind_apply_eq_ok h
  obtain ⟨amount, _, -, h⟩ := FailState.bind_apply_eq_ok h
  obtain ⟨walletInstances, _, -, h⟩ := FailState.bind_apply_eq_ok h
  obtain ⟨walletAccounts, _, -, h⟩ := FailState.bind_apply_eq_ok h
  obtain ⟨publicKeyResult, _, -, h⟩ := FailState.bind_apply_eq_ok h
  obtain ⟨publicKey, _, -, h⟩ := FailState.bind_apply_eq_ok h
  obtain ⟨reply, _, -, h⟩ := FailState.bind_apply_eq_ok h
  obtain ⟨prepareResult, _, hvalid, h⟩ := FailState.bind_apply_eq_ok h
  obtain ⟨_, _, hrecord, h⟩ := FailState.bind_apply_eq_ok h
  obtain ⟨hvalid, -⟩ := FailState.lift_eq_ok hvalid
  obtain rfl := Except.ok.inj (congrArg Prod.fst h)
  refine ⟨?_, validatePrepareResult_context hvalid⟩
  unfold recordIfKept at hrecord
  cases hlimits : controller.stateStore with
  | none => simp [hlimits] at hstore
  | some limits =>
    rw [hlimits] at hrecord
    exact recordPrepared_payload hrecord

theorem Requests.prepareResult_eq {session' : TransferSession} (h : Requests py session session') :
    session'.prepareResult = session.prepareResult := by
  obtain ⟨env, clientRequestId, ttlSeconds, clientContext, s, s', h⟩ := h
  obtain ⟨_, _, -, h⟩ := FailState.bind_apply_eq_ok h
  obtain ⟨_, _, -, h⟩ := FailState.bind_apply_eq_ok h
  obtain ⟨_, _, -, h⟩ := FailState.bind_apply_eq_ok h
  obtain rfl := Except.ok.inj (congrArg Prod.fst h)
  rfl

theorem storeResult_prepareResult {status current : Py} {session' : TransferSession}
    (h : storeResult session status current = .ok session') :
    session'.prepareResult = session.prepareResult := by
  unfold storeResult at h
  split at h
  · obtain ⟨_, -, h⟩ := bind_eq_ok h
    obtain ⟨_, -, h⟩ := bind_eq_ok h
    obtain rfl := Except.ok.inj h
    rfl
  · obtain rfl := Except.ok.inj h
    rfl

/-- Waiting changes nothing of what was prepared. By induction on the polls. -/
theorem waitForTerminalRequest_prepareResult {session' : TransferSession} {s' : HostState} :
    ∀ {polls : Nat} {session : TransferSession} {s : HostState},
      waitForTerminalRequest env session polls s = (.ok session', s') →
      session'.prepareResult = session.prepareResult := by
  intro polls
  induction polls with
  | zero =>
    intro session s h
    cases h
  | succ polls ih =>
    intro session s h
    unfold waitForTerminalRequest at h
    split at h
    · cases h
    · obtain ⟨_, _, -, h⟩ := FailState.bind_apply_eq_ok h
      obtain ⟨status, _, -, h⟩ := FailState.bind_apply_eq_ok h
      obtain ⟨current, _, -, h⟩ := FailState.bind_apply_eq_ok h
      split at h
      · exact storeResult_prepareResult (FailState.lift_eq_ok h).1
      · have hrest := ih h
        exact hrest

theorem Built.prepared (hstore : controller.stateStore.isSome) (h : Built py controller session) :
    (∃ rawTxnBcsHex, nonBlank (get session.prepareResult "raw_txn_bcs_hex") = some rawTxnBcsHex) ∧
    ∃ chainContext, Py.item session.prepareResult "chain_context" = .ok chainContext := by
  obtain ⟨prepared, requested, hprepares, hrequests, env, polls, s, s', hcollects⟩ := h
  rw [waitForTerminalRequest_prepareResult hcollects, hrequests.prepareResult_eq]
  exact hprepares.prepared hstore

/-! ## What goes out -/

/-- A record of the state file, kept under the digest of these bytes, vouches for the session. -/
def Attested (py : Interpreter) (file : Option Py) (session : TransferSession)
    (payload : List UInt8) : Prop :=
  ∃ record, lookup (py.sha256 payload) (preparedRecords (readState file)) = some (.dict record) ∧
    Vouches py record session

/-- Whatever the state of the store and whatever the node answers, the raw transaction in what the
session submits is attested. `embedded` reads it back from the signed bytes. -/
def SubmitsAttested (py : Interpreter) (embedded : Py → Option (List UInt8))
    (controller : TransferController) (session : TransferSession) : Prop :=
  ∀ env options s arguments reply,
    Event.node .submitSignedTransaction arguments reply ∈
      newEvents s (submit py env controller session options s).2 →
    ∃ signed raw, arguments.callGet "signed_txn_bcs_hex" = .ok signed ∧ embedded signed = some raw ∧
      Attested py s.stateFile session raw

/-- The signed bytes embed the transaction that was prepared. -/
def SignsPrepared (embedded : Py → Option (List UInt8)) (session : TransferSession) : Prop :=
  ∀ rawTxnBcsHex, nonBlank (get session.prepareResult "raw_txn_bcs_hex") = some rawTxnBcsHex →
    embedded session.signedTxnBcsHex = some (payloadBytes rawTxnBcsHex)

/-- There is something to submit, and a chain it was prepared for. -/
def Submittable (session : TransferSession) : Prop :=
  session.signedTxnBcsHex.isNone = false ∧
    ∃ current, get session.prepareResult "chain_context" = .dict current

theorem submit_event (hstore : controller.stateStore.isSome) {s : HostState} {arguments : Py}
    {reply : Except Exc Completed}
    (h : Event.node .submitSignedTransaction arguments reply ∈
      newEvents s (submit py env controller session options s).2) :
    ∃ payloadHash chainContext, Cleared py s.stateFile session payloadHash chainContext ∧
      arguments = .dict (submitArguments session options chainContext) := by
  rcases cleared_or_watches hstore s with ⟨payloadHash, chainContext, hcleared⟩ | hwatches
  · exact ⟨payloadHash, chainContext, hcleared, (submitted_reply hstore hcleared h).1⟩
  · exact (hwatches _ h).elim

theorem payload_eq_ok {payloadHash : String} (h : sessionPayloadSha256 py session = .ok payloadHash) :
    ∃ rawTxnBcsHex, nonBlank (get session.prepareResult "raw_txn_bcs_hex") = some rawTxnBcsHex ∧
      payloadHash = py.sha256 (payloadBytes rawTxnBcsHex) := by
  unfold sessionPayloadSha256 at h
  cases hraw : nonBlank (get session.prepareResult "raw_txn_bcs_hex") with
  | none =>
    rw [hraw] at h
    cases h
  | some rawTxnBcsHex =>
    rw [hraw] at h
    exact ⟨rawTxnBcsHex, rfl, (Except.ok.inj h).symm⟩

/-- The gate has looked at the session's own payload. -/
theorem Cleared.attested {file : Option Py} {payloadHash rawTxnBcsHex : String} {chainContext : Py}
    (h : Cleared py file session payloadHash chainContext)
    (hraw : nonBlank (get session.prepareResult "raw_txn_bcs_hex") = some rawTxnBcsHex) :
    Attested py file session (payloadBytes rawTxnBcsHex) := by
  obtain ⟨raw, hraw', rfl⟩ := payload_eq_ok h.payload
  obtain rfl := Option.some.inj (hraw'.symm.trans hraw)
  obtain ⟨record, hrecord, hvouches⟩ := checkPrepared_eq_ok_iff.mp h.prepared
  refine ⟨record, ?_, hvouches⟩
  unfold Py.get at hrecord
  cases hlookup : lookup (py.sha256 (payloadBytes raw)) (preparedRecords (readState file)) with
  | none =>
    rw [hlookup] at hrecord
    cases hrecord
  | some v =>
    rw [hlookup] at hrecord
    exact congrArg some hrecord

/-! ## A store that vouches for one session only -/

def vouchingRecord (session : TransferSession) (current : List (String × Py)) : List (String × Py) :=
  [("simulation_status", .str "performed"), ("chain_context", .dict current),
    ("backend_id", .str session.walletInstanceId), ("sender", .str session.sender),
    ("receiver", .str session.receiver), ("token_code", .str (sessionTokenCode session)),
    ("raw_amount", .str session.amount.rawAmount)]

theorem vouches_vouchingRecord {current : List (String × Py)}
    (h : get session.prepareResult "chain_context" = .dict current) :
    Vouches py (vouchingRecord session current) session :=
  ⟨rfl, ⟨current, current, rfl, h, rfl⟩, rfl, rfl, rfl, rfl, rfl⟩

def vouchingFile (payloadHash : String) (record : List (String × Py)) : Option Py :=
  some (.dict [("version", .int stateVersion),
    ("prepared_transactions", .dict [(payloadHash, .dict record)]),
    ("unresolved_submissions", .dict [])])

theorem preparedRecords_vouchingFile (payloadHash : String) (record : List (String × Py)) :
    preparedRecords (readState (vouchingFile payloadHash record)) = [(payloadHash, .dict record)] := rfl

theorem unresolvedRecord_vouchingFile (payloadHash key : String) (record : List (String × Py)) :
    unresolvedRecord py (readState (vouchingFile payloadHash record)) key = none := rfl

theorem cleared_vouchingFile {rawTxnBcsHex : String} {chainContext : Py}
    {current : List (String × Py)} (hsigned : session.signedTxnBcsHex.isNone = false)
    (hraw : nonBlank (get session.prepareResult "raw_txn_bcs_hex") = some rawTxnBcsHex)
    (hcontext : Py.item session.prepareResult "chain_context" = .ok chainContext)
    (hcurrent : get session.prepareResult "chain_context" = .dict current) :
    Cleared py (vouchingFile (payloadSha256 py rawTxnBcsHex) (vouchingRecord session current)) session
      (payloadSha256 py rawTxnBcsHex) chainContext := by
  have hrecord : get (preparedRecords (readState (vouchingFile (payloadSha256 py rawTxnBcsHex)
      (vouchingRecord session current)))) (payloadSha256 py rawTxnBcsHex) =
      .dict (vouchingRecord session current) := by
    rw [preparedRecords_vouchingFile]
    unfold Py.get
    rw [Py.lookup_cons, if_pos rfl]
    rfl
  refine ⟨hsigned, ?_, unresolvedRecord_vouchingFile _ _ _, ?_, hcontext⟩
  · unfold sessionPayloadSha256
    rw [hraw]
  · rw [hrecord]
    exact checkPrepared_eq_ok_iff.mpr ⟨_, rfl, vouches_vouchingRecord hcurrent⟩

/-- No other bytes are attested there: the digest is injective. -/
theorem attested_vouchingFile (hsha : Function.Injective py.sha256) {rawTxnBcsHex : String}
    {record : List (String × Py)} {payload : List UInt8}
    (h : Attested py (vouchingFile (payloadSha256 py rawTxnBcsHex) record) session payload) :
    payload = payloadBytes rawTxnBcsHex := by
  obtain ⟨found, hfound, -⟩ := h
  rw [preparedRecords_vouchingFile, Py.lookup_cons] at hfound
  split at hfound
  next heq => exact (hsha heq).symm
  next => cases hfound

/-- In a store that holds the session's own record and no other, what it submits is attested only
if it is what was prepared. -/
theorem SubmitsAttested.signsPrepared (hsha : Function.Injective py.sha256)
    {embedded : Py → Option (List UInt8)} (hstore : controller.stateStore.isSome)
    {chainContext : Py} (hcontext : Py.item session.prepareResult "chain_context" = .ok chainContext)
    (h : SubmitsAttested py embedded controller session) (hsubmittable : Submittable session) :
    SignsPrepared embedded session := by
  intro raw hraw
  obtain ⟨hsigned, current, hcurrent⟩ := hsubmittable
  let s : HostState := ⟨vouchingFile (payloadSha256 py raw) (vouchingRecord session current), []⟩
  let env : Surroundings := ⟨fun _ _ _ => .ok .none, fun _ _ _ => .error (.osError ""), fun _ => ""⟩
  have hcleared : Cleared py s.stateFile session (payloadSha256 py raw) chainContext :=
    cleared_vouchingFile hsigned hraw hcontext hcurrent
  obtain ⟨watches, hevents, -⟩ :=
    @newEvents_of_cleared py env controller session ⟨0, none, true⟩ hstore s _ _ hcleared
  obtain ⟨signed, payload, hsignedArg, hembedded, hattested⟩ := h env ⟨0, none, true⟩ s _ _
    (hevents ▸ List.mem_cons_self ..)
  obtain rfl : session.signedTxnBcsHex = signed := Except.ok.inj hsignedArg
  rw [hembedded, attested_vouchingFile hsha hattested]

/-- What a session submits is attested, in every state of the store, exactly when the wallet signed
the transaction that was prepared. -/
theorem submits_attested_iff_signs_prepared (py : Interpreter) (hsha : Function.Injective py.sha256)
    (embedded : Py → Option (List UInt8)) (controller : TransferController)
    (hstore : controller.stateStore.isSome) (session : TransferSession)
    (hbuilt : Built py controller session) :
    SubmitsAttested py embedded controller session ↔
      (Submittable session → SignsPrepared embedded session) := by
  obtain ⟨⟨raw, hraw⟩, chainContext, hcontext⟩ := hbuilt.prepared hstore
  constructor
  · exact fun h => h.signsPrepared hsha hstore hcontext
  · intro h env options s arguments reply hevent
    obtain ⟨payloadHash, context, hcleared, rfl⟩ := submit_event hstore hevent
    have hattested := hcleared.attested hraw
    have hsubmittable : Submittable session := by
      obtain ⟨record, -, hvouches⟩ := hattested
      obtain ⟨stored, current, -, hcurrent, -⟩ := hvouches.chain
      exact ⟨hcleared.signed, current, hcurrent⟩
    exact ⟨session.signedTxnBcsHex, payloadBytes raw, rfl, h hsubmittable raw hraw, hattested⟩

/-! ## One transfer, signed as prepared and signed otherwise -/

namespace Sample

theorem signedSession_built (signed : String) : Built interpreter host (signedSession signed) := by
  refine ⟨{ signedSession signed with request := .none, requestStatus := .none, signedTxnBcsHex := .none },
    { signedSession signed with requestStatus := .none, signedTxnBcsHex := .none }, ?_, ?_, ?_⟩
  · exact ⟨surroundings signed,
      ⟨"wallet-1", "auto", "0x1", "0x2", "7", "raw", "0x1::STC::STC"⟩, ⟨none, []⟩, _, rfl⟩
  · exact ⟨surroundings signed, "client-1", 60, "test", ⟨none, []⟩, _, rfl⟩
  · exact ⟨surroundings signed, 1, ⟨none, []⟩, _, rfl⟩

/-- The raw transaction comes first in the signed bytes; here one byte of signature follows it. -/
def embedded : Py → Option (List UInt8)
  | .str s => (Py.fromHex (s.toList.drop 2)).map List.dropLast
  | _ => none

end Sample

open Sample

theorem submits_attested_iff_signs_prepared_sample :
    Function.Injective interpreter.sha256 ∧ host.stateStore.isSome ∧
    Built interpreter host (signedSession "0x0102ff") ∧
    SubmitsAttested interpreter embedded host (signedSession "0x0102ff") := by
  refine ⟨sha256_injective, rfl, signedSession_built _, ?_⟩
  refine (submits_attested_iff_signs_prepared interpreter sha256_injective embedded host rfl
    (signedSession "0x0102ff") (signedSession_built _)).mpr fun _ raw hraw => ?_
  obtain rfl : "0x0102" = raw := Option.some.inj hraw
  rfl

/-- The wallet signed another transaction, and it is submitted all the same. -/
theorem other_transaction_submitted :
    Function.Injective interpreter.sha256 ∧ host.stateStore.isSome ∧
    Built interpreter host (signedSession "0x0909ff") ∧
    ¬ SubmitsAttested interpreter embedded host (signedSession "0x0909ff") := by
  refine ⟨sha256_injective, rfl, signedSession_built _, fun h => ?_⟩
  have hsigns := h.signsPrepared sha256_injective rfl rfl ⟨rfl, chainContext, rfl⟩
  have hembedded : embedded (.str "0x0909ff") = some (payloadBytes "0x0102") := hsigns "0x0102" rfl
  exact absurd hembedded (by decide +kernel)

end StarcoinMcp.Host
