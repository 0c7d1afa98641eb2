import StarcoinMcp.Host.Controller

/-! What the operations of the host do to its world: which tools they call, and what they
leave in the ledger of unresolved submissions. Of a call of `submit` there are three
kinds: it stops before anything happened, it looks after a submission that is still
unresolved, or it submits. -/

namespace StarcoinMcp.Host

open TransferController
open FailState (Moves)
open Py (get lookup)

variable {py : Interpreter} {env : Surroundings} {controller : TransferController}
variable {session : TransferSession} {options : SubmitOptions}

section Locked

variable {body : List (String × Py) → Except Exc (List (String × Py))} {s : HostState}

theorem lockedState_ok {state : List (String × Py)} (h : body (readState s.stateFile) = .ok state) :
    lockedState body s = (.ok (), { s with stateFile := writeState state }) := by
  refine FailState.call_ok ?_
  rw [h]

theorem lockedState_error {e : Exc} (h : body (readState s.stateFile) = .error e) :
    lockedState body s = (.error e, s) := by
  refine FailState.call_error ?_
  rw [h]

end Locked

/-! ## Calls -/

/-- The log has grown by entries that satisfy `A`. -/
def Appends (A : Event → Prop) (s s' : HostState) : Prop := ∃ d, s'.log = s.log ++ d ∧ ∀ e ∈ d, A e

section Appends

variable {A : Event → Prop} {α β : Type}

theorem Appends.refl (s : HostState) : Appends A s s :=
  ⟨[], (List.append_nil _).symm, fun _ he => nomatch he⟩

theorem Appends.trans {a b c : HostState} (hab : Appends A a b) (hbc : Appends A b c) :
    Appends A a c := by
  obtain ⟨d, hd, hA⟩ := hab
  obtain ⟨d', hd', hA'⟩ := hbc
  refine ⟨d ++ d', by rw [hd', hd, List.append_assoc], fun e he => ?_⟩
  rcases List.mem_append.mp he with h | h
  · exact hA e h
  · exact hA' e h

theorem appends_bind {m : HostM α} {f : α → HostM β} (hm : Moves (Appends A) m)
    (hf : ∀ a, Moves (Appends A) (f a)) : Moves (Appends A) (m >>= f) :=
  Moves.bind (fun _ _ _ h h' => h.trans h') hm hf

theorem appends_lift (x : Except Exc α) : Moves (Appends A) (FailState.lift x : HostM α) :=
  Moves.of_still Appends.refl fun _ => rfl

theorem appends_pure (a : α) : Moves (Appends A) (pure a : HostM α) :=
  Moves.of_still Appends.refl fun _ => rfl

theorem appends_throw (e : Exc) : Moves (Appends A) (FailState.throw e : HostM α) :=
  Moves.of_still Appends.refl fun _ => rfl

theorem appends_lockedState (body : List (String × Py) → Except Exc (List (String × Py))) :
    Moves (Appends A) (lockedState body) := by
  intro s
  refine ⟨[], ?_, fun _ he => nomatch he⟩
  rw [List.append_nil]
  cases hbody : body (readState s.stateFile) with
  | ok state => rw [lockedState_ok hbody]
  | error e => rw [lockedState_error hbody]

theorem appends_callNode {tool : NodeTool} {arguments : List (String × Py)}
    (h : ∀ reply, A (.node tool (.dict arguments) reply)) :
    Moves (Appends A) (callNode env tool arguments) := by
  intro s
  refine ⟨[_], rfl, fun e he => ?_⟩
  rw [List.mem_singleton.mp he]
  exact h _

theorem appends_clearUnresolvedSubmission :
    Moves (Appends A) (clearUnresolvedSubmission py session) :=
  appends_bind (appends_lift _) fun _ => appends_lockedState _

theorem appends_clearWhen (confirmed : Bool) : Moves (Appends A) (clearWhen py confirmed session) :=
  Moves.ite appends_clearUnresolvedSubmission (appends_pure _)

theorem appends_recordUnresolvedSubmission {limits : StoreLimits}
    {submitResult : List (String × Py)} :
    Moves (Appends A) (recordUnresolvedSubmission py env limits session submitResult) := by
  refine appends_bind (appends_lift _) fun payloadHash => ?_
  cases nonBlank (get submitResult "txn_hash") with
  | none => exact appends_pure _
  | some txnHash =>
    exact appends_bind (Moves.of_still Appends.refl fun _ => rfl) fun _ => appends_lockedState _

theorem appends_recordIfUnresolved {submitResult : List (String × Py)} :
    Moves (Appends A) (recordIfUnresolved py env controller session submitResult) := by
  unfold recordIfUnresolved
  cases controller.stateStore with
  | none => exact appends_pure _
  | some limits => exact Moves.ite appends_recordUnresolvedSubmission (appends_pure _)

theorem appends_clearIfConfirmed {watchResult : Py} :
    Moves (Appends A) (clearIfConfirmed py controller session watchResult) :=
  Moves.ite (appends_bind (appends_lift _) fun _ => appends_clearWhen _) (appends_pure _)

theorem appends_clearIfReconciled {watchResult : Py} :
    Moves (Appends A) (clearIfReconciled py controller session watchResult) :=
  Moves.ite (appends_bind (appends_lift _) fun _ => appends_clearWhen _) (appends_pure _)

/-- Without entries to append, the log stays. -/
theorem log_eq_of_appends {m : HostM α} (h : Moves (Appends fun _ => False) m) {s s' : HostState}
    {r : Except Exc α} (hm : m s = (r, s')) : s'.log = s.log := by
  obtain ⟨d, hd, hnone⟩ := h s
  have hnil : d = [] := List.eq_nil_iff_forall_not_mem.mpr hnone
  rw [hm, hnil, List.append_nil] at hd
  exact hd

end Appends

/-- A watch of the node, whatever it watches. -/
def IsWatch : Event → Prop
  | .node .watchTransaction _ _ => True
  | _ => False

theorem watchTransaction_watches (txnHash : Py) :
    Moves (Appends IsWatch) (watchTransaction env options txnHash) :=
  appends_callNode fun _ => trivial

/-- Looking after an unresolved submission never submits. -/
theorem reconcile_watches (unresolved : UnresolvedSubmissionRecord) :
    Moves (Appends IsWatch) (reconcile py env session options unresolved) := by
  refine appends_bind (watchTransaction_watches _) fun watchResult => ?_
  refine appends_bind (appends_lift _) fun confirmed => ?_
  refine appends_bind (appends_clearWhen _) fun _ => ?_
  exact appends_bind (appends_lift _) fun _ => appends_pure _

theorem followUp_watches {submitResult : List (String × Py)} {watchResult : Py}
    {watchSource : Option String} : Moves (Appends IsWatch)
      (followUp py env controller session options submitResult watchResult watchSource) := by
  refine Moves.ite (appends_pure _) (appends_bind (appends_lift _) fun nextAction => ?_)
  refine Moves.ite ?_ (appends_bind (appends_lift _) fun submissionState => ?_)
  · refine appends_bind (appends_lift _) fun txnHash => ?_
    refine appends_bind (watchTransaction_watches _) fun _ => ?_
    exact appends_bind appends_clearIfReconciled fun _ => appends_pure _
  · refine Moves.ite (appends_bind (appends_lift _) fun txnHash => ?_) (appends_pure _)
    exact appends_bind (watchTransaction_watches _) fun _ => appends_pure _

/-- After the answer, nothing is submitted any more. -/
theorem settle_watches (answer : Py) :
    Moves (Appends IsWatch) (settle py env controller session options answer) := by
  unfold settle
  cases answer with
  | dict submitResult =>
    refine appends_bind appends_recordIfUnresolved fun _ => ?_
    refine appends_bind followUp_watches fun _ => ?_
    exact appends_bind appends_clearIfConfirmed fun _ => appends_lift _
  | _ => exact appends_throw _

/-! ## The kinds of a call -/

/-- Nothing stands against submitting what the session holds. -/
structure Cleared (py : Interpreter) (file : Option Py) (session : TransferSession)
    (payloadHash : String) (chainContext : Py) : Prop where
  signed : session.signedTxnBcsHex.isNone = false
  payload : sessionPayloadSha256 py session = .ok payloadHash
  resolved : unresolvedRecord py (readState file) payloadHash = none
  prepared : checkPrepared py (get (preparedRecords (readState file)) payloadHash) session = .ok ()
  context : Py.item session.prepareResult "chain_context" = .ok chainContext

theorem unresolvedForSession_apply {payloadHash : String}
    (h : sessionPayloadSha256 py session = .ok payloadHash) (s : HostState) :
    unresolvedForSession py session s =
      (.ok (unresolvedRecord py (readState s.stateFile) payloadHash), s) := by
  unfold unresolvedForSession
  rw [h]
  rfl

/-- The check passes or raises; it never writes. -/
theorem requirePreparedForSubmit_cases {payloadHash : String}
    (h : sessionPayloadSha256 py session = .ok payloadHash) (s : HostState) :
    (∃ e, requirePreparedForSubmit py session s = (.error e, s)) ∨
    (checkPrepared py (get (preparedRecords (readState s.stateFile)) payloadHash) session = .ok () ∧
      requirePreparedForSubmit py session s = (.ok (), s)) := by
  have hreq : requirePreparedForSubmit py session s =
      (if (get (preparedRecords (readState s.stateFile)) payloadHash).isNone then
        FailState.throw (.runtimeError
          ("no persisted prepared-transfer attestation was found for this " ++
            "payload; prepare and dry-run the transfer again before requesting a signature"))
      else FailState.lift (checkPrepared py
        (get (preparedRecords (readState s.stateFile)) payloadHash) session) : HostM Unit) s := by
    unfold requirePreparedForSubmit
    rw [h]
    rfl
  rw [hreq]
  split
  · exact .inl ⟨_, rfl⟩
  · cases hcheck : checkPrepared py (get (preparedRecords (readState s.stateFile)) payloadHash)
      session with
    | error e => exact .inl ⟨e, rfl⟩
    | ok u => exact .inr ⟨rfl, rfl⟩

/-- The submission goes out as soon as the session's chain context is there. -/
theorem submitSigned_cases (s : HostState) :
    (∃ e, submitSigned py env controller session options s = (.error e, s)) ∨
    (∃ chainContext, Py.item session.prepareResult "chain_context" = .ok chainContext ∧
      submitSigned py env controller session options s =
        (callNode env .submitSignedTransaction (submitArguments session options chainContext) >>=
          settle py env controller session options) s) := by
  unfold submitSigned
  cases hctx : Py.item session.prepareResult "chain_context" with
  | error e => exact .inl ⟨e, rfl⟩
  | ok chainContext => exact .inr ⟨chainContext, rfl, rfl⟩

theorem submit_cases (hstore : controller.stateStore.isSome) (s : HostState) :
    (∃ e, submit py env controller session options s = (.error e, s)) ∨
    (∃ payloadHash record, sessionPayloadSha256 py session = .ok payloadHash ∧
      unresolvedRecord py (readState s.stateFile) payloadHash = some record ∧
      submit py env controller session options s = reconcile py env session options record s) ∨
    (∃ payloadHash chainContext, Cleared py s.stateFile session payloadHash chainContext ∧
      submit py env controller session options s =
        (callNode env .submitSignedTransaction (submitArguments session options chainContext) >>=
          settle py env controller session options) s) := by
  unfold submit
  rw [if_pos hstore]
  cases hsigned : session.signedTxnBcsHex.isNone with
  | true => exact .inl ⟨_, rfl⟩
  | false =>
    rw [if_neg (by simp)]
    cases hpayload : sessionPayloadSha256 py session with
    | error e =>
      refine .inl ⟨e, FailState.bind_error ?_⟩
      unfold unresolvedForSession
      rw [hpayload]
      rfl
    | ok payloadHash =>
      have hunresolved := unresolvedForSession_apply hpayload s
      unfold submitWithStore
      rw [FailState.bind_ok hunresolved]
      cases hrecord : unresolvedRecord py (readState s.stateFile) payloadHash with
      | some record => exact .inr (.inl ⟨payloadHash, record, rfl, hrecord, rfl⟩)
      | none =>
        rcases requirePreparedForSubmit_cases hpayload s with ⟨e, he⟩ | ⟨hcheck, hok⟩
        · exact .inl ⟨e, FailState.bind_error he⟩
        · rcases submitSigned_cases s with ⟨e, he⟩ | ⟨chainContext, hctx, hsubmit⟩
          · exact .inl ⟨e, (FailState.bind_ok hok).trans he⟩
          · exact .inr (.inr ⟨payloadHash, chainContext, ⟨hsigned, hpayload, hrecord, hcheck, hctx⟩,
              (FailState.bind_ok hok).trans hsubmit⟩)

theorem submit_of_cleared (hstore : controller.stateStore.isSome) {s : HostState}
    {payloadHash : String} {chainContext : Py}
    (h : Cleared py s.stateFile session payloadHash chainContext) :
    submit py env controller session options s =
      (callNode env .submitSignedTransaction (submitArguments session options chainContext) >>=
        settle py env controller session options) s := by
  have hunresolved := unresolvedForSession_apply h.payload s
  rw [h.resolved] at hunresolved
  have hrequired : requirePreparedForSubmit py session s = (.ok (), s) := by
    rcases requirePreparedForSubmit_cases h.payload s with ⟨e, he⟩ | ⟨-, hok⟩
    · -- a record that passes the check is there
      have hsome : (get (preparedRecords (readState s.stateFile)) payloadHash).isNone = false := by
        have hcheck := h.prepared
        cases hrecord : get (preparedRecords (readState s.stateFile)) payloadHash with
        | none =>
          rw [hrecord] at hcheck
          cases hcheck
        | _ => rfl
      unfold requirePreparedForSubmit at he ⊢
      rw [h.payload] at he ⊢
      simp only [FailState.lift_ok_bind, read, FailState.read_bind, hsome] at he ⊢
      exact congrArg (fun x => (x, s)) h.prepared
    · exact hok
  have hgate : submitWithStore py env controller session options s =
      submitSigned py env controller session options s := by
    unfold submitWithStore
    rw [FailState.bind_ok hunresolved]
    exact FailState.bind_ok hrequired
  unfold submit
  rw [if_neg (by rw [h.signed]; simp), if_pos hstore, hgate]
  unfold submitSigned
  rw [h.context]
  rfl

/-! ## The calls of a step -/

/-- The part of the log a step has written. -/
def newEvents (s s' : HostState) : List Event := s'.log.drop s.log.length

theorem newEvents_eq {s s' : HostState} {d : List Event} (h : s'.log = s.log ++ d) :
    newEvents s s' = d := by
  unfold newEvents
  rw [h, List.drop_left]

theorem callNode_bind_log {A : Event → Prop} {α : Type} {tool : NodeTool}
    {arguments : List (String × Py)} {f : Py → HostM α} (hf : ∀ v, Moves (Appends A) (f v))
    (s : HostState) :
    ∃ d, ((callNode env tool arguments >>= f) s).2.log = s.log ++
      .node tool (.dict arguments) (env.node s.log tool (.dict arguments)) :: d ∧ ∀ e ∈ d, A e := by
  have hcall : (callNode env tool arguments) s = (toolResult tool (env.node s.log tool (.dict arguments)),
      { s with log := s.log ++ [.node tool (.dict arguments) (env.node s.log tool (.dict arguments))] }) :=
    rfl
  cases hresult : toolResult tool (env.node s.log tool (.dict arguments)) with
  | error e =>
    rw [hresult] at hcall
    rw [FailState.bind_error hcall]
    exact ⟨[], rfl, fun _ he => nomatch he⟩
  | ok v =>
    rw [hresult] at hcall
    rw [FailState.bind_ok hcall]
    obtain ⟨d, hd, hA⟩ := hf v { s with log := s.log ++
      [.node tool (.dict arguments) (env.node s.log tool (.dict arguments))] }
    refine ⟨d, ?_, hA⟩
    rw [hd, List.append_assoc, List.singleton_append]

/-- A call that is cleared submits once, first of all. -/
theorem newEvents_of_cleared (hstore : controller.stateStore.isSome) {s : HostState}
    {payloadHash : String} {chainContext : Py}
    (h : Cleared py s.stateFile session payloadHash chainContext) :
    ∃ watches, newEvents s (submit py env controller session options s).2 =
      .node .submitSignedTransaction (.dict (submitArguments session options chainContext))
        (env.node s.log .submitSignedTransaction
          (.dict (submitArguments session options chainContext))) :: watches ∧
      ∀ e ∈ watches, IsWatch e := by
  rw [submit_of_cleared hstore h]
  obtain ⟨d, hd, hA⟩ := callNode_bind_log (fun v => settle_watches v) s
  exact ⟨d, newEvents_eq hd, hA⟩

/-- Whatever is submitted, the node answers it in the state the call began in. -/
theorem submitted_reply (hstore : controller.stateStore.isSome) {s : HostState}
    {payloadHash : String} {chainContext : Py}
    (h : Cleared py s.stateFile session payloadHash chainContext) {arguments : Py}
    {reply : Except Exc Completed}
    (hevent : .node .submitSignedTransaction arguments reply ∈
      newEvents s (submit py env controller session options s).2) :
    arguments = .dict (submitArguments session options chainContext) ∧
      reply = env.node s.log .submitSignedTransaction
        (.dict (submitArguments session options chainContext)) := by
  obtain ⟨watches, hevents, hwatches⟩ :=
    @newEvents_of_cleared py env controller session options hstore s _ _ h
  rw [hevents] at hevent
  rcases List.mem_cons.mp hevent with heq | hmem
  · injection heq with _ harguments hreply
    exact ⟨harguments, hreply⟩
  · exact (hwatches _ hmem).elim

/-- Any other call only watches. -/
theorem cleared_or_watches (hstore : controller.stateStore.isSome) (s : HostState) :
    (∃ payloadHash chainContext, Cleared py s.stateFile session payloadHash chainContext) ∨
    ∀ e ∈ newEvents s (submit py env controller session options s).2, IsWatch e := by
  rcases submit_cases hstore s with ⟨e, h⟩ | ⟨payloadHash, record, -, -, h⟩ | ⟨payloadHash, ctx, hc, -⟩
  · refine .inr fun e' he' => ?_
    rw [h, newEvents_eq (List.append_nil _).symm] at he'
    cases he'
  · obtain ⟨d, hd, hA⟩ := reconcile_watches record s
    refine .inr fun e' he' => ?_
    rw [h, newEvents_eq hd] at he'
    exact hA e' he'
  · exact .inl ⟨payloadHash, ctx, hc⟩

/-! ## One transfer -/

namespace Sample

def preparedDigest : String := "a12871fee210fb8619291eaea194581cbd2531e4b23759d225f6806923f63222"

/-- The digest is the real one on the payload of the sample. -/
def sha256 (bytes : List UInt8) : String :=
  if bytes = [1, 2] then preparedDigest else String.ofList ('x' :: Hex.encode bytes)

theorem sha256_injective : Function.Injective sha256 := by
  have hx : ∀ l : List Char, String.ofList ('x' :: l) ≠ preparedDigest := by
    intro l h
    have hlist := congrArg String.toList h
    rw [String.toList_ofList] at hlist
    have hhead : some 'x' = preparedDigest.toList.head? := congrArg List.head? hlist
    exact absurd hhead (by decide)
  intro a b h
  unfold sha256 at h
  split at h
  next ha =>
    split at h
    next hb => rw [ha, hb]
    next => exact absurd h.symm (hx _)
  next =>
    split at h
    next => exact absurd h (hx _)
    next =>
      have hlist := congrArg String.toList h
      rw [String.toList_ofList, String.toList_ofList] at hlist
      exact Hex.encode_injective (List.cons.inj hlist).2

def interpreter : Interpreter where
  sha256 := sha256
  repr _ := ""
  lower := Text.toAsciiLowercase
  isDigit := Char.isDigit
  decimal c := if c.isDigit then some (c.toNat - 48) else none
  maxStrDigits := 4300

def host : TransferController := ⟨254, "dev", "0xabc", some {}⟩

def chainContext : List (String × Py) :=
  [("chain_id", .int 254), ("network", .str "dev"), ("genesis_hash", .str "0xabc")]

def prepareResult : List (String × Py) :=
  [("transaction_kind", .str "transfer"), ("raw_txn_bcs_hex", .str "0x0102"),
    ("chain_context", .dict chainContext), ("prepared_at", .str "2026-01-01T00:00:00Z"),
    ("simulation_status", .str "performed"), ("next_action", .str "sign_transaction")]

/-- The wallet approves, and returns these signed bytes. -/
def surroundings (signed : String) : Surroundings where
  wallet _ tool _ :=
    match tool with
    | .getPublicKey => .ok (.dict [("public_key", .str "0x05")])
    | .requestSignTransaction => .ok (.dict [("request_id", .str "request-1")])
    | .getRequestStatus => .ok (.dict [("status", .str "approved"),
        ("result", .dict [("signed_txn_bcs_hex", .str signed)])])
    | _ => .ok (.dict [])
  node _ _ _ := .ok ⟨0, "", .text (.ok (.dict prepareResult))⟩
  now _ := "2026-01-01T00:00:00Z"

def signedSession (signed : String) : TransferSession where
  sender := "0x1"
  receiver := "0x2"
  walletInstanceId := "wallet-1"
  vmProfile := "auto"
  chainId := 254
  network := "dev"
  genesisHash := "0xabc"
  amount := ⟨"7", "raw", "7", "7 raw units", "0x1::STC::STC"⟩
  walletInstances := .dict []
  walletAccounts := .dict []
  publicKey := .str "0x05"
  prepareResult := prepareResult
  request := .dict [("request_id", .str "request-1")]
  requestStatus := .dict [("status", .str "approved"),
    ("result", .dict [("signed_txn_bcs_hex", .str signed)])]
  signedTxnBcsHex := .str signed

end Sample

end StarcoinMcp.Host
