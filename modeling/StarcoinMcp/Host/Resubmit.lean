import StarcoinMcp.Lib.Trace
import StarcoinMcp.Host.Ledger

/-! Submitting again. Once an attempt has ended without a definite answer, its payload must
not be submitted again before a watch has confirmed the first transaction. The host keeps
to this through its ledger: while the entry is there it only watches. The entry is written
after an answer that names the transaction, so an attempt that ends any other way is
forgotten. -/

namespace StarcoinMcp.Host

open TransferController
open FailState (Moves)
open Py (get lookup isStr_iff)

variable {py : Interpreter} {env : Surroundings} {controller : TransferController}
variable {session : TransferSession} {options : SubmitOptions}

/-! ## Answers -/

/-- A reply of the watch that says `confirmed`. -/
def Confirms (watchResult : Py) : Prop :=
  ∃ items, watchResult = .dict items ∧ (get items "confirmed").truthy = true

/-- A watch of the transaction with this hash was answered, and it is confirmed. -/
def ConfirmedWatch (txnHash : String) (e : Event) : Prop :=
  ∃ arguments reply watchResult, e = .node .watchTransaction arguments reply ∧
    arguments.callGet "txn_hash" = .ok (.str txnHash) ∧
    toolResult .watchTransaction reply = .ok watchResult ∧ Confirms watchResult

/-- The node said that it has accepted the transaction, or that it has rejected it. -/
def Definite (reply : Except Exc Completed) : Prop :=
  ∃ submitResult, toolResult .submitSignedTransaction reply = .ok (.dict submitResult) ∧
    (get submitResult "submission_state" = .str "accepted" ∨
      get submitResult "submission_state" = .str "rejected")

/-- The answer of a node that does not know: it names the transaction it may have sent, asks for
reconciliation, and does not at the same time report it as confirmed to a caller that goes on. -/
def Traceable (txnHash : String) (options : SubmitOptions) (reply : Except Exc Completed) : Prop :=
  ∃ submitResult, toolResult .submitSignedTransaction reply = .ok (.dict submitResult) ∧
    get submitResult "next_action" = .str "reconcile_by_txn_hash" ∧
    get submitResult "txn_hash" = .str txnHash ∧ Py.isBlank txnHash = false ∧
    (options.blocking = true ∨ ¬ Confirms (get submitResult "watch_result"))

theorem watchConfirmed_of_not_confirms {watchResult : Py} (h : ¬ Confirms watchResult) :
    watchConfirmed watchResult ≠ .ok true := by
  intro hok
  unfold watchConfirmed at hok
  split at hok
  · cases hok
  · obtain ⟨confirmed, hget, hpure⟩ := bind_eq_ok hok
    cases watchResult with
    | dict items =>
      obtain rfl := Except.ok.inj hget
      exact h ⟨items, rfl, Except.ok.inj hpure⟩
    | _ => cases hget

/-! ## An entry stays until it is confirmed -/

/-- An entry that was there is there, or its transaction was confirmed in between. -/
def KeepsEntry (payloadHash txnHash : String) (s s' : HostState) : Prop :=
  ∃ d, s'.log = s.log ++ d ∧ (ledger s.stateFile payloadHash = some txnHash →
    ledger s'.stateFile payloadHash = some txnHash ∨ ∃ e ∈ d, ConfirmedWatch txnHash e)

section KeepsEntry

variable {payloadHash txnHash : String} {α β : Type}

theorem KeepsEntry.refl (s : HostState) : KeepsEntry payloadHash txnHash s s :=
  ⟨[], (List.append_nil _).symm, .inl⟩

theorem KeepsEntry.trans {a b c : HostState} (hab : KeepsEntry payloadHash txnHash a b)
    (hbc : KeepsEntry payloadHash txnHash b c) : KeepsEntry payloadHash txnHash a c := by
  obtain ⟨d, hd, hab⟩ := hab
  obtain ⟨d', hd', hbc⟩ := hbc
  refine ⟨d ++ d', by rw [hd', hd, List.append_assoc], fun h => ?_⟩
  rcases hab h with hb | ⟨e, he, hwatch⟩
  · rcases hbc hb with hc | ⟨e, he, hwatch⟩
    · exact .inl hc
    · exact .inr ⟨e, List.mem_append_right _ he, hwatch⟩
  · exact .inr ⟨e, List.mem_append_left _ he, hwatch⟩

theorem Frame.keepsEntry {q : String} {s s' : HostState} (h : Frame q s s') (hne : payloadHash ≠ q) :
    KeepsEntry payloadHash txnHash s s' := by
  obtain ⟨⟨d, hd⟩, hledger⟩ := h
  exact ⟨d, hd, fun hentry => .inl ((hledger payloadHash hne).trans hentry)⟩

theorem keepsEntry_bind {m : HostM α} {f : α → HostM β}
    (hm : Moves (KeepsEntry payloadHash txnHash) m)
    (hf : ∀ a, Moves (KeepsEntry payloadHash txnHash) (f a)) :
    Moves (KeepsEntry payloadHash txnHash) (m >>= f) :=
  Moves.bind (fun _ _ _ h h' => h.trans h') hm hf

theorem keepsEntry_still {m : HostM α} (h : ∀ s, (m s).2 = s) :
    Moves (KeepsEntry payloadHash txnHash) m := Moves.of_still KeepsEntry.refl h

/-- After the watch of the entry's transaction: what follows a confirmation may do with the entry
what it likes. -/
theorem keepsEntry_watch_bind {f : Py → HostM α}
    (hconfirmed : ∀ v, Confirms v → Moves (Frame payloadHash) (f v))
    (hother : ∀ v, ¬ Confirms v → Moves (KeepsEntry payloadHash txnHash) (f v)) :
    Moves (KeepsEntry payloadHash txnHash) (watchTransaction env options (.str txnHash) >>= f) := by
  intro s
  let arguments : List (String × Py) := [("txn_hash", .str txnHash),
    ("timeout_seconds", .int options.timeoutSeconds),
    ("min_confirmed_blocks", .int (normalizeMinConfirmedBlocks options.minConfirmedBlocks))]
  let reply := env.node s.log .watchTransaction (.dict arguments)
  let watched : HostState := { s with log := s.log ++ [.node .watchTransaction (.dict arguments) reply] }
  have hcall : watchTransaction env options (.str txnHash) s =
      (toolResult .watchTransaction reply, watched) := rfl
  cases hresult : toolResult .watchTransaction reply with
  | error e =>
    rw [hresult] at hcall
    rw [FailState.bind_error hcall]
    exact ⟨[_], rfl, .inl⟩
  | ok v =>
    rw [hresult] at hcall
    rw [FailState.bind_ok hcall]
    by_cases hv : Confirms v
    · obtain ⟨⟨d, hd⟩, -⟩ := hconfirmed v hv watched
      refine ⟨.node .watchTransaction (.dict arguments) reply :: d, ?_, fun _ => .inr ?_⟩
      · rw [hd]
        exact List.append_assoc _ _ _
      · exact ⟨_, List.mem_cons_self .., _, _, v, rfl, rfl, hresult, hv⟩
    · have hwatched : KeepsEntry payloadHash txnHash s watched := ⟨[_], rfl, .inl⟩
      exact hwatched.trans (hother v hv watched)

theorem clearIfConfirmed_still {watchResult : Py} (h : ¬ Confirms watchResult) (s : HostState) :
    (clearIfConfirmed py controller session watchResult s).2 = s := by
  unfold clearIfConfirmed
  split
  · cases hw : watchConfirmed watchResult with
    | error e => rfl
    | ok confirmed =>
      cases confirmed with
      | false => rfl
      | true => exact absurd hw (watchConfirmed_of_not_confirms h)
  · rfl

theorem clearIfReconciled_still {watchResult : Py} (h : ¬ Confirms watchResult) (s : HostState) :
    (clearIfReconciled py controller session watchResult s).2 = s := by
  unfold clearIfReconciled
  split
  · cases watchResult with
    | dict items =>
      cases hconfirmed : (get items "confirmed").truthy with
      | true => exact absurd ⟨items, rfl, hconfirmed⟩ h
      | false =>
        show (clearWhen py (get items "confirmed").truthy session s).2 = s
        rw [hconfirmed]
        rfl
    | _ => rfl
  · rfl

/-- Looking after an entry takes it away only when it is confirmed. -/
theorem keepsEntry_reconcile (hpayload : sessionPayloadSha256 py session = .ok payloadHash)
    {unresolved : UnresolvedSubmissionRecord} (hhash : unresolved.txnHash = txnHash) :
    Moves (KeepsEntry payloadHash txnHash) (reconcile py env session options unresolved) := by
  unfold reconcile
  rw [hhash]
  refine keepsEntry_watch_bind (fun v _ => ?_) fun v hv => ?_
  · refine frame_bind (frame_still fun _ => rfl) fun _ => ?_
    refine frame_bind (frame_clearWhen hpayload _) fun _ => ?_
    exact frame_bind (frame_still fun _ => rfl) fun _ => frame_still fun _ => rfl
  · cases v with
    | dict items =>
      have hfalse : (get items "confirmed").truthy = false := by
        cases htruthy : (get items "confirmed").truthy with
        | false => rfl
        | true => exact absurd ⟨items, rfl, htruthy⟩ hv
      show Moves _ (clearWhen py (get items "confirmed").truthy session >>= _)
      rw [hfalse]
      refine keepsEntry_bind (keepsEntry_still fun _ => rfl) fun _ => ?_
      exact keepsEntry_bind (keepsEntry_still fun _ => rfl) fun _ => keepsEntry_still fun _ => rfl
    | _ => exact keepsEntry_still fun _ => rfl

end KeepsEntry

/-! ## Settling an answer -/

section Settle

variable {payloadHash : String} {limits : StoreLimits} {submitResult : List (String × Py)}

/-- Only an answer that asks for an entry needs room for it. -/
def Fits (limits : StoreLimits) (file : Option Py) (payloadHash : String)
    (submitResult : List (String × Py)) : Prop :=
  get submitResult "next_action" = .str "reconcile_by_txn_hash" →
    (nonBlank (get submitResult "txn_hash")).isSome → HasRoom limits file payloadHash

theorem recordIfUnresolved_apply (hstore : controller.stateStore = some limits) {s : HostState}
    (hpayload : sessionPayloadSha256 py session = .ok payloadHash)
    (hfits : Fits limits s.stateFile payloadHash submitResult) :
    ∃ file, recordIfUnresolved py env controller session submitResult s =
        (.ok (), { s with stateFile := file }) ∧
      (∀ q, q ≠ payloadHash → ledger file q = ledger s.stateFile q) ∧
      ∀ txnHash, get submitResult "next_action" = .str "reconcile_by_txn_hash" →
        nonBlank (get submitResult "txn_hash") = some txnHash →
        ledger file payloadHash = some txnHash := by
  have hrecord : recordIfUnresolved py env controller session submitResult =
      if (get submitResult "next_action").isStr "reconcile_by_txn_hash" then
        recordUnresolvedSubmission py env limits session submitResult
      else pure () := by
    unfold recordIfUnresolved
    rw [hstore]
  rw [hrecord]
  by_cases hnext : (get submitResult "next_action").isStr "reconcile_by_txn_hash" = true
  · rw [if_pos hnext]
    have hnext' := isStr_iff.mp hnext
    cases hhash : nonBlank (get submitResult "txn_hash") with
    | none =>
      refine ⟨s.stateFile, ?_, fun _ _ => rfl, fun t _ ht => nomatch ht⟩
      unfold recordUnresolvedSubmission
      rw [hpayload, hhash]
      rfl
    | some txnHash =>
      have hroom := hfits hnext' (by rw [hhash]; rfl)
      obtain ⟨file, happly, hledger⟩ := recordUnresolvedSubmission_apply hpayload hhash hroom
      refine ⟨file, happly, fun q hq => (hledger q).trans (if_neg (Ne.symm hq)), fun t _ ht => ?_⟩
      obtain rfl := Option.some.inj ht
      exact (hledger payloadHash).trans (if_pos rfl)
  · rw [if_neg hnext]
    exact ⟨s.stateFile, rfl, fun _ _ => rfl, fun t ht => absurd (isStr_iff.mpr ht) hnext⟩

/-- What follows the entry. -/
def afterRecord (py : Interpreter) (env : Surroundings) (controller : TransferController)
    (session : TransferSession) (options : SubmitOptions) (submitResult : List (String × Py)) :
    HostM TransferSubmitOutcome :=
  followUp py env controller session options submitResult (get submitResult "watch_result")
      (if (get submitResult "watch_result").isNone then none else some "submit") >>= fun watched =>
    clearIfConfirmed py controller session watched.1 >>= fun _ =>
      FailState.lift (conclude submitResult watched.1 watched.2)

theorem settle_dict : settle py env controller session options (.dict submitResult) =
    (recordIfUnresolved py env controller session submitResult >>= fun _ =>
      afterRecord py env controller session options submitResult) := rfl

/-- Settling an answer changes no other payload's entry. -/
theorem settle_frame (hstore : controller.stateStore = some limits) {s : HostState} {answer : Py}
    (hpayload : sessionPayloadSha256 py session = .ok payloadHash)
    (hfits : ∀ items, answer = .dict items → Fits limits s.stateFile payloadHash items) :
    Frame payloadHash s (settle py env controller session options answer s).2 := by
  cases answer with
  | dict items =>
    obtain ⟨file, happly, hother, -⟩ := recordIfUnresolved_apply hstore hpayload (hfits items rfl)
    rw [settle_dict, FailState.bind_ok happly]
    have hentry : Frame payloadHash s { s with stateFile := file } :=
      ⟨⟨[], (List.append_nil _).symm⟩, hother⟩
    exact hentry.trans (frame_afterRecord hpayload _)
  | _ => exact Frame.refl s

theorem item_of_get {items : List (String × Py)} {key t : String} (h : get items key = .str t) :
    Py.item items key = .ok (.str t) := by
  unfold Py.get at h
  unfold Py.item
  cases hv : lookup key items with
  | none =>
    rw [hv] at h
    cases h
  | some v =>
    rw [hv] at h
    exact congrArg _ h

/-- A caller that waits watches the transaction of the entry. -/
theorem keepsEntry_afterRecord {txnHash : String}
    (hpayload : sessionPayloadSha256 py session = .ok payloadHash)
    (hnext : get submitResult "next_action" = .str "reconcile_by_txn_hash")
    (hhash : get submitResult "txn_hash" = .str txnHash)
    (hreported : options.blocking = true ∨ ¬ Confirms (get submitResult "watch_result")) :
    Moves (KeepsEntry payloadHash txnHash)
      (afterRecord py env controller session options submitResult) := by
  cases hblocking : options.blocking with
  | false =>
    have hnot : ¬ Confirms (get submitResult "watch_result") := by
      rcases hreported with h | h
      · rw [hblocking] at h
        cases h
      · exact h
    have hfollow : ∀ watchResult watchSource, followUp py env controller session options submitResult
        watchResult watchSource = pure (watchResult, watchSource) := by
      intro watchResult watchSource
      unfold followUp
      rw [hblocking]
      rfl
    unfold afterRecord
    rw [hfollow]
    show Moves _ (clearIfConfirmed py controller session (get submitResult "watch_result") >>= _)
    exact keepsEntry_bind (keepsEntry_still (clearIfConfirmed_still hnot)) fun _ =>
      keepsEntry_still fun _ => rfl
  | true =>
    have hfollow : ∀ watchResult watchSource, followUp py env controller session options submitResult
        watchResult watchSource = (watchTransaction env options (.str txnHash) >>= fun watched =>
          clearIfReconciled py controller session watched >>= fun _ =>
            pure (watched, some "reconcile")) := by
      intro watchResult watchSource
      unfold followUp
      rw [hblocking, item_of_get hnext, item_of_get hhash]
      rfl
    unfold afterRecord
    rw [hfollow, FailState.bind_assoc]
    refine keepsEntry_watch_bind (fun v _ => ?_) fun v hv => ?_
    · refine frame_bind (frame_bind (frame_clearIfReconciled hpayload v) fun _ =>
        frame_still fun _ => rfl) fun watched => ?_
      exact frame_bind (frame_clearIfConfirmed hpayload _) fun _ => frame_still fun _ => rfl
    · rw [FailState.bind_assoc]
      refine keepsEntry_bind (keepsEntry_still (clearIfReconciled_still hv)) fun _ => ?_
      show Moves _ (clearIfConfirmed py controller session v >>= _)
      exact keepsEntry_bind (keepsEntry_still (clearIfConfirmed_still hv)) fun _ =>
        keepsEntry_still fun _ => rfl

/-- After a traceable answer the entry is there, or its transaction was confirmed. -/
theorem settle_entry (hstore : controller.stateStore = some limits) {s : HostState} {txnHash : String}
    (hpayload : sessionPayloadSha256 py session = .ok payloadHash)
    (hfits : Fits limits s.stateFile payloadHash submitResult)
    (hnext : get submitResult "next_action" = .str "reconcile_by_txn_hash")
    (hhash : get submitResult "txn_hash" = .str txnHash) (hblank : Py.isBlank txnHash = false)
    (hreported : options.blocking = true ∨ ¬ Confirms (get submitResult "watch_result")) :
    ∃ d, (settle py env controller session options (.dict submitResult) s).2.log = s.log ++ d ∧
      (ledger (settle py env controller session options (.dict submitResult) s).2.stateFile
          payloadHash = some txnHash ∨ ∃ e ∈ d, ConfirmedWatch txnHash e) := by
  obtain ⟨file, happly, -, hentry⟩ := recordIfUnresolved_apply hstore hpayload hfits
  rw [settle_dict, FailState.bind_ok happly]
  obtain ⟨d, hd, hkept⟩ := keepsEntry_afterRecord hpayload hnext hhash hreported
    { s with stateFile := file }
  exact ⟨d, hd, hkept (hentry txnHash hnext (nonBlank_eq_some_iff.mpr ⟨hhash, hblank⟩))⟩

end Settle

/-! ## Calls, one after another -/

/-- A call of the host; each may be made by a process of its own. -/
inductive Call
  | prepare (controller : TransferController) (args : PrepareArgs)
  | submit (controller : TransferController) (session : TransferSession) (options : SubmitOptions)

def step (py : Interpreter) (env : Surroundings) (s : HostState) : Call → HostState
  | .prepare controller args => (prepareSession py env controller args s).2
  | .submit controller session options =>
    (TransferController.submit py env controller session options s).2

/-- The payload a call of `submit` is for. -/
def Call.payload (py : Interpreter) : Call → Option String
  | .submit _ session _ => (sessionPayloadSha256 py session).toOption
  | .prepare .. => none

def Call.signed : Call → Py
  | .submit _ session _ => session.signedTxnBcsHex
  | .prepare .. => .none

/-- The calls share one store. -/
def Call.Shares (limits : StoreLimits) : Call → Prop
  | .submit controller _ _ | .prepare controller _ => controller.stateStore = some limits

/-- The ledger does not grow past its limit in this call. -/
def WithinLimits (py : Interpreter) (env : Surroundings) (limits : StoreLimits) (s : HostState)
    (call : Call) : Prop :=
  ∀ payloadHash arguments reply submitResult, call.payload py = some payloadHash →
    .node .submitSignedTransaction arguments reply ∈ newEvents s (step py env s call) →
    toolResult .submitSignedTransaction reply = .ok (.dict submitResult) →
    Fits limits s.stateFile payloadHash submitResult

/-- How the call may wait for its transaction. -/
def Call.submitOptions : Call → SubmitOptions
  | .submit _ _ options => options
  | .prepare .. => ⟨0, none, true⟩

/-- Every answer of this call to a submission is definite or traceable. `txnHash` is the hash of the
transaction in the signed bytes. -/
def AnswersTraceable (py : Interpreter) (env : Surroundings) (txnHash : Py → String) (s : HostState)
    (call : Call) : Prop :=
  ∀ arguments reply, .node .submitSignedTransaction arguments reply ∈ newEvents s (step py env s call) →
    Definite reply ∨ Traceable (txnHash call.signed) call.submitOptions reply

/-- After an attempt without a definite answer, no call for the same payload submits before a watch
has confirmed the transaction of that attempt. -/
def NoBlindResubmit (py : Interpreter) (env : Surroundings) (txnHash : Py → String) (s : HostState)
    (calls : List Call) : Prop :=
  ∀ before first between again after payloadHash,
    calls = before ++ first :: (between ++ again :: after) →
    first.payload py = some payloadHash → again.payload py = some payloadHash →
    ∀ s₁ s₂, s₁ = Trace.run (step py env) s before →
      s₂ = Trace.run (step py env) s (before ++ first :: between) →
    (∃ arguments reply, .node .submitSignedTransaction arguments reply ∈
      newEvents s₁ (step py env s₁ first) ∧ ¬ Definite reply) →
    (∃ arguments reply, .node .submitSignedTransaction arguments reply ∈
      newEvents s₂ (step py env s₂ again)) →
    ∃ e ∈ newEvents s₁ s₂, ConfirmedWatch (txnHash first.signed) e

section Runs

variable {limits : StoreLimits} {payloadHash txnHash : String} {s : HostState}

theorem keepsEntry_callWallet (tool : WalletTool) (arguments : List (String × Py)) :
    Moves (KeepsEntry payloadHash txnHash) (callWallet env tool arguments) :=
  fun _ => ⟨[_], rfl, .inl⟩

theorem keepsEntry_callNode (tool : NodeTool) (arguments : List (String × Py)) :
    Moves (KeepsEntry payloadHash txnHash) (callNode env tool arguments) :=
  fun _ => ⟨[_], rfl, .inl⟩

theorem keepsEntry_recordPrepared :
    Moves (KeepsEntry payloadHash txnHash) (recordPrepared py env limits session) := by
  intro s
  obtain ⟨r, file, happly, hledger⟩ := recordPrepared_apply s
  rw [happly]
  refine ⟨[], (List.append_nil _).symm, fun h => .inl ?_⟩
  exact (hledger payloadHash).trans h

theorem keepsEntry_prepareSession {args : PrepareArgs} :
    Moves (KeepsEntry payloadHash txnHash) (prepareSession py env controller args) := by
  refine keepsEntry_bind (keepsEntry_still fun _ => rfl) fun _ => ?_
  refine keepsEntry_bind (keepsEntry_still fun _ => rfl) fun _ => ?_
  refine keepsEntry_bind (keepsEntry_callWallet _ _) fun _ => ?_
  refine keepsEntry_bind (keepsEntry_callWallet _ _) fun _ => ?_
  refine keepsEntry_bind (keepsEntry_callWallet _ _) fun _ => ?_
  refine keepsEntry_bind (keepsEntry_still fun _ => rfl) fun _ => ?_
  refine keepsEntry_bind (keepsEntry_callNode _ _) fun _ => ?_
  refine keepsEntry_bind (keepsEntry_still fun _ => rfl) fun _ => ?_
  refine keepsEntry_bind ?_ fun _ => keepsEntry_still fun _ => rfl
  unfold recordIfKept
  cases controller.stateStore with
  | none => exact keepsEntry_still fun _ => rfl
  | some limits => exact keepsEntry_recordPrepared

/-- A submission that goes out changes no entry but its own. -/
theorem submitted_frame (hstore : controller.stateStore = some limits) {chainContext : Py}
    (hcleared : Cleared py s.stateFile session payloadHash chainContext)
    (hlimits : WithinLimits py env limits s (.submit controller session options)) :
    Frame payloadHash s (submit py env controller session options s).2 := by
  have hsome : controller.stateStore.isSome := by
    rw [hstore]
    rfl
  obtain ⟨watches, hevents, -⟩ :=
    @newEvents_of_cleared py env controller session options hsome s _ _ hcleared
  have hpayload : (Call.submit controller session options).payload py = some payloadHash := by
    show (sessionPayloadSha256 py session).toOption = some payloadHash
    rw [hcleared.payload]
    rfl
  have hfits := fun submitResult =>
    hlimits payloadHash _ _ submitResult hpayload (hevents ▸ List.mem_cons_self ..)
  rw [submit_of_cleared hsome hcleared]
  let arguments := submitArguments session options chainContext
  let reply := env.node s.log .submitSignedTransaction (.dict arguments)
  let sent : HostState :=
    { s with log := s.log ++ [.node .submitSignedTransaction (.dict arguments) reply] }
  have hcall : callNode env .submitSignedTransaction arguments s =
      (toolResult .submitSignedTransaction reply, sent) := rfl
  have hsent : Frame payloadHash s sent := ⟨⟨[_], rfl⟩, fun _ _ => rfl⟩
  cases hresult : toolResult .submitSignedTransaction reply with
  | error e =>
    rw [hresult] at hcall
    rw [FailState.bind_error hcall]
    exact hsent
  | ok answer =>
    rw [hresult] at hcall
    rw [FailState.bind_ok hcall]
    refine hsent.trans (settle_frame hstore hcleared.payload fun items heq => ?_)
    exact hfits items (hresult.trans (congrArg _ heq))

/-- One call: an entry stays, or its transaction was confirmed. -/
theorem keepsEntry_step {call : Call} (hshares : call.Shares limits)
    (hlimits : WithinLimits py env limits s call) :
    KeepsEntry payloadHash txnHash s (step py env s call) := by
  cases call with
  | prepare controller args => exact keepsEntry_prepareSession s
  | submit controller session options =>
    have hstore : controller.stateStore = some limits := hshares
    have hsome : controller.stateStore.isSome := by
      rw [hstore]
      rfl
    show KeepsEntry payloadHash txnHash s (submit py env controller session options s).2
    rcases submit_cases hsome s with ⟨e, h⟩ | ⟨key, record, hpayload, hrecord, h⟩ |
      ⟨key, chainContext, hcleared, -⟩
    · rw [h]
      exact KeepsEntry.refl s
    · rw [h]
      have hframe : Frame key s (reconcile py env session options record s).2 :=
        frame_reconcile hpayload record s
      by_cases hkey : payloadHash = key
      · subst hkey
        by_cases hhash : record.txnHash = txnHash
        · exact keepsEntry_reconcile hpayload hhash s
        · -- the ledger holds another hash for this payload
          obtain ⟨⟨d, hd⟩, -⟩ := hframe
          refine ⟨d, hd, fun hentry => absurd ?_ hhash⟩
          exact Option.some.inj ((unresolvedRecord_eq_some hrecord).symm.trans hentry)
      · exact hframe.keepsEntry hkey
    · have hframe := submitted_frame hstore hcleared hlimits
      by_cases hkey : payloadHash = key
      · -- nothing was kept for this payload
        subst hkey
        obtain ⟨⟨d, hd⟩, -⟩ := hframe
        refine ⟨d, hd, fun hentry => ?_⟩
        cases hentry.symm.trans (unresolvedRecord_eq_none hcleared.resolved)
      · exact hframe.keepsEntry hkey

/-- Any number of calls, by induction. -/
theorem keepsEntry_run {calls : List Call} : ∀ {s : HostState}, (∀ call ∈ calls, call.Shares limits) →
    Trace.Along (step py env) (WithinLimits py env limits) s calls →
    KeepsEntry payloadHash txnHash s (Trace.run (step py env) s calls) := by
  induction calls with
  | nil => exact fun _ _ => KeepsEntry.refl _
  | cons call calls ih =>
    intro s hshares halong
    have hfirst : KeepsEntry payloadHash txnHash s (step py env s call) :=
      keepsEntry_step (hshares call (List.mem_cons_self ..)) halong.1
    exact hfirst.trans (ih (fun c hc => hshares c (List.mem_cons_of_mem _ hc)) halong.2)

/-- An attempt without a definite answer leaves its entry, unless its transaction was confirmed at
once. -/
theorem submitted_entry {txnHash : Py → String} (hstore : controller.stateStore = some limits)
    (hpayload : sessionPayloadSha256 py session = .ok payloadHash)
    (hlimits : WithinLimits py env limits s (.submit controller session options))
    (hanswers : AnswersTraceable py env txnHash s (.submit controller session options))
    {arguments : Py} {reply : Except Exc Completed}
    (hevent : .node .submitSignedTransaction arguments reply ∈
      newEvents s (submit py env controller session options s).2) (hindefinite : ¬ Definite reply) :
    ∃ d, (submit py env controller session options s).2.log = s.log ++ d ∧
      (ledger (submit py env controller session options s).2.stateFile payloadHash =
          some (txnHash session.signedTxnBcsHex) ∨
        ∃ e ∈ d, ConfirmedWatch (txnHash session.signedTxnBcsHex) e) := by
  have hsome : controller.stateStore.isSome := by
    rw [hstore]
    rfl
  rcases cleared_or_watches hsome s with ⟨key, chainContext, hcleared⟩ | hwatches
  · obtain rfl : key = payloadHash := Except.ok.inj (hcleared.payload.symm.trans hpayload)
    let sentArguments := submitArguments session options chainContext
    let sentReply := env.node s.log .submitSignedTransaction (.dict sentArguments)
    have hreply : reply = sentReply := (submitted_reply hsome hcleared hevent).2
    have htraceable : Traceable (txnHash session.signedTxnBcsHex) options reply :=
      (hanswers arguments reply hevent).resolve_left hindefinite
    obtain ⟨submitResult, hresult, hnext, hhash, hblank, hreported⟩ := htraceable
    have hfits : Fits limits s.stateFile key submitResult := by
      refine hlimits key arguments reply submitResult ?_ hevent hresult
      show (sessionPayloadSha256 py session).toOption = some key
      rw [hpayload]
      rfl
    let sent : HostState := { s with log := s.log ++
      [.node .submitSignedTransaction (.dict sentArguments) sentReply] }
    have hcall : callNode env .submitSignedTransaction sentArguments s =
        (.ok (.dict submitResult), sent) := by
      rw [hreply] at hresult
      rw [← hresult]
      rfl
    rw [submit_of_cleared hsome hcleared, FailState.bind_ok hcall]
    obtain ⟨d, hd, hentry⟩ := @settle_entry py env controller session options key limits
      submitResult hstore sent _ hpayload hfits hnext hhash hblank hreported
    refine ⟨.node .submitSignedTransaction (.dict sentArguments) sentReply :: d, ?_, ?_⟩
    · rw [hd]
      exact List.append_assoc _ _ _
    · rcases hentry with h | ⟨e, he, hwatch⟩
      · exact .inl h
      · exact .inr ⟨e, List.mem_cons_of_mem _ he, hwatch⟩
  · exact (hwatches _ hevent).elim

/-- While the entry is there, nothing is submitted for its payload. -/
theorem not_submitted_of_entry (hsome : controller.stateStore.isSome)
    (hpayload : sessionPayloadSha256 py session = .ok payloadHash)
    (hentry : ledger s.stateFile payloadHash = some txnHash) {arguments : Py}
    {reply : Except Exc Completed} :
    .node .submitSignedTransaction arguments reply ∉
      newEvents s (submit py env controller session options s).2 := by
  intro hevent
  rcases cleared_or_watches hsome s with ⟨key, chainContext, hcleared⟩ | hwatches
  · obtain rfl : key = payloadHash := Except.ok.inj (hcleared.payload.symm.trans hpayload)
    cases hentry.symm.trans (unresolvedRecord_eq_none hcleared.resolved)
  · exact (hwatches _ hevent).elim

end Runs

/-- In a run whose answers are all definite or traceable, nothing is submitted blindly again. -/
theorem no_blind_resubmit_of_traceable (py : Interpreter) (env : Surroundings)
    (txnHash : Py → String) (limits : StoreLimits) (s : HostState) (calls : List Call)
    (hshares : ∀ call ∈ calls, call.Shares limits)
    (hlimits : Trace.Along (step py env) (WithinLimits py env limits) s calls)
    (hanswers : Trace.Along (step py env) (AnswersTraceable py env txnHash) s calls) :
    NoBlindResubmit py env txnHash s calls := by
  rintro before first between again after payloadHash rfl hfirst hagain s₁ s₂ rfl rfl
    ⟨arguments, reply, hevent, hindefinite⟩ ⟨arguments', reply', hevent'⟩
  have hlimits₁ := (Trace.along_append.mp hlimits).2
  have hanswers₁ := hanswers.at_split
  cases first with
  | prepare controller args => cases hfirst
  | submit controller session options =>
  cases again with
  | prepare controller' args' => cases hagain
  | submit controller' session' options' =>
  have hpayload : ∀ {x : Except Exc String}, x.toOption = some payloadHash → x = .ok payloadHash := by
    intro x hx
    cases x with
    | error e => cases hx
    | ok key => exact congrArg _ (Option.some.inj hx)
  have hstore : controller.stateStore = some limits :=
    hshares (.submit controller session options) (by simp)
  have hstore' : controller'.stateStore.isSome := by
    have h : controller'.stateStore = some limits := hshares (.submit controller' session' options')
      (by simp)
    rw [h]
    rfl
  -- the entry of the attempt, or its confirmation
  obtain ⟨d, hd, hentry⟩ := submitted_entry hstore (hpayload hfirst) hlimits₁.1 hanswers₁ hevent
    hindefinite
  -- and the calls after it
  have hbetween : KeepsEntry payloadHash (txnHash session.signedTxnBcsHex)
      (step py env (Trace.run (step py env) s before) (.submit controller session options))
      (Trace.run (step py env) (step py env (Trace.run (step py env) s before)
        (.submit controller session options)) between) := by
    refine keepsEntry_run (fun c hc => hshares c (by simp [hc])) ?_
    exact (Trace.along_append.mp hlimits₁.2).1
  obtain ⟨d', hd', hkept⟩ := hbetween
  have hrun : Trace.run (step py env) s (before ++ .submit controller session options :: between) =
      Trace.run (step py env) (step py env (Trace.run (step py env) s before)
        (.submit controller session options)) between := by
    rw [Trace.run_append, Trace.run_cons]
  have hlog : newEvents (Trace.run (step py env) s before)
      (Trace.run (step py env) s (before ++ .submit controller session options :: between)) = d ++ d' := by
    refine newEvents_eq ?_
    rw [hrun, hd', ← List.append_assoc]
    exact congrArg (· ++ d') hd
  rw [hlog]
  rcases hentry with h | ⟨e, he, hwatch⟩
  · rcases hkept h with hlast | ⟨e, he, hwatch⟩
    · rw [hrun] at hevent'
      exact absurd hevent' (not_submitted_of_entry hstore' (hpayload hagain) hlast)
    · exact ⟨e, List.mem_append_right _ he, hwatch⟩
  · exact ⟨e, List.mem_append_left _ he, hwatch⟩

/-! ## A process that fails after it may have sent the transaction -/

namespace Sample

/-- The state after the transfer was prepared. -/
def preparedFile : Option Py :=
  writeState [("version", .int stateVersion),
    ("prepared_transactions", .dict [(preparedDigest,
      preparedRecord preparedDigest "2026-01-01T00:00:00Z" (signedSession "0x0102ff"))]),
    ("unresolved_submissions", .dict [])]

def submission : Call := .submit host (signedSession "0x0102ff") ⟨30, none, true⟩

/-- A node that answers every submission in one way, and confirms what it is asked to watch. -/
def answering (reply : Completed) : Surroundings where
  wallet _ _ _ := .error (.osError "no wallet")
  node _ tool _ :=
    match tool with
    | .watchTransaction => .ok ⟨0, "", .text (.ok (.dict [("confirmed", .bool true)]))⟩
    | _ => .ok reply
  now _ := "2026-01-01T00:00:00Z"

def unknownReply : Completed := ⟨0, "", .text (.ok (.dict [("txn_hash", .str "0xhash"),
  ("submission_state", .str "unknown"), ("submitted", .bool false),
  ("next_action", .str "reconcile_by_txn_hash"), ("error_code", .str "submission_unknown"),
  ("watch_result", .none)]))⟩

/-- The process ended with an error, whatever it had sent by then. -/
def failedReply : Completed := ⟨1, "error: operation timed out", .empty⟩

theorem submission_shares : ∀ call ∈ [submission, submission], call.Shares {} := by
  intro call hcall
  have heq : call = submission := by simpa using hcall
  rw [heq]
  rfl

theorem withinLimits_of_empty {py : Interpreter} {env : Surroundings} {s : HostState} {call : Call}
    (h : unresolvedRecords (readState s.stateFile) = []) : WithinLimits py env {} s call := by
  intro payloadHash _ _ _ _ _ _ _ _
  unfold HasRoom
  rw [h]
  show ((1 : Nat) : Int) ≤ 128
  decide

end Sample

open Sample

theorem no_blind_resubmit_of_traceable_unknown :
    (∀ call ∈ [submission, submission], call.Shares {}) ∧
    Trace.Along (step interpreter (answering unknownReply))
      (WithinLimits interpreter (answering unknownReply) {}) ⟨preparedFile, []⟩
      [submission, submission] ∧
    Trace.Along (step interpreter (answering unknownReply))
      (AnswersTraceable interpreter (answering unknownReply) fun _ => "0xhash") ⟨preparedFile, []⟩
      [submission, submission] ∧
    NoBlindResubmit interpreter (answering unknownReply) (fun _ => "0xhash") ⟨preparedFile, []⟩
      [submission, submission] := by
  have hlimits : Trace.Along (step interpreter (answering unknownReply))
      (WithinLimits interpreter (answering unknownReply) {}) ⟨preparedFile, []⟩
      [submission, submission] :=
    ⟨withinLimits_of_empty rfl, withinLimits_of_empty rfl, trivial⟩
  have htraceable : ∀ s, AnswersTraceable interpreter (answering unknownReply) (fun _ => "0xhash") s
      submission := by
    intro s arguments reply hevent
    have hstore : host.stateStore.isSome := rfl
    rcases cleared_or_watches hstore s with ⟨key, chainContext, hcleared⟩ | hwatches
    · rw [(submitted_reply hstore hcleared hevent).2]
      exact .inr ⟨_, rfl, rfl, rfl, by decide +kernel, .inl rfl⟩
    · exact (hwatches _ hevent).elim
  refine ⟨submission_shares, hlimits, ⟨htraceable _, htraceable _, trivial⟩, ?_⟩
  exact no_blind_resubmit_of_traceable interpreter (answering unknownReply) (fun _ => "0xhash") {}
    ⟨preparedFile, []⟩ [submission, submission] submission_shares hlimits
    ⟨htraceable _, htraceable _, trivial⟩

/-- The node process fails after the submission; the next call submits the same payload again. -/
theorem failed_process_resubmitted :
    (∀ call ∈ [submission, submission], call.Shares {}) ∧
    Trace.Along (step interpreter (answering failedReply))
      (WithinLimits interpreter (answering failedReply) {}) ⟨preparedFile, []⟩
      [submission, submission] ∧
    ¬ NoBlindResubmit interpreter (answering failedReply) (fun _ => "0xhash") ⟨preparedFile, []⟩
      [submission, submission] := by
  refine ⟨submission_shares,
    ⟨withinLimits_of_empty rfl, withinLimits_of_empty rfl, trivial⟩, fun h => ?_⟩
  obtain ⟨e, he, arguments, reply, _, rfl, -⟩ := h [] submission [] submission [] preparedDigest rfl rfl
    rfl _ _ rfl rfl ⟨_, _, List.mem_cons_self .., fun ⟨_, hresult, _⟩ => nomatch hresult⟩
    ⟨_, _, List.mem_cons_self ..⟩
  rcases List.mem_cons.mp he with heq | hmem
  · injection heq with htool
    cases htool
  · cases hmem

end StarcoinMcp.Host
