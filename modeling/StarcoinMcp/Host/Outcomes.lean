import StarcoinMcp.Host.Resubmit

/-! What the outcome of a submission says about the transaction. It is a success when the
node has accepted the transaction and the last watch has confirmed it. Confirmed means
included in a block deep enough: what the VM made of the transaction is not asked. And a
transaction whose submission the node was not sure of is reported as no success by the
call that submitted it, even where the watch of the same call confirms it; the next call
would report it as a success. -/

namespace StarcoinMcp.Host

open TransferController
open FailState (Moves)
open Py (get lookup isStr_iff)

variable {py : Interpreter} {env : Surroundings} {controller : TransferController}
variable {session : TransferSession} {options : SubmitOptions} {s s' : HostState}
variable {outcome : TransferSubmitOutcome}

/-! ## The last watch -/

/-- The watch result that came with an event: the answer to a watch, or the one the node put into
its answer to the submission. -/
def watchOf : Event → Py
  | .node .watchTransaction _ reply => (toolResult .watchTransaction reply).toOption.getD .none
  | .node .submitSignedTransaction _ reply =>
    match toolResult .submitSignedTransaction reply with
    | .ok (.dict submitResult) => get submitResult "watch_result"
    | _ => .none
  | _ => .none

def lastWatch (events : List Event) : Py := (events.getLast?.map watchOf).getD .none

instance : DecidablePred Confirms
  | .dict items => decidable_of_iff ((get items "confirmed").truthy = true)
      ⟨fun h => ⟨items, rfl, h⟩, fun ⟨_, heq, h⟩ => Py.dict.inj heq ▸ h⟩
  | .none | .bool _ | .int _ | .float _ | .str _ | .list _ => isFalse fun ⟨_, heq, _⟩ => nomatch heq

/-- What the node answered when the transaction was submitted. -/
def Answers (events : List Event) (submitResult : List (String × Py)) : Prop :=
  ∃ arguments reply, .node .submitSignedTransaction arguments reply ∈ events ∧
    toolResult .submitSignedTransaction reply = .ok (.dict submitResult)

/-- `watchResult` is what the node said about the transaction with the hash in `submitResult`: the
answer to a watch of it, or a part of the answer to the submission itself. -/
def WatchedIn (events : List Event) (submitResult : List (String × Py)) (watchResult : Py) : Prop :=
  (∃ arguments reply, events.getLast? = some (.node .watchTransaction arguments reply) ∧
    arguments.callGet "txn_hash" = .ok (get submitResult "txn_hash") ∧
    toolResult .watchTransaction reply = .ok watchResult) ∨
  (∃ arguments reply, events = [.node .submitSignedTransaction arguments reply] ∧
    toolResult .submitSignedTransaction reply = .ok (.dict submitResult) ∧
    watchResult = get submitResult "watch_result")

theorem WatchedIn.lastWatch_eq {events : List Event} {submitResult : List (String × Py)}
    {watchResult : Py} (h : WatchedIn events submitResult watchResult) : lastWatch events =
      watchResult := by
  unfold lastWatch
  rcases h with ⟨arguments, reply, hlast, -, hreply⟩ | ⟨arguments, reply, rfl, hreply, rfl⟩
  · rw [hlast]
    show (toolResult .watchTransaction reply).toOption.getD .none = watchResult
    rw [hreply]
    rfl
  · show watchOf (.node .submitSignedTransaction arguments reply) = _
    simp only [watchOf, hreply]

/-! ## The steps of a call that returned -/

theorem confirms_iff_of_watchConfirmed {watchResult : Py} {b : Bool}
    (h : watchConfirmed watchResult = .ok b) : b = true ↔ Confirms watchResult := by
  cases b with
  | true =>
    refine iff_of_true rfl ?_
    by_contra hnot
    exact watchConfirmed_of_not_confirms hnot h
  | false =>
    refine iff_of_false nofun ?_
    rintro ⟨items, rfl, htruthy⟩
    have hfalse : (get items "confirmed").truthy = false := Except.ok.inj h
    rw [htruthy] at hfalse
    cases hfalse

theorem watchTransaction_ok {txnHash watchResult : Py}
    (h : watchTransaction env options txnHash s = (.ok watchResult, s')) :
    ∃ arguments reply, arguments.callGet "txn_hash" = .ok txnHash ∧
      toolResult .watchTransaction reply = .ok watchResult ∧
      s' = { s with log := s.log ++ [.node .watchTransaction arguments reply] } := by
  obtain ⟨hresult, hs⟩ := Prod.mk.inj h
  exact ⟨_, _, rfl, hresult, hs.symm⟩

theorem clearWhen_ok {confirmed : Bool} (h : clearWhen py confirmed session s = (.ok (), s')) :
    s'.log = s.log ∧ (confirmed = false → s' = s) ∧
      (confirmed = true → ∀ payloadHash, sessionPayloadSha256 py session = .ok payloadHash →
        ledger s'.stateFile payloadHash = none) := by
  cases confirmed with
  | false =>
    cases h
    exact ⟨rfl, fun _ => rfl, nofun⟩
  | true =>
    have hclear : clearUnresolvedSubmission py session s = (.ok (), s') := h
    refine ⟨log_eq_of_appends appends_clearUnresolvedSubmission hclear, nofun, ?_⟩
    intro _ payloadHash hpayload
    obtain ⟨file, happly, hledger⟩ := clearUnresolvedSubmission_apply hpayload s
    rw [happly] at hclear
    cases hclear
    exact (hledger payloadHash).trans (if_pos rfl)

/-- A confirmed watch clears the entry of the payload; any other changes nothing. -/
theorem clearIfConfirmed_ok {watchResult : Py}
    (h : clearIfConfirmed py controller session watchResult s = (.ok (), s')) :
    s'.log = s.log ∧ (¬ Confirms watchResult → s' = s) ∧
      (Confirms watchResult → controller.stateStore.isSome → ∀ payloadHash,
        sessionPayloadSha256 py session = .ok payloadHash →
          ledger s'.stateFile payloadHash = none) := by
  refine ⟨log_eq_of_appends appends_clearIfConfirmed h, fun hnot => ?_,
    fun hconfirms hstore payloadHash hpayload => ?_⟩
  · have hstill : (clearIfConfirmed py controller session watchResult s).2 = s :=
      clearIfConfirmed_still hnot s
    rw [h] at hstill
    exact hstill
  · unfold clearIfConfirmed at h
    rw [if_pos hstore] at h
    obtain ⟨b, t, hwatch, hclear⟩ := FailState.bind_apply_eq_ok h
    obtain ⟨hb, rfl⟩ := FailState.lift_eq_ok hwatch
    have hconfirmed := (confirms_iff_of_watchConfirmed hb).mpr hconfirms
    exact (clearWhen_ok hclear).2.2 hconfirmed payloadHash hpayload

theorem clearIfReconciled_ok {watchResult : Py}
    (h : clearIfReconciled py controller session watchResult s = (.ok (), s')) :
    s'.log = s.log ∧ (¬ Confirms watchResult → s' = s) := by
  refine ⟨log_eq_of_appends appends_clearIfReconciled h, fun hnot => ?_⟩
  have hstill : (clearIfReconciled py controller session watchResult s).2 = s :=
    clearIfReconciled_still hnot s
  rw [h] at hstill
  exact hstill

theorem conclude_ok {submitResult : List (String × Py)} {watchResult : Py}
    {watchSource : Option String}
    (h : conclude submitResult watchResult watchSource = .ok outcome) :
    outcome.submitResult = submitResult ∧ outcome.watchResult = watchResult ∧
      (outcome.success = true ↔ get submitResult "submission_state" = .str "accepted" ∧
        Confirms watchResult) := by
  unfold conclude at h
  obtain ⟨guidance, -, h₁⟩ := bind_eq_ok h
  obtain ⟨state, hstate, h₂⟩ := bind_eq_ok h₁
  rw [Py.get_of_item hstate, ← isStr_iff]
  dsimp only at h₂
  split at h₂
  next haccepted =>
    obtain ⟨confirmed, hconfirmed, h₃⟩ := bind_eq_ok h₂
    cases h₃
    refine ⟨rfl, rfl, ?_⟩
    rw [← confirms_iff_of_watchConfirmed hconfirmed]
    exact (and_iff_right haccepted).symm
  next haccepted =>
    cases h₂
    exact ⟨rfl, rfl, iff_of_false Bool.false_ne_true fun h => haccepted h.1⟩

/-- The watch that follows an answer, if there is one, is of the transaction the answer names. -/
theorem followUp_ok {submitResult : List (String × Py)} {reported watchResult : Py}
    {watchSource watchSource' : Option String}
    (h : followUp py env controller session options submitResult reported watchSource s =
      (.ok (watchResult, watchSource'), s')) :
    (s' = s ∧ watchResult = reported) ∨
    ∃ arguments reply, s'.log = s.log ++ [.node .watchTransaction arguments reply] ∧
      arguments.callGet "txn_hash" = .ok (get submitResult "txn_hash") ∧
      toolResult .watchTransaction reply = .ok watchResult ∧
      (¬ Confirms watchResult → s'.stateFile = s.stateFile) := by
  unfold followUp at h
  split at h
  · cases h
    exact .inl ⟨rfl, rfl⟩
  obtain ⟨nextAction, t₁, hlift, h₁⟩ := FailState.bind_apply_eq_ok h
  obtain ⟨-, rfl⟩ := FailState.lift_eq_ok hlift
  split at h₁
  · obtain ⟨txnHash, t₂, hlift, h₂⟩ := FailState.bind_apply_eq_ok h₁
    obtain ⟨hhash, rfl⟩ := FailState.lift_eq_ok hlift
    obtain ⟨watched, t₃, hwatch, h₃⟩ := FailState.bind_apply_eq_ok h₂
    obtain ⟨arguments, reply, harguments, hreply, rfl⟩ := watchTransaction_ok hwatch
    obtain ⟨_, t₄, hclear, h₄⟩ := FailState.bind_apply_eq_ok h₃
    cases h₄
    rw [← Py.get_of_item hhash] at harguments
    obtain ⟨hlog, hstill⟩ := clearIfReconciled_ok hclear
    refine .inr ⟨arguments, reply, hlog, harguments, hreply, fun hnot => ?_⟩
    rw [hstill hnot]
  · obtain ⟨state, t₂, hlift, h₂⟩ := FailState.bind_apply_eq_ok h₁
    obtain ⟨-, rfl⟩ := FailState.lift_eq_ok hlift
    split at h₂
    · obtain ⟨txnHash, t₃, hlift, h₃⟩ := FailState.bind_apply_eq_ok h₂
      obtain ⟨hhash, rfl⟩ := FailState.lift_eq_ok hlift
      obtain ⟨watched, t₄, hwatch, h₄⟩ := FailState.bind_apply_eq_ok h₃
      obtain ⟨arguments, reply, harguments, hreply, rfl⟩ := watchTransaction_ok hwatch
      cases h₄
      rw [← Py.get_of_item hhash] at harguments
      exact .inr ⟨arguments, reply, rfl, harguments, hreply, fun _ => rfl⟩
    · cases h₂
      exact .inl ⟨rfl, rfl⟩

/-- What looking after an unresolved submission comes to. -/
theorem reconcile_ok {record : UnresolvedSubmissionRecord}
    (h : reconcile py env session options record s = (.ok outcome, s')) :
    ∃ arguments reply, newEvents s s' = [.node .watchTransaction arguments reply] ∧
      arguments.callGet "txn_hash" = .ok (.str record.txnHash) ∧
      toolResult .watchTransaction reply = .ok outcome.watchResult ∧
      get outcome.submitResult "txn_hash" = .str record.txnHash ∧
      (outcome.success = true ↔ Confirms outcome.watchResult) ∧
      (¬ Confirms outcome.watchResult → s'.stateFile = s.stateFile) ∧
      (Confirms outcome.watchResult →
        get outcome.submitResult "submission_state" = .str "accepted" ∧
        ∀ payloadHash, sessionPayloadSha256 py session = .ok payloadHash →
          ledger s'.stateFile payloadHash = none) := by
  unfold reconcile at h
  obtain ⟨watched, t₁, hwatch, h₁⟩ := FailState.bind_apply_eq_ok h
  obtain ⟨arguments, reply, harguments, hreply, rfl⟩ := watchTransaction_ok hwatch
  obtain ⟨confirmed, t₂, hlift, h₂⟩ := FailState.bind_apply_eq_ok h₁
  obtain ⟨hconfirmed, rfl⟩ := FailState.lift_eq_ok hlift
  obtain ⟨_, t₃, hclear, h₃⟩ := FailState.bind_apply_eq_ok h₂
  obtain ⟨guidance, t₄, hlift, h₄⟩ := FailState.bind_apply_eq_ok h₃
  obtain ⟨-, rfl⟩ := FailState.lift_eq_ok hlift
  cases h₄
  have hiff : confirmed.truthy = true ↔ Confirms watched := by
    cases watched with
    | dict items =>
      cases hconfirmed
      refine ⟨fun h => ⟨items, rfl, h⟩, ?_⟩
      rintro ⟨items', heq, h⟩
      cases heq
      exact h
    | _ => cases hconfirmed
  obtain ⟨hlog, hsame, hcleared⟩ := clearWhen_ok hclear
  refine ⟨arguments, reply, newEvents_eq hlog, harguments, hreply, ?_, hiff, fun hnot => ?_,
    fun hconfirms => ⟨?_, ?_⟩⟩
  · show get (reconciledResult record.txnHash confirmed.truthy) "txn_hash" = _
    cases confirmed.truthy <;> rfl
  · have hfalse : confirmed.truthy = false := by
      cases h : confirmed.truthy with
      | false => rfl
      | true => exact absurd (hiff.mp h) hnot
    rw [hsame hfalse]
  · show get (reconciledResult record.txnHash confirmed.truthy) "submission_state" = _
    rw [hiff.mpr hconfirms]
    rfl
  · exact hcleared (hiff.mpr hconfirms)

/-- What settling an answer comes to. `recorded` is the state once the answer has got its entry. -/
theorem settle_ok {answer : Py}
    (h : settle py env controller session options answer s = (.ok outcome, s')) :
    ∃ recorded d, answer = .dict outcome.submitResult ∧
      recordIfUnresolved py env controller session outcome.submitResult s = (.ok (), recorded) ∧
      s'.log = s.log ++ d ∧
      ((d = [] ∧ outcome.watchResult = get outcome.submitResult "watch_result") ∨
        ∃ arguments reply, d = [.node .watchTransaction arguments reply] ∧
          arguments.callGet "txn_hash" = .ok (get outcome.submitResult "txn_hash") ∧
          toolResult .watchTransaction reply = .ok outcome.watchResult) ∧
      (outcome.success = true ↔ get outcome.submitResult "submission_state" = .str "accepted" ∧
        Confirms outcome.watchResult) ∧
      (¬ Confirms outcome.watchResult → s'.stateFile = recorded.stateFile) ∧
      (Confirms outcome.watchResult → controller.stateStore.isSome → ∀ payloadHash,
        sessionPayloadSha256 py session = .ok payloadHash →
          ledger s'.stateFile payloadHash = none) := by
  cases answer with
  | dict submitResult =>
    rw [settle_dict] at h
    obtain ⟨_, recorded, hrecord, h₁⟩ := FailState.bind_apply_eq_ok h
    obtain ⟨⟨watchResult, watchSource⟩, t₂, hfollow, h₂⟩ := FailState.bind_apply_eq_ok h₁
    obtain ⟨_, t₃, hclear, h₃⟩ := FailState.bind_apply_eq_ok h₂
    obtain ⟨hconclude, rfl⟩ := FailState.lift_eq_ok h₃
    obtain ⟨rfl, rfl, hsuccess⟩ := conclude_ok hconclude
    obtain ⟨hlog, hstill, hcleared⟩ := clearIfConfirmed_ok hclear
    have hlog₁ := log_eq_of_appends appends_recordIfUnresolved hrecord
    rcases followUp_ok hfollow with ⟨rfl, hreported⟩ | ⟨arguments, reply, hlog₂, harguments,
      hreply, hsame⟩
    · refine ⟨_, [], rfl, hrecord, ?_, .inl ⟨rfl, hreported⟩, hsuccess, fun hnot => ?_, hcleared⟩
      · rw [hlog, hlog₁, List.append_nil]
      · rw [hstill hnot]
    · refine ⟨recorded, [.node .watchTransaction arguments reply], rfl, hrecord, ?_,
        .inr ⟨arguments, reply, rfl, harguments, hreply⟩, hsuccess, fun hnot => ?_, hcleared⟩
      · rw [hlog, hlog₂, hlog₁]
      · rw [hstill hnot]
        exact hsame hnot
  | _ => cases h

/-- A call of `submit` that returned looked after an unresolved submission, or submitted. -/
theorem submit_ok (h : submit py env controller session options s = (.ok outcome, s')) :
    (∃ payloadHash record, sessionPayloadSha256 py session = .ok payloadHash ∧
      unresolvedRecord py (readState s.stateFile) payloadHash = some record ∧
      reconcile py env session options record s = (.ok outcome, s')) ∨
    (∃ arguments, (controller.stateStore.isSome → ∀ payloadHash,
        sessionPayloadSha256 py session = .ok payloadHash →
          unresolvedRecord py (readState s.stateFile) payloadHash = none) ∧
      (callNode env .submitSignedTransaction arguments >>=
        settle py env controller session options) s = (.ok outcome, s')) := by
  cases hstore : controller.stateStore.isSome with
  | true =>
    rcases submit_cases hstore s with ⟨e, he⟩ | ⟨payloadHash, record, hpayload, hrecord, heq⟩ |
      ⟨payloadHash, chainContext, hcleared, heq⟩
    · rw [he] at h
      cases h
    · rw [heq] at h
      exact .inl ⟨payloadHash, record, hpayload, hrecord, h⟩
    · rw [heq] at h
      refine .inr ⟨_, fun _ key hkey => ?_, h⟩
      rw [hcleared.payload] at hkey
      cases hkey
      exact hcleared.resolved
  | false =>
    unfold submit at h
    rw [hstore] at h
    split at h
    · cases h
    · have hsubmit : submitSigned py env controller session options s = (.ok outcome, s') := h
      rcases submitSigned_cases s with ⟨e, he⟩ | ⟨chainContext, -, heq⟩
      · rw [he] at hsubmit
        cases hsubmit
      · rw [heq] at hsubmit
        exact .inr ⟨_, nofun, hsubmit⟩

/-- What a submission comes to. -/
theorem submitted_ok {arguments : List (String × Py)}
    (h : (callNode env .submitSignedTransaction arguments >>=
      settle py env controller session options) s =
      (.ok outcome, s')) :
    ∃ reply recorded, toolResult .submitSignedTransaction reply = .ok (.dict outcome.submitResult) ∧
      recordIfUnresolved py env controller session outcome.submitResult
        { s with log := s.log ++ [.node .submitSignedTransaction (.dict arguments) reply] } =
        (.ok (), recorded) ∧
      (∃ watches, newEvents s s' =
        .node .submitSignedTransaction (.dict arguments) reply :: watches ∧
        ∀ e ∈ watches, IsWatch e) ∧
      WatchedIn (newEvents s s') outcome.submitResult outcome.watchResult ∧
      (outcome.success = true ↔ get outcome.submitResult "submission_state" = .str "accepted" ∧
        Confirms outcome.watchResult) ∧
      (¬ Confirms outcome.watchResult → s'.stateFile = recorded.stateFile) ∧
      (Confirms outcome.watchResult → controller.stateStore.isSome → ∀ payloadHash,
        sessionPayloadSha256 py session = .ok payloadHash →
          ledger s'.stateFile payloadHash = none) := by
  obtain ⟨answer, t, hcall, hsettle⟩ := FailState.bind_apply_eq_ok h
  obtain ⟨hreply, rfl⟩ := Prod.mk.inj hcall
  obtain ⟨recorded, d, rfl, hrecord, hlog, hwatched, hsuccess, hkept, hcleared⟩ := settle_ok hsettle
  have hevents : newEvents s s' = .node .submitSignedTransaction (.dict arguments)
      (env.node s.log .submitSignedTransaction (.dict arguments)) :: d := by
    refine newEvents_eq ?_
    rw [hlog, List.append_assoc]
    rfl
  refine ⟨_, recorded, hreply, hrecord, ⟨d, hevents, ?_⟩, ?_, hsuccess, hkept, hcleared⟩
  · rcases hwatched with ⟨rfl, -⟩ | ⟨watching, reply, rfl, -, -⟩
    · exact fun _ he => nomatch he
    · intro e he
      rw [List.mem_singleton.mp he]
      trivial
  · rw [hevents]
    rcases hwatched with ⟨rfl, hreported⟩ | ⟨watching, reply, rfl, hhash, hwatch⟩
    · exact .inr ⟨_, _, rfl, hreply, hreported⟩
    · exact .inl ⟨watching, reply, rfl, hhash, hwatch⟩

/-! ## Success -/

/-- A success rests on the last watch of the call: it is about the transaction of the submission,
and it has confirmed it. -/
theorem success_rests_on_watch (py : Interpreter) (env : Surroundings)
    (controller : TransferController)
    (session : TransferSession) (options : SubmitOptions) (s s' : HostState)
    (outcome : TransferSubmitOutcome)
    (h : submit py env controller session options s = (.ok outcome, s'))
    (hsuccess : outcome.success = true) :
    WatchedIn (newEvents s s') outcome.submitResult outcome.watchResult ∧
      Confirms outcome.watchResult ∧
        get outcome.submitResult "submission_state" = .str "accepted" := by
  rcases submit_ok h with ⟨payloadHash, record, -, -, hreconcile⟩ | ⟨arguments, -, hsubmitted⟩
  · obtain ⟨arguments, reply, hevents, harguments, hreply, hhash, hiff, -, hconfirmed⟩ :=
      reconcile_ok hreconcile
    have hconfirms := hiff.mp hsuccess
    refine ⟨.inl ⟨arguments, reply, ?_, ?_, hreply⟩, hconfirms, (hconfirmed hconfirms).1⟩
    · rw [hevents]
      rfl
    · rw [harguments, hhash]
  · obtain ⟨reply, recorded, -, -, -, hwatched, hiff, -⟩ := submitted_ok hsubmitted
    obtain ⟨haccepted, hconfirms⟩ := hiff.mp hsuccess
    exact ⟨hwatched, hconfirms, haccepted⟩

/-- `status_summary.vm_status` of a watch result. -/
def vmStatus (watchResult : Py) : Py :=
  match watchResult.callGet "status_summary" with
  | .ok (.dict summary) => get summary "vm_status"
  | _ => .none

namespace Sample

/-- A node that answers the submission and the watch of it in this way. -/
def saying (answer watched : List (String × Py)) : Surroundings where
  wallet _ _ _ := .error (.osError "no wallet")
  node _ tool _ :=
    match tool with
    | .watchTransaction => .ok ⟨0, "", .text (.ok (.dict watched))⟩
    | _ => .ok ⟨0, "", .text (.ok (.dict answer))⟩
  now _ := "2026-01-01T00:00:00Z"

def acceptedAnswer : List (String × Py) :=
  [("txn_hash", .str "0xhash"), ("submission_state", .str "accepted"), ("submitted", .bool true),
    ("next_action", .str "watch_transaction"), ("error_code", .none), ("watch_result", .none)]

/-- The transaction is in a block, as deep as asked for. -/
def includedWith (vmStatus : String) : List (String × Py) :=
  [("txn_hash", .str "0xhash"), ("confirmed", .bool true), ("status_summary", .dict
    [("found", .bool true), ("confirmed", .bool true), ("vm_status", .str vmStatus)])]

/-- The prepared transfer is submitted to such a node. -/
def sent (answer watched : List (String × Py)) : Except Exc TransferSubmitOutcome × HostState :=
  submit interpreter (saying answer watched) host (signedSession "0x0102ff") ⟨30, none, true⟩
    ⟨preparedFile, []⟩

theorem sent_ok {answer watched : List (String × Py)} {α : Type}
    {f : TransferSubmitOutcome → α} {a : α}
    (h : (sent answer watched).1.toOption.map f = some a) :
    ∃ outcome s', sent answer watched = (.ok outcome, s') ∧ f outcome = a := by
  obtain ⟨outcome, houtcome, hf⟩ := Option.map_eq_some_iff.mp h
  cases hsent : sent answer watched with
  | mk r s' =>
    rw [hsent] at houtcome
    cases r with
    | error e => cases houtcome
    | ok outcome' =>
      cases houtcome
      exact ⟨outcome, s', rfl, hf⟩

end Sample

open Sample in
theorem success_of_executed : ∃ outcome s',
    submit interpreter (saying acceptedAnswer (includedWith "Executed")) host
      (signedSession "0x0102ff")
      ⟨30, none, true⟩ ⟨preparedFile, []⟩ = (.ok outcome, s') ∧ outcome.success = true ∧
    WatchedIn (newEvents ⟨preparedFile, []⟩ s') outcome.submitResult outcome.watchResult ∧
    Confirms outcome.watchResult := by
  have hrun : (sent acceptedAnswer (includedWith "Executed")).1.toOption.map (·.success) =
    some true := by
    decide +kernel
  obtain ⟨outcome, s', hsent, hsuccess⟩ := sent_ok hrun
  obtain ⟨hwatched, hconfirms, -⟩ := success_rests_on_watch _ _ _ _ _ _ _ _ hsent hsuccess
  exact ⟨outcome, s', hsent, hsuccess, hwatched, hconfirms⟩

open Sample in
/-- The transaction is in a block, and the VM has aborted it: that is reported as a success. -/
theorem success_of_aborted : ∃ outcome s',
    submit interpreter (saying acceptedAnswer (includedWith "MoveAbort")) host
      (signedSession "0x0102ff")
      ⟨30, none, true⟩ ⟨preparedFile, []⟩ = (.ok outcome, s') ∧ outcome.success = true ∧
    vmStatus outcome.watchResult = .str "MoveAbort" := by
  have hrun : (sent acceptedAnswer (includedWith "MoveAbort")).1.toOption.map (fun outcome =>
      (outcome.success, (vmStatus outcome.watchResult).isStr "MoveAbort")) = some (true, true) := by
    decide +kernel
  obtain ⟨outcome, s', hsent, hfields⟩ := sent_ok hrun
  obtain ⟨hsuccess, hstatus⟩ := Prod.mk.inj hfields
  exact ⟨outcome, s', hsent, hsuccess, isStr_iff.mp hstatus⟩

/-! ## Confirmation -/

/-- The ledger had this record of the payload before the call, or got it with the answer of the
node. -/
def Existing (py : Interpreter) (env : Surroundings) (controller : TransferController)
    (session : TransferSession) (s s' : HostState) (payloadHash : String)
    (record : UnresolvedSubmissionRecord) : Prop :=
  unresolvedRecord py (readState s.stateFile) payloadHash = some record ∨
  ∃ arguments reply submitResult, .node .submitSignedTransaction arguments reply ∈ newEvents s s' ∧
    toolResult .submitSignedTransaction reply = .ok (.dict submitResult) ∧
    unresolvedRecord py (readState (recordIfUnresolved py env controller session submitResult
      { s with log := s.log ++ [.node .submitSignedTransaction arguments reply] }).2.stateFile)
        payloadHash = some record

/-- The outcome is a success, and the ledger free of the payload, if the last watch has confirmed
the transaction; else it is none, and a record of the payload stays. -/
structure ReportsLastWatch (py : Interpreter) (env : Surroundings) (controller : TransferController)
    (session : TransferSession) (s s' : HostState) (outcome : TransferSubmitOutcome) : Prop where
  confirmed : Confirms (lastWatch (newEvents s s')) → outcome.success = true ∧
    (controller.stateStore.isSome →
      ∀ payloadHash, sessionPayloadSha256 py session = .ok payloadHash →
      unresolvedRecord py (readState s'.stateFile) payloadHash = none)
  unconfirmed : ¬ Confirms (lastWatch (newEvents s s')) → outcome.success = false ∧
    ∀ payloadHash record, sessionPayloadSha256 py session = .ok payloadHash →
      Existing py env controller session s s' payloadHash record →
      unresolvedRecord py (readState s'.stateFile) payloadHash = some record

theorem unresolvedRecord_of_ledger {file : Option Py} {payloadHash : String}
    (h : ledger file payloadHash = none) : unresolvedRecord py (readState file) payloadHash =
      none := by
  cases hrecord : unresolvedRecord py (readState file) payloadHash with
  | none => rfl
  | some record =>
    have hsome : ledger file payloadHash = some record.txnHash := unresolvedRecord_eq_some hrecord
    rw [h] at hsome
    cases hsome

/-- Looking after an unresolved submission reports what the watch says. -/
theorem reconcile_reports {record : UnresolvedSubmissionRecord}
    (h : reconcile py env session options record s = (.ok outcome, s')) :
    ReportsLastWatch py env controller session s s' outcome := by
  obtain ⟨arguments, reply, hevents, -, hreply, -, hiff, hkept, hcleared⟩ := reconcile_ok h
  have hlast : lastWatch (newEvents s s') = outcome.watchResult := by
    rw [hevents]
    show (toolResult .watchTransaction reply).toOption.getD .none = _
    rw [hreply]
    rfl
  refine ⟨fun hconfirms => ?_, fun hnot => ?_⟩
  · rw [hlast] at hconfirms
    refine ⟨hiff.mpr hconfirms, fun _ payloadHash hpayload => ?_⟩
    exact unresolvedRecord_of_ledger ((hcleared hconfirms).2 payloadHash hpayload)
  · rw [hlast] at hnot
    refine ⟨?_, fun payloadHash record' _ hexisting => ?_⟩
    · exact Bool.eq_false_iff.mpr fun hsuccess => hnot (hiff.mp hsuccess)
    · rw [hkept hnot]
      rcases hexisting with hbefore | ⟨arguments', reply', submitResult, hmem, -⟩
      · exact hbefore
      · rw [hevents] at hmem
        cases List.mem_singleton.mp hmem

/-- The submission was answered with what the outcome holds. -/
theorem answers_iff {arguments : Py} {reply : Except Exc Completed} {watches : List Event}
    {submitResult : List (String × Py)}
    (hreply : toolResult .submitSignedTransaction reply = .ok (.dict submitResult))
    (hwatches : ∀ e ∈ watches, IsWatch e) (items : List (String × Py)) :
    Answers (.node .submitSignedTransaction arguments reply :: watches) items ↔
      items = submitResult := by
  constructor
  · rintro ⟨arguments', reply', hmem, hreply'⟩
    rcases List.mem_cons.mp hmem with heq | hmem
    · cases heq
      rw [hreply] at hreply'
      cases hreply'
      rfl
    · exact (hwatches _ hmem).elim
  · rintro rfl
    exact ⟨arguments, reply, List.mem_cons_self .., hreply⟩

/-- A record that is there when the answer has got its entry. -/
theorem existing_recorded {arguments : Py} {reply : Except Exc Completed} {watches : List Event}
    {submitResult : List (String × Py)} {recorded : HostState} {payloadHash : String}
    {record : UnresolvedSubmissionRecord}
    (hnone : controller.stateStore.isSome →
      ∀ payloadHash, sessionPayloadSha256 py session = .ok payloadHash →
      unresolvedRecord py (readState s.stateFile) payloadHash = none)
    (hevents : newEvents s s' = .node .submitSignedTransaction arguments reply :: watches)
    (hwatches : ∀ e ∈ watches, IsWatch e)
    (hreply : toolResult .submitSignedTransaction reply = .ok (.dict submitResult))
    (hrecord : recordIfUnresolved py env controller session submitResult
      { s with log := s.log ++ [.node .submitSignedTransaction arguments reply] } =
      (.ok (), recorded))
    (hpayload : sessionPayloadSha256 py session = .ok payloadHash)
    (h : Existing py env controller session s s' payloadHash record) :
    unresolvedRecord py (readState recorded.stateFile) payloadHash = some record := by
  rcases h with hbefore | ⟨arguments', reply', submitResult', hmem, hreply', hafter⟩
  · cases hstore : controller.stateStore with
    | some limits =>
      have hfree := hnone (by rw [hstore]; rfl) payloadHash hpayload
      rw [hfree] at hbefore
      cases hbefore
    | none =>
      unfold recordIfUnresolved at hrecord
      rw [hstore] at hrecord
      cases hrecord
      exact hbefore
  · rw [hevents] at hmem
    rcases List.mem_cons.mp hmem with heq | hmem
    · cases heq
      rw [hreply] at hreply'
      cases hreply'
      rw [hrecord] at hafter
      exact hafter
    · exact (hwatches _ hmem).elim

/-- The outcome follows the last watch exactly when no answer but `accepted` goes with a transaction
that this watch has confirmed. -/
theorem confirmed_reported_iff (py : Interpreter) (env : Surroundings)
    (controller : TransferController)
    (session : TransferSession) (options : SubmitOptions) (s s' : HostState)
    (outcome : TransferSubmitOutcome)
    (h : submit py env controller session options s = (.ok outcome, s')) :
    ReportsLastWatch py env controller session s s' outcome ↔
      (Confirms (lastWatch (newEvents s s')) →
        ∀ submitResult, Answers (newEvents s s') submitResult →
        get submitResult "submission_state" = .str "accepted") := by
  rcases submit_ok h with ⟨payloadHash, record, -, -, hreconcile⟩ | ⟨arguments, hnone, hsubmitted⟩
  · refine iff_of_true (reconcile_reports hreconcile) ?_
    obtain ⟨arguments, reply, hevents, -⟩ := reconcile_ok hreconcile
    rintro - submitResult ⟨arguments', reply', hmem, -⟩
    rw [hevents] at hmem
    cases List.mem_singleton.mp hmem
  · obtain ⟨reply, recorded, hreply, hrecord, ⟨watches, hevents, hwatches⟩, hwatched, hiff, hkept,
      hcleared⟩ :=
      submitted_ok hsubmitted
    have hlast := hwatched.lastWatch_eq
    have hanswers : (∀ submitResult, Answers (newEvents s s') submitResult →
        get submitResult "submission_state" = .str "accepted") ↔
          get outcome.submitResult "submission_state" = .str "accepted" := by
      rw [hevents]
      simp only [answers_iff hreply hwatches, forall_eq]
    rw [hanswers, hlast]
    refine ⟨fun hreports hconfirms => ?_, fun haccepted => ⟨fun hconfirms => ?_, fun hnot => ?_⟩⟩
    · rw [← hlast] at hconfirms
      exact (hiff.mp (hreports.confirmed hconfirms).1).1
    · rw [hlast] at hconfirms
      refine ⟨hiff.mpr ⟨haccepted hconfirms, hconfirms⟩, fun hstore payloadHash hpayload => ?_⟩
      exact unresolvedRecord_of_ledger (hcleared hconfirms hstore payloadHash hpayload)
    · rw [hlast] at hnot
      refine ⟨Bool.eq_false_iff.mpr fun hsuccess => hnot (hiff.mp hsuccess).2, ?_⟩
      intro payloadHash record hpayload hexisting
      rw [hkept hnot]
      exact existing_recorded hnone hevents hwatches hreply hrecord hpayload hexisting

namespace Sample

def unknownAnswer : List (String × Py) :=
  [("txn_hash", .str "0xhash"), ("submission_state", .str "unknown"), ("submitted", .bool false),
    ("next_action", .str "reconcile_by_txn_hash"), ("error_code", .str "submission_unknown"),
    ("watch_result", .none)]

end Sample

open Sample in
theorem accepted_reported : ∃ outcome s',
    submit interpreter (saying acceptedAnswer (includedWith "Executed")) host
      (signedSession "0x0102ff")
      ⟨30, none, true⟩ ⟨preparedFile, []⟩ = (.ok outcome, s') ∧
    Confirms (lastWatch (newEvents ⟨preparedFile, []⟩ s')) ∧
    ReportsLastWatch interpreter (saying acceptedAnswer (includedWith "Executed")) host
      (signedSession "0x0102ff") ⟨preparedFile, []⟩ s' outcome := by
  have hrun : (sent acceptedAnswer (includedWith "Executed")).1.toOption.map (·.success) =
    some true := by
    decide +kernel
  have hconfirms : Confirms (lastWatch (newEvents ⟨preparedFile, []⟩
      (sent acceptedAnswer (includedWith "Executed")).2)) := by decide +kernel
  obtain ⟨outcome, s', hsent, -⟩ := sent_ok hrun
  have hs' : (sent acceptedAnswer (includedWith "Executed")).2 = s' := by rw [hsent]
  rw [hs'] at hconfirms
  refine ⟨outcome, s', hsent, hconfirms, ?_⟩
  refine (confirmed_reported_iff _ _ _ _ _ _ _ _ hsent).mpr ?_
  rintro - submitResult ⟨arguments, reply, hmem, hreply⟩
  rw [← hs'] at hmem
  have hstore : host.stateStore.isSome := rfl
  rcases cleared_or_watches hstore
    ⟨preparedFile, []⟩ with ⟨payloadHash, chainContext, hcleared⟩ | hwatches
  · rw [(submitted_reply hstore hcleared hmem).2] at hreply
    cases hreply
    rfl
  · exact (hwatches _ hmem).elim

open Sample in
/-- The node is not sure of the submission, and the watch of the same call confirms it: that is not
reported as a success. -/
theorem reconciled_not_reported : ∃ outcome s',
    submit interpreter (saying unknownAnswer (includedWith "Executed")) host
      (signedSession "0x0102ff")
      ⟨30, none, true⟩ ⟨preparedFile, []⟩ = (.ok outcome, s') ∧
    Confirms (lastWatch (newEvents ⟨preparedFile, []⟩ s')) ∧ outcome.success = false := by
  have hrun : (sent unknownAnswer (includedWith "Executed")).1.toOption.map (·.success) =
    some false := by
    decide +kernel
  have hconfirms : Confirms (lastWatch (newEvents ⟨preparedFile, []⟩
      (sent unknownAnswer (includedWith "Executed")).2)) := by decide +kernel
  obtain ⟨outcome, s', hsent, hsuccess⟩ := sent_ok hrun
  have hs' : (sent unknownAnswer (includedWith "Executed")).2 = s' := by rw [hsent]
  rw [hs'] at hconfirms
  exact ⟨outcome, s', hsent, hconfirms, hsuccess⟩

end StarcoinMcp.Host
