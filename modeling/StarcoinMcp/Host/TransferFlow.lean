import StarcoinMcp.Lib.Interaction
import StarcoinMcp.Host.Attestation
import StarcoinMcp.Host.Preflight

/-! One transfer from start to end (`run_transfer_test.py`, once the daemon, the agent and the
clients are there): preparation, preflight, the user's consent, the wallet's approval, the
submission, and the audit trail of all of it. Each step of the controller is one operation; what
it does to the world is the controller's, and may fail at any point. -/

namespace StarcoinMcp.Host.TransferFlow

open Prog
open TransferController
open Py (get)
open Preflight

/-! ## Operations -/

inductive PreflightTool
  | chainStatus | nodeHealth | getAccountOverview
deriving DecidableEq, Repr

inductive FlowOp
  | prepareSession (args : PrepareArgs)
  | query (tool : PreflightTool) (arguments : List (String × Py))
  | audit (record : List (String × Py))
  | promptYesNo (prompt : String)
  /-- `int(time.time())`. -/
  | unixTime
  | createSignRequest (session : TransferSession) (clientRequestId : String) (ttlSeconds : Int)
      (clientContext : String)
  | waitForTerminalRequest (session : TransferSession)
  | submit (session : TransferSession) (options : SubmitOptions)

abbrev FlowOp.Ans : FlowOp → Type
  | .prepareSession _ | .createSignRequest _ _ _ _ | .waitForTerminalRequest _ =>
    Except Exc TransferSession
  | .query _ _ => Except Exc Py
  | .audit _ => Except Exc Unit
  | .promptYesNo _ => Except Exc Bool
  | .unixTime => ℕ
  | .submit _ _ => Except Exc TransferSubmitOutcome

/-- How the script ends without an exit code of its own. -/
inductive Failure
  | raised (e : Exc)
  | systemExit (message : String)
deriving DecidableEq, Repr

abbrev Flow := Prog FlowOp FlowOp.Ans Failure

abbrev FlowEvent := Answered FlowOp.Ans

/-- A call that may raise. -/
def run {α : Type} (x : Except Exc α) : Flow α := lift (x.mapError .raised)

/-! ## Audit records -/

section Records

variable (py : Interpreter) (session : TransferSession)

def sessionMetadata : Except Exc (List (String × Py)) :=
  match nonBlank (get session.prepareResult "raw_txn_bcs_hex") with
  | none => .error (.valueError "prepare_result is missing raw_txn_bcs_hex for audit logging")
  | some rawTxnBcsHex => .ok [("backend_id", .str session.walletInstanceId),
      ("network", .str session.network), ("chain_id", .int session.chainId),
      ("sender", .str session.sender), ("receiver", .str session.receiver),
      ("token_code", .str (sessionTokenCode session)),
      ("raw_amount", .str session.amount.rawAmount),
      ("display_amount", .str session.amount.displayAmount),
      ("prepared_at", get session.prepareResult "prepared_at"),
      ("payload_sha256", .str (payloadSha256 py rawTxnBcsHex))]

def riskCodes (report : TransferPreflightReport) : Py :=
  .list (report.riskLabels.map fun risk => .str risk.code)

def preflightRecord (report : TransferPreflightReport) : Except Exc (List (String × Py)) := do
  let metadata ← sessionMetadata py session
  pure (metadata ++ [("event", .str "preflight_preview"), ("risk_codes", riskCodes report),
    ("blocking_risk_count", .int (report.riskCount .block)),
    ("warning_risk_count", .int (report.riskCount .warn)),
    ("info_risk_count", .int (report.riskCount .info))])

def hostDecisionRecord (decision reason : String) (report : TransferPreflightReport) :
    Except Exc (List (String × Py)) := do
  let metadata ← sessionMetadata py session
  pure (metadata ++ [("event", .str "host_decision"), ("decision", .str decision),
    ("reason", .str reason), ("risk_codes", riskCodes report)])

/-- The backend's id is among the metadata, where the source sets it once more. -/
def signRequestCreatedRecord : Except Exc (List (String × Py)) := do
  let metadata ← sessionMetadata py session
  let requestId ← session.request.callGet "request_id"
  let status ← session.request.callGet "status"
  pure (metadata ++ [("event", .str "sign_request_created"), ("request_id", requestId),
    ("request_status", status)])

/-- `(session.request or {}).get("request_id")`. -/
def auditedRequestId : Except Exc Py := (session.request.orElse (.dict [])).callGet "request_id"

def signRequestTerminalRecord : Except Exc (List (String × Py)) := do
  let metadata ← sessionMetadata py session
  let requestId ← auditedRequestId session
  let status ← session.requestStatus.callGet "status"
  let errorCode ← session.requestStatus.callGet "error_code"
  let errorMessage ← session.requestStatus.callGet "error_message"
  pure (metadata ++ [("event", .str "sign_request_terminal"), ("request_id", requestId),
    ("terminal_status", status), ("error_code", errorCode), ("error_message", errorMessage)])

def optionalText : Option String → Py
  | some s => .str s
  | none => .none

def submissionRecord (outcome : TransferSubmitOutcome) : Except Exc (List (String × Py)) := do
  let metadata ← sessionMetadata py session
  let requestId ← auditedRequestId session
  let confirmed ← (outcome.watchResult.orElse (.dict [])).callGet "confirmed"
  pure (metadata ++ [("event", .str "submission_result"), ("request_id", requestId),
    ("txn_hash", get outcome.submitResult "txn_hash"),
    ("submission_state", get outcome.submitResult "submission_state"),
    ("submission_next_action", get outcome.submitResult "next_action"),
    ("confirmed", .bool confirmed.truthy), ("watch_source", optionalText outcome.watchSource),
    ("guidance", optionalText outcome.guidance)])

end Records

/-! ## The script -/

structure FlowArgs extends PrepareArgs where
  ttlSeconds : Int
  watchTimeoutSeconds : Int
  minConfirmedBlocks : Int

def consentPrompt : String := "Continue with wallet signing"

section Script

variable (py : Interpreter) (args : FlowArgs)

/-- An amount that cannot be read ends the script with a message. -/
def prepare : Flow TransferSession := do
  match ← ask (FlowOp.prepareSession args.toPrepareArgs) with
  | .ok session => pure session
  | .error (.valueError message) => throw (.systemExit ("invalid transfer amount: " ++ message))
  | .error e => throw (.raised e)

def query (tool : PreflightTool) (arguments : List (String × Py)) : Flow Py := do
  let reply ← ask (FlowOp.query tool arguments)
  run reply

def collectAnswers (session : TransferSession) : Flow PreflightAnswers := do
  let chainStatus ← query .chainStatus []
  let nodeHealth ← query .nodeHealth []
  let senderOverview ← query .getAccountOverview
    [("address", .str session.sender), ("include_resources", .bool true)]
  let receiverOverview ← query .getAccountOverview [("address", .str session.receiver)]
  pure ⟨chainStatus, nodeHealth, senderOverview, receiverOverview⟩

def audit (record : Except Exc (List (String × Py))) : Flow Unit := do
  let record ← run record
  let written ← ask (FlowOp.audit record)
  run written

def submitOptions : SubmitOptions :=
  { timeoutSeconds := args.watchTimeoutSeconds, minConfirmedBlocks := some args.minConfirmedBlocks,
    blocking := true }

/-- What is left once the wallet has approved. -/
def submitApproved (session : TransferSession) : Flow Int := do
  let reply ← ask (FlowOp.submit session (submitOptions args))
  let outcome ← run reply
  audit (submissionRecord py session outcome)
  pure (if outcome.success then 0 else 1)

/-- What the script prints of the request has to be there. -/
def shownRequest (request : Py) : Except Exc Unit := do
  let _ ← request.subscript "request_id"
  let _ ← request.subscript "status"
  let _ ← request.subscript "wallet_instance_id"
  pure ()

/-- What is made of the wallet's answer. -/
def heedAnswer (session : TransferSession) : Flow Int := do
  audit (signRequestTerminalRecord py session)
  let status ← run (session.requestStatus.subscript "status")
  if status.isStr "approved" then submitApproved py args session else pure 1

/-- What is left once the wallet has taken the request. -/
def awaitSignature (session : TransferSession) : Flow Int := do
  audit (signRequestCreatedRecord py session)
  run (shownRequest session.request)
  let reply ← ask (FlowOp.waitForTerminalRequest session)
  let session ← run reply
  heedAnswer py args session

def requestSignature (session : TransferSession) : Flow Int := do
  let now ← ask FlowOp.unixTime
  let reply ← ask (FlowOp.createSignRequest session ("transfer-test-" ++ toString now)
    args.ttlSeconds "starcoin-transfer-test")
  let session ← run reply
  awaitSignature py args session

def consult (session : TransferSession) (report : TransferPreflightReport) : Flow Int :=
  if report.hasBlockingRisks then do
    audit (hostDecisionRecord py session "blocked" "blocking_preflight_risk" report)
    pure 1
  else do
    let reply ← ask (FlowOp.promptYesNo consentPrompt)
    let yes ← run reply
    if yes then requestSignature py args session
    else do
      audit (hostDecisionRecord py session "cancelled" "user_declined_after_preview" report)
      pure 0

def transferFlow : Flow Int := do
  let session ← prepare args
  let answers ← collectAnswers session
  let report ← run (analyzePreflight py session answers)
  audit (preflightRecord py session report)
  consult py args session report

end Script

/-! ## What a step rests on -/

section Specification

variable (py : Interpreter) (args : FlowArgs)

/-- The preflight's answers are those that the node gave for this session. -/
structure Answered (session : TransferSession) (answers : PreflightAnswers) (t : List FlowEvent) :
    Prop where
  chainStatus : ⟨.query .chainStatus [], .ok answers.chainStatus⟩ ∈ t
  nodeHealth : ⟨.query .nodeHealth [], .ok answers.nodeHealth⟩ ∈ t
  senderOverview : ⟨.query .getAccountOverview
    [("address", .str session.sender), ("include_resources", .bool true)],
      .ok answers.senderOverview⟩ ∈ t
  receiverOverview : ⟨.query .getAccountOverview [("address", .str session.receiver)],
    .ok answers.receiverOverview⟩ ∈ t

/-- The record has been made, and written. -/
def Audited (record : Except Exc (List (String × Py))) (t : List FlowEvent) : Prop :=
  ∃ r, record = .ok r ∧ ⟨.audit r, .ok ()⟩ ∈ t

/-- The session was prepared, and its preflight made and audited. -/
structure Previewed (session : TransferSession) (report : TransferPreflightReport)
    (t : List FlowEvent) : Prop where
  prepared : ⟨.prepareSession args.toPrepareArgs, .ok session⟩ ∈ t
  answered : Answered session report.toPreflightAnswers t
  analyzed : analyzePreflight py session report.toPreflightAnswers = .ok report
  audited : Audited (preflightRecord py session report) t

/-- The user said yes to a preflight in which nothing stands against the transfer. -/
structure Consented (session : TransferSession) (report : TransferPreflightReport)
    (t : List FlowEvent) : Prop extends Previewed py args session report t where
  clear : ∃ f balances, figuresOf py session report.senderOverview = .ok f ∧
    balancesOf report.senderOverview = .ok balances ∧
      Clear py session report.toPreflightAnswers f balances
  agreed : ⟨.promptYesNo consentPrompt, .ok true⟩ ∈ t

def isSignRequest : FlowOp → Bool
  | .createSignRequest _ _ _ _ => true
  | _ => false

def isSubmission : FlowOp → Bool
  | .submit _ _ => true
  | _ => false

/-- The wallet has been asked to sign for this session, after the user's consent. -/
structure Requested (prepared requested : TransferSession) (t : List FlowEvent) : Prop where
  consented : ∃ report, Consented py args prepared report t
  created : ∃ id, ⟨.createSignRequest prepared id args.ttlSeconds "starcoin-transfer-test",
    .ok requested⟩ ∈ t

/-- The wallet's answer has come in, and is audited. -/
structure Answers (prepared requested collected : TransferSession) (t : List FlowEvent) : Prop
    extends Requested py args prepared requested t where
  returned : ⟨.waitForTerminalRequest requested, .ok collected⟩ ∈ t
  audited : Audited (signRequestTerminalRecord py collected) t

/-- The status that came in with the answer. -/
def isApproved (collected : TransferSession) : Prop :=
  ∃ status, collected.requestStatus.subscript "status" = .ok status ∧ status.isStr "approved" = true

/-- What has to have happened before an operation. -/
def Justified (t : List FlowEvent) : FlowOp → Prop
  | .prepareSession prepareArgs => prepareArgs = args.toPrepareArgs ∧ t = []
  | .createSignRequest session _ ttlSeconds _ => ttlSeconds = args.ttlSeconds ∧
      (∃ report, Consented py args session report t) ∧ ∀ e ∈ t, isSignRequest e.1 = false
  | .waitForTerminalRequest session => ∃ prepared, Requested py args prepared session t
  | .submit session options => options = submitOptions args ∧
      (∃ prepared requested, Answers py args prepared requested session t ∧ isApproved session) ∧
        ∀ e ∈ t, isSubmission e.1 = false
  | .query _ _ | .audit _ | .promptYesNo _ | .unixTime => True

/-- The run ends with this record. -/
def EndsAudited (record : Except Exc (List (String × Py))) (t : List FlowEvent) : Prop :=
  ∃ r, record = .ok r ∧ t.getLast? = some ⟨.audit r, .ok ()⟩

/-- Why the script ends with an exit code. -/
inductive Concluded (t : List FlowEvent) : Int → Prop
  | blocked {session : TransferSession} {report : TransferPreflightReport}
      (hpreviewed : Previewed py args session report t) (hblocks : report.hasBlockingRisks = true)
      (hquiet : ∀ e ∈ t, isSignRequest e.1 = false)
      (hlast : EndsAudited
        (hostDecisionRecord py session "blocked" "blocking_preflight_risk" report) t) :
      Concluded t 1
  | declined {session : TransferSession} {report : TransferPreflightReport}
      (hpreviewed : Previewed py args session report t)
      (hdeclined : ⟨.promptYesNo consentPrompt, .ok false⟩ ∈ t)
      (hquiet : ∀ e ∈ t, isSignRequest e.1 = false)
      (hlast : EndsAudited
        (hostDecisionRecord py session "cancelled" "user_declined_after_preview" report) t) :
      Concluded t 0
  | refused {prepared requested collected : TransferSession}
      (hanswers : Answers py args prepared requested collected t)
      (hrefused : ¬ isApproved collected) (hquiet : ∀ e ∈ t, isSubmission e.1 = false)
      (hlast : EndsAudited (signRequestTerminalRecord py collected) t) : Concluded t 1
  | submitted {prepared requested collected : TransferSession} {outcome : TransferSubmitOutcome}
      (hanswers : Answers py args prepared requested collected t) (happroved : isApproved collected)
      (hsubmitted : ⟨.submit collected (submitOptions args), .ok outcome⟩ ∈ t)
      (hlast : EndsAudited (submissionRecord py collected outcome) t) :
      Concluded t (if outcome.success then 0 else 1)

/-- What is promised of the end of a run: nothing of one that raises. -/
def Ends (t : List FlowEvent) : Except Failure Int → Prop
  | .ok code => Concluded py args t code
  | .error _ => True

end Specification

section Proof

variable {py : Interpreter} {args : FlowArgs} {session : TransferSession}
  {report : TransferPreflightReport} {t t' : List FlowEvent}

theorem Answered.mono {answers : PreflightAnswers} (h : Answered session answers t) (hsub : t ⊆ t') :
    Answered session answers t' :=
  ⟨hsub h.chainStatus, hsub h.nodeHealth, hsub h.senderOverview, hsub h.receiverOverview⟩

theorem Audited.mono {record : Except Exc (List (String × Py))} (h : Audited record t)
    (hsub : t ⊆ t') : Audited record t' := by
  obtain ⟨r, hr, hmem⟩ := h
  exact ⟨r, hr, hsub hmem⟩

theorem Previewed.mono (h : Previewed py args session report t) (hsub : t ⊆ t') :
    Previewed py args session report t' :=
  ⟨hsub h.prepared, h.answered.mono hsub, h.analyzed, h.audited.mono hsub⟩

theorem Consented.mono (h : Consented py args session report t) (hsub : t ⊆ t') :
    Consented py args session report t' :=
  ⟨h.toPreviewed.mono hsub, h.clear, hsub h.agreed⟩

theorem Requested.mono {requested : TransferSession} (h : Requested py args session requested t)
    (hsub : t ⊆ t') : Requested py args session requested t' := by
  obtain ⟨report, hconsented⟩ := h.consented
  obtain ⟨id, hcreated⟩ := h.created
  exact ⟨⟨report, hconsented.mono hsub⟩, id, hsub hcreated⟩

theorem Answers.mono {requested collected : TransferSession}
    (h : Answers py args session requested collected t) (hsub : t ⊆ t') :
    Answers py args session requested collected t' :=
  ⟨h.toRequested.mono hsub, hsub h.returned, h.audited.mono hsub⟩

/-- One more event of another kind. -/
theorem quiet_snoc {kind : FlowOp → Bool} {e : FlowEvent} (h : ∀ x ∈ t, kind x.1 = false)
    (he : kind e.1 = false) : ∀ x ∈ t ++ [e], kind x.1 = false := by
  intro x hx
  rcases List.mem_append.mp hx with hx | hx
  · exact h x hx
  · obtain rfl := List.mem_singleton.mp hx
    exact he

section Rules

variable {α β : Type} {Q : List FlowEvent → Except Failure β → Prop}

theorem meets_run_bind {x : Except Exc α} {f : α → Flow β}
    (hok : ∀ a, x = .ok a → Meets (Justified py args) Q t (f a))
    (herr : ∀ e, Q t (.error e)) : Meets (Justified py args) Q t (run x >>= f) := by
  cases x with
  | ok a => exact hok a rfl
  | error e => exact herr _

theorem meets_audit_bind {record : Except Exc (List (String × Py))} {f : Unit → Flow β}
    (hok : ∀ r, record = .ok r →
      Meets (Justified py args) Q (t ++ [⟨.audit r, .ok ()⟩]) (f ()))
    (herr : ∀ t e, Q t (.error e)) : Meets (Justified py args) Q t (audit record >>= f) := by
  cases record with
  | error e => exact herr _ _
  | ok r =>
    apply meets_ask_bind trivial
    intro written
    cases written with
    | ok u => exact hok r rfl
    | error e => exact herr _ _

theorem meets_query_bind {tool : PreflightTool} {arguments : List (String × Py)} {f : Py → Flow β}
    (hok : ∀ v, Meets (Justified py args) Q (t ++ [⟨.query tool arguments, .ok v⟩]) (f v))
    (herr : ∀ t e, Q t (.error e)) :
    Meets (Justified py args) Q t (query tool arguments >>= f) := by
  apply meets_ask_bind trivial
  intro reply
  cases reply with
  | ok v => exact hok v
  | error e => exact herr _ _

end Rules

theorem answers_of_analyzePreflight {answers : PreflightAnswers}
    (h : analyzePreflight py session answers = .ok report) : report.toPreflightAnswers = answers := by
  obtain ⟨_, -, h⟩ := bind_eq_ok h
  obtain ⟨_, -, h⟩ := bind_eq_ok h
  obtain ⟨_, -, h⟩ := bind_eq_ok h
  obtain ⟨_, -, h⟩ := bind_eq_ok h
  obtain ⟨_, -, h⟩ := bind_eq_ok h
  obtain rfl := Except.ok.inj h
  rfl

theorem subset_snoc (t : List FlowEvent) (e : FlowEvent) : t ⊆ t ++ [e] :=
  List.subset_append_left t [e]

theorem mem_snoc (t : List FlowEvent) (e : FlowEvent) : e ∈ t ++ [e] :=
  List.mem_append_right t List.mem_cons_self

theorem endsAudited_snoc {record : Except Exc (List (String × Py))} {r : List (String × Py)}
    (h : record = .ok r) : EndsAudited record (t ++ [⟨.audit r, .ok ()⟩]) :=
  ⟨r, h, List.getLast?_concat⟩

/-! ## From the last step back to the first -/

theorem meets_submitApproved {prepared requested collected : TransferSession}
    (hanswers : Answers py args prepared requested collected t) (happroved : isApproved collected)
    (hquiet : ∀ e ∈ t, isSubmission e.1 = false) :
    Meets (Justified py args) (Ends py args) t (submitApproved py args collected) := by
  apply meets_ask_bind
  · exact ⟨rfl, ⟨prepared, requested, hanswers, happroved⟩, hquiet⟩
  intro reply
  apply meets_run_bind
  · rintro outcome rfl
    apply meets_audit_bind
    · intro record hrecord
      exact .submitted (hanswers.mono (List.Subset.trans (subset_snoc t _) (subset_snoc _ _)))
        happroved (subset_snoc _ _ (mem_snoc t _)) (endsAudited_snoc hrecord)
    · intro _ _
      trivial
  · intro _
    trivial

theorem meets_heedAnswer {prepared requested collected : TransferSession}
    (hrequested : Requested py args prepared requested t)
    (hreturned : ⟨.waitForTerminalRequest requested, .ok collected⟩ ∈ t)
    (hquiet : ∀ e ∈ t, isSubmission e.1 = false) :
    Meets (Justified py args) (Ends py args) t (heedAnswer py args collected) := by
  apply meets_audit_bind
  · intro record hrecord
    have hsub := subset_snoc t ⟨.audit record, .ok ()⟩
    have hanswers : Answers py args prepared requested collected _ :=
      ⟨hrequested.mono hsub, hsub hreturned, record, hrecord, mem_snoc t _⟩
    apply meets_run_bind
    · intro status hstatus
      apply meets_ite
      · intro happroved
        exact meets_submitApproved hanswers ⟨status, hstatus, happroved⟩ (quiet_snoc hquiet rfl)
      · intro hrefused
        apply Concluded.refused hanswers _ (quiet_snoc hquiet rfl) (endsAudited_snoc hrecord)
        rintro ⟨status', hstatus', happroved⟩
        obtain rfl := Except.ok.inj (hstatus.symm.trans hstatus')
        exact hrefused happroved
    · intro _
      trivial
  · intro _ _
    trivial

theorem meets_awaitSignature {prepared requested : TransferSession}
    (hrequested : Requested py args prepared requested t)
    (hquiet : ∀ e ∈ t, isSubmission e.1 = false) :
    Meets (Justified py args) (Ends py args) t (awaitSignature py args requested) := by
  apply meets_audit_bind
  · intro record _
    have hlater := hrequested.mono (subset_snoc t ⟨.audit record, .ok ()⟩)
    apply meets_run_bind
    · intro _ _
      apply meets_ask_bind
      · exact ⟨prepared, hlater⟩
      intro reply
      apply meets_run_bind
      · rintro collected rfl
        exact meets_heedAnswer (hlater.mono (subset_snoc _ _)) (mem_snoc _ _)
          (quiet_snoc (quiet_snoc hquiet rfl) rfl)
      · intro _
        trivial
    · intro _
      trivial
  · intro _ _
    trivial

theorem meets_requestSignature (hconsented : Consented py args session report t)
    (hrequests : ∀ e ∈ t, isSignRequest e.1 = false)
    (hsubmissions : ∀ e ∈ t, isSubmission e.1 = false) :
    Meets (Justified py args) (Ends py args) t (requestSignature py args session) := by
  apply meets_ask_bind trivial
  intro now
  have hlater := hconsented.mono (subset_snoc t ⟨.unixTime, now⟩)
  apply meets_ask_bind
  · exact ⟨rfl, ⟨report, hlater⟩, quiet_snoc hrequests rfl⟩
  intro reply
  apply meets_run_bind
  · rintro requested rfl
    refine meets_awaitSignature ⟨⟨report, hlater.mono (subset_snoc _ _)⟩,
      "transfer-test-" ++ toString now, mem_snoc _ _⟩ ?_
    exact quiet_snoc (quiet_snoc hsubmissions rfl) rfl
  · intro _
    trivial

theorem meets_consult (hpreviewed : Previewed py args session report t)
    (hrequests : ∀ e ∈ t, isSignRequest e.1 = false)
    (hsubmissions : ∀ e ∈ t, isSubmission e.1 = false) :
    Meets (Justified py args) (Ends py args) t (consult py args session report) := by
  apply meets_ite
  · intro hblocks
    apply meets_audit_bind
    · intro record hrecord
      exact .blocked (hpreviewed.mono (subset_snoc t _)) hblocks (quiet_snoc hrequests rfl)
        (endsAudited_snoc hrecord)
    · intro _ _
      trivial
  · intro hpasses
    apply meets_ask_bind trivial
    intro reply
    apply meets_run_bind
    · rintro yes rfl
      apply meets_ite
      · rintro rfl
        -- the gate passed, so nothing stands against the transfer
        have hclear := (clear_iff hpreviewed.analyzed).mp (by simpa using hpasses)
        refine meets_requestSignature
          ⟨hpreviewed.mono (subset_snoc t _), hclear, mem_snoc t _⟩ ?_ ?_
        · exact quiet_snoc hrequests rfl
        · exact quiet_snoc hsubmissions rfl
      · intro hno
        obtain rfl : yes = false := by simpa using hno
        apply meets_audit_bind
        · intro record hrecord
          exact .declined (hpreviewed.mono (List.Subset.trans (subset_snoc t _) (subset_snoc _ _)))
            (subset_snoc _ _ (mem_snoc t _)) (quiet_snoc (quiet_snoc hrequests rfl) rfl)
            (endsAudited_snoc hrecord)
        · intro _ _
          trivial
    · intro _
      trivial

/-- The session is prepared, and nothing more has been asked of the wallet than that. -/
structure Begun (py : Interpreter) (args : FlowArgs) (session : TransferSession)
    (t : List FlowEvent) : Prop where
  prepared : ⟨.prepareSession args.toPrepareArgs, .ok session⟩ ∈ t
  requests : ∀ e ∈ t, isSignRequest e.1 = false
  submissions : ∀ e ∈ t, isSubmission e.1 = false

theorem Begun.snoc {e : FlowEvent} (h : Begun py args session t) (hrequest : isSignRequest e.1 = false)
    (hsubmission : isSubmission e.1 = false) : Begun py args session (t ++ [e]) :=
  ⟨subset_snoc t e h.prepared, quiet_snoc h.requests hrequest, quiet_snoc h.submissions hsubmission⟩

/-- What a first part leaves behind, where it does not raise. -/
def Leaves {α : Type} (P : α → List FlowEvent → Prop) (t : List FlowEvent) : Except Failure α → Prop
  | .ok a => P a t
  | .error _ => True

theorem meets_prepare :
    Meets (Justified py args) (Leaves fun session t => Begun py args session t) [] (prepare args) := by
  apply meets_ask_bind
  · exact ⟨rfl, rfl⟩
  intro reply
  cases reply with
  | ok session => exact ⟨mem_snoc [] _, by simp [isSignRequest], by simp [isSubmission]⟩
  | error e => cases e <;> trivial

theorem meets_collectAnswers (h : Begun py args session t) :
    Meets (Justified py args)
      (Leaves fun answers t => Begun py args session t ∧ Answered session answers t) t
      (collectAnswers session) := by
  apply meets_query_bind
  · intro chainStatus
    apply meets_query_bind
    · intro nodeHealth
      apply meets_query_bind
      · intro senderOverview
        apply meets_query_bind
        · intro receiverOverview
          constructor
          · exact (((h.snoc rfl rfl).snoc rfl rfl).snoc rfl rfl).snoc rfl rfl
          · exact ⟨by simp, by simp, by simp, by simp⟩
        · intro _ _
          trivial
      · intro _ _
        trivial
    · intro _ _
      trivial
  · intro _ _
    trivial

theorem meets_transferFlow :
    Meets (Justified py args) (Ends py args) [] (transferFlow py args) := by
  apply meets_prepare.bind
  · intro d session hbegun
    apply (meets_collectAnswers hbegun).bind
    · intro d' answers hleft
      obtain ⟨hbegun, hanswered⟩ := hleft
      apply meets_run_bind
      · intro report hreport
        obtain rfl := answers_of_analyzePreflight hreport
        apply meets_audit_bind
        · intro record hrecord
          have hsub := subset_snoc (([] : List FlowEvent) ++ d ++ d') ⟨.audit record, .ok ()⟩
          apply meets_consult
          · exact ⟨hsub hbegun.prepared, hanswered.mono hsub, hreport, record, hrecord, mem_snoc _ _⟩
          · exact quiet_snoc hbegun.requests rfl
          · exact quiet_snoc hbegun.submissions rfl
        · intro _ _
          trivial
      · intro _
        trivial
    · intro _ _ _
      trivial
  · intro _ _ _
    trivial

end Proof

/-! ## Runs -/

/-- Where the operation is one that the state of the host answers, some state of it answered so. -/
def Performed (py : Interpreter) (controller : TransferController) : FlowEvent → Prop
  | ⟨.prepareSession args, .ok session⟩ =>
    ∃ env s s', prepareSession py env controller args s = (.ok session, s')
  | ⟨.createSignRequest session clientRequestId ttlSeconds clientContext, .ok session'⟩ =>
    ∃ env s s', createSignRequest py env session clientRequestId ttlSeconds clientContext s =
      (.ok session', s')
  | ⟨.waitForTerminalRequest session, .ok session'⟩ =>
    ∃ env polls s s', waitForTerminalRequest env session polls s = (.ok session', s')
  | _ => True

/-- The bytes are those in the wallet's answer. -/
def SignedByWallet (session : TransferSession) : Prop :=
  ∃ result, session.requestStatus.callGet "result" = .ok result ∧
    (result.orElse (.dict [])).callGet "signed_txn_bcs_hex" = .ok session.signedTxnBcsHex

/-- The wallet signs what was prepared and the user agreed to, and what is submitted is what the
wallet signed; each is asked for at most once. -/
structure Safe (py : Interpreter) (controller : TransferController) (args : FlowArgs)
    (d : List FlowEvent) : Prop where
  signs : ∀ t session clientRequestId ttlSeconds clientContext x t',
    d = t ++ ⟨.createSignRequest session clientRequestId ttlSeconds clientContext, x⟩ :: t' →
      Prepares py controller session ∧ (∃ report, Consented py args session report t) ∧
        ∀ e ∈ t, isSignRequest e.1 = false
  submits : ∀ t session options x t', d = t ++ ⟨.submit session options, x⟩ :: t' →
    Built py controller session ∧ SignedByWallet session ∧
      (∃ prepared requested, Answers py args prepared requested session t ∧ isApproved session) ∧
        ∀ e ∈ t, isSubmission e.1 = false

section Runs

variable {py : Interpreter} {controller : TransferController} {args : FlowArgs}

/-- A session that comes back approved carries the bytes of the answer it comes back with. -/
theorem signedByWallet_of_wait {env : Surroundings} {session' : TransferSession} {s' : HostState}
    (happroved : isApproved session') {polls : ℕ} : ∀ {session : TransferSession} {s : HostState},
      waitForTerminalRequest env session polls s = (.ok session', s') → SignedByWallet session' := by
  induction polls with
  | zero =>
    intro session s h
    cases h
  | succ polls ih =>
    intro session s h
    unfold waitForTerminalRequest at h
    split at h
    · cases h
    · obtain ⟨requestId, s₁, -, h⟩ := FailState.bind_apply_eq_ok h
      obtain ⟨status, s₂, -, h⟩ := FailState.bind_apply_eq_ok h
      obtain ⟨current, s₃, hcurrent, h⟩ := FailState.bind_apply_eq_ok h
      split at h
      · obtain ⟨hstore, rfl⟩ := FailState.lift_eq_ok h
        obtain ⟨hstatus, -⟩ := FailState.lift_eq_ok hcurrent
        obtain ⟨shown, hshown, hhashable⟩ := bind_eq_ok hstatus
        unfold storeResult at hstore
        split at hstore
        · obtain ⟨result, hresult, hstore⟩ := bind_eq_ok hstore
          obtain ⟨signed, hsigned, hstore⟩ := bind_eq_ok hstore
          obtain rfl := Except.ok.inj hstore
          exact ⟨result, hresult, hsigned⟩
        · -- the status that is stored is the one that was looked at
          rename_i hnot
          obtain rfl := Except.ok.inj hstore
          obtain ⟨status', hstatus', hstr⟩ := happroved
          obtain rfl : shown = status' := Except.ok.inj (hshown.symm.trans hstatus')
          rw [Py.isStr_iff.mp hstr] at hhashable
          obtain rfl := Except.ok.inj hhashable
          exact absurd rfl hnot
      · exact ih h

theorem prepares_of_consented {session : TransferSession} {report : TransferPreflightReport}
    {t d : List FlowEvent} (h : Consented py args session report t) (hsub : t ⊆ d)
    (hd : ∀ e ∈ d, Performed py controller e) : Prepares py controller session := by
  obtain ⟨env, s, s', hrun⟩ := hd _ (hsub h.prepared)
  exact ⟨env, args.toPrepareArgs, s, s', hrun⟩

/-- Wherever a run has got to, it is safe. -/
theorem transfer_flow_safe {d : List FlowEvent} {q : Flow Int}
    (h : Steps (transferFlow py args) d q) (hd : ∀ e ∈ d, Performed py controller e) :
    Safe py controller args d := by
  constructor
  · rintro t session clientRequestId ttlSeconds clientContext x t' rfl
    obtain ⟨-, ⟨report, hconsented⟩, hquiet⟩ := Meets.asked meets_transferFlow h
    exact ⟨prepares_of_consented hconsented (List.subset_append_left ..) hd, ⟨report, hconsented⟩,
      hquiet⟩
  · rintro t session options x t' rfl
    obtain ⟨-, ⟨prepared, requested, hanswers, happroved⟩, hquiet⟩ := Meets.asked meets_transferFlow h
    have hsub : t ⊆ t ++ ⟨.submit session options, x⟩ :: t' := List.subset_append_left ..
    obtain ⟨report, hconsented⟩ := hanswers.consented
    obtain ⟨id, hcreated⟩ := hanswers.created
    obtain ⟨env, polls, s, s', hwait⟩ := hd _ (hsub hanswers.returned)
    have hprepares := prepares_of_consented hconsented hsub hd
    obtain ⟨env', s₁, s₁', hcreate⟩ := hd _ (hsub hcreated)
    have hbuilt : Built py controller session :=
      ⟨prepared, requested, hprepares, ⟨env', _, _, _, s₁, s₁', hcreate⟩, env, polls, s, s', hwait⟩
    exact ⟨hbuilt, signedByWallet_of_wait happroved hwait, ⟨prepared, requested, hanswers, happroved⟩,
      hquiet⟩

/-- Every exit code of the script has its reason, and the record of it is the last one written. -/
theorem exit_code_concluded {d : List FlowEvent} {code : Int}
    (h : Ended (transferFlow py args) d (.ok code)) : Concluded py args d code :=
  Meets.ended meets_transferFlow h

end Runs

/-! ## One run -/

namespace Sample

open Host.Sample

def args : FlowArgs where
  walletInstanceId := "wallet-1"
  vmProfile := "auto"
  sender := "0x1"
  receiver := "0x2"
  amount := "7"
  amountUnit := "raw"
  tokenCode := "0x1::STC::STC"
  ttlSeconds := 300
  watchTimeoutSeconds := 120
  minConfirmedBlocks := 2

/-- The wallet takes the request and approves it. -/
def approving : Surroundings :=
  { surroundings "0x0102ff" with
    wallet := fun _ tool _ =>
      match tool with
      | .getPublicKey => .ok (.dict [("public_key", .str "0x05")])
      | .requestSignTransaction => .ok (.dict [("request_id", .str "request-1"),
          ("status", .str "created"), ("wallet_instance_id", .str "wallet-1")])
      | .getRequestStatus => .ok (.dict [("status", .str "approved"),
          ("result", .dict [("signed_txn_bcs_hex", .str "0x0102ff")])])
      | _ => .ok (.dict []) }

def overview : Py :=
  .dict [("balances", .list [.dict [("name", .str "0x1::Account::Balance<0x1::STC::STC>"),
      ("json", .dict [("balance", .int 100)])]]), ("onchain_exists", .bool true)]

/-- The user agrees, and every step goes well but for the submission, which is not attested. -/
def reply : (o : FlowOp) → o.Ans
  | .prepareSession prepareArgs =>
    (prepareSession interpreter approving host prepareArgs ⟨none, []⟩).1
  | .query .chainStatus _ => .ok (.dict chainContext)
  | .query .nodeHealth _ => .ok (.dict [("node_available", .bool true)])
  | .query .getAccountOverview _ => .ok overview
  | .audit _ => .ok ()
  | .promptYesNo _ => .ok true
  | .unixTime => 1700000000
  | .createSignRequest session clientRequestId ttlSeconds clientContext =>
    (createSignRequest interpreter approving session clientRequestId ttlSeconds clientContext
      ⟨none, []⟩).1
  | .waitForTerminalRequest session => (waitForTerminalRequest approving session 1 ⟨none, []⟩).1
  | .submit session options => (submit interpreter approving host session options ⟨none, []⟩).1

theorem performed_reply (o : FlowOp) : Performed interpreter host ⟨o, reply o⟩ := by
  cases o with
  | prepareSession prepareArgs =>
    cases hrun : prepareSession interpreter approving host prepareArgs ⟨none, []⟩ with
    | mk x s' =>
      have hreply : reply (.prepareSession prepareArgs) = x := congrArg Prod.fst hrun
      rw [hreply]
      cases x with
      | ok session => exact ⟨approving, ⟨none, []⟩, s', hrun⟩
      | error e => trivial
  | createSignRequest session clientRequestId ttlSeconds clientContext =>
    cases hrun : createSignRequest interpreter approving session clientRequestId ttlSeconds
        clientContext ⟨none, []⟩ with
    | mk x s' =>
      have hreply : reply (.createSignRequest session clientRequestId ttlSeconds clientContext) = x :=
        congrArg Prod.fst hrun
      rw [hreply]
      cases x with
      | ok session' => exact ⟨approving, ⟨none, []⟩, s', hrun⟩
      | error e => trivial
  | waitForTerminalRequest session =>
    cases hrun : waitForTerminalRequest approving session 1 ⟨none, []⟩ with
    | mk x s' =>
      have hreply : reply (.waitForTerminalRequest session) = x := congrArg Prod.fst hrun
      rw [hreply]
      cases x with
      | ok session' => exact ⟨approving, 1, ⟨none, []⟩, s', hrun⟩
      | error e => trivial
  | _ => trivial

/-- The run asks the wallet once and submits once. -/
theorem approved_run_safe : ∃ d r, Ended (transferFlow interpreter args) d r ∧
    (d.filter fun e => isSignRequest e.1).length = 1 ∧
    (d.filter fun e => isSubmission e.1).length = 1 ∧ Safe interpreter host args d := by
  obtain ⟨⟨d, r⟩, hrun, hcounts⟩ : ∃ x,
      (transferFlow interpreter args).answeredBy reply = some x ∧
        ((x.1.filter fun e => isSignRequest e.1).length,
          (x.1.filter fun e => isSubmission e.1).length) = (1, 1) := ⟨_, rfl, rfl⟩
  have hended := ended_of_answeredBy hrun
  have hended' : Ended (transferFlow interpreter args) (d ++ []) r := by rwa [List.append_nil]
  obtain ⟨q, hsteps, -⟩ := hended'.steps
  refine ⟨d, r, hended, congrArg Prod.fst hcounts, congrArg Prod.snd hcounts, ?_⟩
  apply transfer_flow_safe hsteps
  intro e he
  rw [eq_reply_of_answeredBy hrun e he]
  exact performed_reply e.1

/-- The user says no. -/
def declining : (o : FlowOp) → o.Ans
  | .promptYesNo _ => .ok false
  | o => reply o

theorem declined_run_concluded : ∃ d, Ended (transferFlow interpreter args) d (.ok 0) ∧
    Concluded interpreter args d 0 := by
  obtain ⟨⟨d, r⟩, hrun, hcode⟩ : ∃ x,
      (transferFlow interpreter args).answeredBy declining = some x ∧ x.2 = .ok 0 := ⟨_, rfl, rfl⟩
  obtain rfl : r = .ok 0 := hcode
  have hended := ended_of_answeredBy hrun
  exact ⟨d, hended, exit_code_concluded hended⟩

end Sample

end StarcoinMcp.Host.TransferFlow
