import StarcoinMcp.Node.Rules

/-! The call that hands a signed transaction to the endpoint, from the HTTP reply to what the
tool answers. The text of an error decides what is made of it, one pattern after the other; a
text that says both that the outcome is open and that the transaction has expired is taken for
a rejection. -/

namespace StarcoinMcp.Node

open Prog

/-! ## The client -/

/-- A status code, and the code with its reason as it is printed. -/
structure HttpStatus where
  code : ℕ
  text : String

def HttpStatus.isSuccess (status : HttpStatus) : Bool := 200 ≤ status.code && status.code < 300

/-- What became of one request: it was not sent, its reply broke off, or it was answered. -/
inductive HttpReply
  | unreachable (error : String)
  | unreadable (status : HttpStatus) (error : String)
  | answered (status : HttpStatus) (body : String)

structure RpcFailure where
  code : Int64
  message : String
  data : Option Value

structure RpcEnvelope where
  result : Value
  error : Option RpcFailure

/-- What the submission call uses of the client. `parseEnvelope` is `serde_json::from_str`, with the
text of its error. -/
structure NodeRpcClient where
  vmProfile : VmProfile
  parseEnvelope : String → Except String RpcEnvelope

def mapRpcErrorCode (message : String) : SharedErrorCode :=
  let lower := Text.toAsciiLowercase message
  if Text.contains lower "expired" then .transactionExpired
  else if Text.contains lower "sequence" &&
      (Text.contains lower "too old" || Text.contains lower "stale") then .sequenceNumberStale
  else if Text.contains lower "may have reached the endpoint" ||
      Text.contains lower "timed out after submission" then .submissionUnknown
  else if Text.contains lower "connection" || Text.contains lower "unavailable" then .nodeUnavailable
  else .submissionFailed

def jsonInt64 (n : Int64) : Value :=
  if n < 0 then .number (.negInt n) else .number (.posInt n.toUInt64)

/-- The error of an envelope, as `call` reports it. -/
def RpcFailure.shared (method : String) (failure : RpcFailure) : SharedError :=
  if failure.code = -32601 then
    .new .unsupportedOperation s!"rpc method {method} is not available"
  else
    let code := mapRpcErrorCode failure.message
    let shared : SharedError :=
      if code = .nodeUnavailable || code = .rpcUnavailable || code = .submissionUnknown then
        .retry code failure.message
      else .new code failure.message
    shared.withDetails (.object [("rpc_code", jsonInt64 failure.code),
      ("rpc_data", failure.data.getD .null), ("method", .string method)])

def extractSubmissionHash (hashValue : Value) : Except SharedError String :=
  match hashValue.asStr with
  | some hash => .ok hash
  | none => .error (.new .rpcUnavailable "submission RPC returned an invalid transaction hash")

namespace NodeRpcClient

variable (client : NodeRpcClient)

def transactionMethods (preferred fallback : String) : List String :=
  match client.vmProfile with
  | .vm2Only => [preferred]
  | .vm1Only => [fallback]
  | .auto => [preferred, fallback]

/-- `call` for a result that is taken as it is. -/
def callValue (method : String) : HttpReply → Except SharedError Value
  | .unreachable error =>
    .error (.retry .nodeUnavailable ("failed to reach rpc endpoint: " ++ error))
  | .unreadable _ error =>
    .error (.retry .rpcUnavailable ("failed to read rpc response body: " ++ error))
  | .answered status body =>
    if !status.isSuccess then
      .error ((SharedError.retry .rpcUnavailable
        ("rpc endpoint returned HTTP status " ++ status.text)).withDetails
          (.object [("body", .string body)]))
    else
      match client.parseEnvelope body with
      | .error error =>
        .error ((SharedError.new .rpcUnavailable
          ("invalid rpc response envelope: " ++ error)).withDetails (.object [("body", .string body)]))
      | .ok envelope =>
        match envelope.error with
        | none => .ok envelope.result
        | some failure => .error (failure.shared method)

/-- The first method that the endpoint has; `replies` is what each of them is answered with. -/
def callFirstAvailableValue (methods : List String) (replies : String → HttpReply) :
    Except SharedError Value :=
  go methods
where
  go : List String → Except SharedError Value
    | [] => .error (.new .unsupportedOperation
        ("none of the candidate rpc methods are available: " ++ ", ".intercalate methods))
    | method :: rest =>
      match client.callValue method (replies method) with
      | .ok value => .ok value
      | .error error => if error.code = .unsupportedOperation then go rest else .error error

def submissionMethods : List String :=
  client.transactionMethods "txpool.submit_hex_transaction2" "txpool.submit_hex_transaction"

def submitSignedTransaction (replies : String → HttpReply) : Except SharedError String := do
  let hashValue ← client.callFirstAvailableValue client.submissionMethods replies
  extractSubmissionHash hashValue

end NodeRpcClient

/-! ## Replies that leave the outcome open -/

/-- A failure of the transport or of HTTP. -/
def HttpReply.failed : HttpReply → Bool
  | .unreachable _ | .unreadable _ _ => true
  | .answered status _ => !status.isSuccess

/-- The text says, in any letter case, that the transaction may have arrived. -/
def leavesOpen (message : String) : Bool :=
  Text.contains (Text.toAsciiLowercase message) "may have reached the endpoint" ||
    Text.contains (Text.toAsciiLowercase message) "timed out after submission"

/-- The text says, in any letter case, that the transaction has expired. -/
def saysExpired (message : String) : Bool := Text.contains (Text.toAsciiLowercase message) "expired"

/-- The text says, in any letter case, that the sequence number is too old. -/
def saysStale (message : String) : Bool :=
  Text.contains (Text.toAsciiLowercase message) "sequence" &&
    (Text.contains (Text.toAsciiLowercase message) "too old" ||
      Text.contains (Text.toAsciiLowercase message) "stale")

/-- The error is taken for something else than its text says: for a method that is missing, or for a
rejection. -/
def RpcFailure.misread (failure : RpcFailure) : Bool :=
  failure.code = -32601 || saysExpired failure.message || saysStale failure.message

namespace NodeRpcClient

variable (client : NodeRpcClient)

/-- The error in the envelope of a reply. -/
def failure : HttpReply → Option RpcFailure
  | .answered status body =>
    if status.isSuccess then (client.parseEnvelope body).toOption.bind RpcEnvelope.error else none
  | _ => none

def methodMissing (reply : HttpReply) : Bool := (client.failure reply).any fun f => f.code = -32601

/-- The last of the calls that `callFirstAvailableValue` makes, and what it was answered. -/
def lastCall (replies : String → HttpReply) : List String → Option (String × HttpReply)
  | [] => none
  | [method] => some (method, replies method)
  | method :: next :: rest =>
    if client.methodMissing (replies method) then lastCall replies (next :: rest)
    else some (method, replies method)

/-- The reply does not say whether the transaction was taken. -/
def Ambiguous (reply : HttpReply) : Prop :=
  reply.failed = true ∨ ∃ f, client.failure reply = some f ∧ leavesOpen f.message = true

end NodeRpcClient

section Classification

variable {client : NodeRpcClient} {method : String} {reply : HttpReply} {replies : String → HttpReply}
  {f : RpcFailure} {e : SharedError}

/-- The outcome is open as far as the caller knows. -/
def SharedErrorCode.isOpen (code : SharedErrorCode) : Bool :=
  code = .nodeUnavailable || code = .rpcUnavailable || code = .submissionUnknown

theorem shared_code : (f.shared method).code =
    if f.code = -32601 then .unsupportedOperation else mapRpcErrorCode f.message := by
  unfold RpcFailure.shared
  split
  · rfl
  · generalize mapRpcErrorCode f.message = code
    simp only [SharedError.withDetails]
    split <;> rfl

theorem mapRpcErrorCode_ne_unsupported (message : String) :
    mapRpcErrorCode message ≠ .unsupportedOperation := by
  unfold mapRpcErrorCode
  simp only
  split_ifs <;> exact nofun

/-- A text that leaves the outcome open is read as such unless an earlier pattern fits. -/
theorem isOpen_mapRpcErrorCode {message : String} (h : leavesOpen message = true) :
    (mapRpcErrorCode message).isOpen = true ↔ saysExpired message = false ∧ saysStale message = false := by
  unfold mapRpcErrorCode
  unfold leavesOpen at h
  unfold saysExpired saysStale
  simp only [h, if_true]
  generalize Text.contains (Text.toAsciiLowercase message) "expired" = expired
  generalize (Text.contains (Text.toAsciiLowercase message) "sequence" &&
    (Text.contains (Text.toAsciiLowercase message) "too old" ||
      Text.contains (Text.toAsciiLowercase message) "stale")) = stale
  cases expired <;> cases stale <;> decide

theorem callValue_of_failure (h : client.failure reply = some f) :
    client.callValue method reply = .error (f.shared method) := by
  cases reply with
  | unreachable error => cases h
  | unreadable status error => cases h
  | answered status body =>
    unfold NodeRpcClient.failure at h
    unfold NodeRpcClient.callValue
    cases hstatus : status.isSuccess with
    | false =>
      simp only [hstatus] at h
      cases h
    | true =>
      simp only [hstatus, if_true] at h
      cases hbody : client.parseEnvelope body with
      | error error =>
        rw [hbody] at h
        cases h
      | ok envelope =>
        rw [hbody] at h
        have herror : envelope.error = some f := h
        simp [hstatus, hbody, herror]

/-- Only an error of the envelope can say that the method is missing. -/
theorem unsupported_iff_methodMissing (h : client.callValue method reply = .error e) :
    e.code = .unsupportedOperation ↔ client.methodMissing reply = true := by
  unfold NodeRpcClient.methodMissing
  cases hfailure : client.failure reply with
  | some f =>
    rw [callValue_of_failure hfailure] at h
    cases h
    rw [shared_code]
    by_cases hcode : f.code = -32601
    · simp [hcode]
    · simp [hcode, mapRpcErrorCode_ne_unsupported]
  | none =>
    refine ⟨fun hcode => ?_, fun hmissing => nomatch hmissing⟩
    unfold NodeRpcClient.callValue at h
    cases reply with
    | unreachable error =>
      cases h
      cases hcode
    | unreadable status error =>
      cases h
      cases hcode
    | answered status body =>
      unfold NodeRpcClient.failure at hfailure
      simp only at h hfailure
      split at h
      · cases h
        cases hcode
      · next hstatus =>
        split at h
        · cases h
          cases hcode
        · next envelope hbody =>
          split at h
          · cases h
          · next f herror =>
            have hsuccess : status.isSuccess = true := by simpa using hstatus
            rw [if_pos hsuccess, hbody] at hfailure
            have hnone : envelope.error = none := hfailure
            rw [herror] at hnone
            cases hnone

/-- A failure of the transport or of HTTP is not taken for a verdict. -/
theorem callValue_of_failed (h : reply.failed = true) :
    client.failure reply = none ∧ ∃ e, client.callValue method reply = .error e ∧ e.code.isOpen = true := by
  cases reply with
  | unreachable error => exact ⟨rfl, _, rfl, rfl⟩
  | unreadable status error => exact ⟨rfl, _, rfl, rfl⟩
  | answered status body =>
    have hstatus : (!status.isSuccess) = true := h
    have hnot : ¬ status.isSuccess = true := by simpa using hstatus
    refine ⟨if_neg hnot, _, if_pos hstatus, rfl⟩

/-- An ambiguous reply is an error; it counts as open unless it is misread. -/
theorem callValue_of_ambiguous (h : client.Ambiguous reply) :
    ∃ e, client.callValue method reply = .error e ∧
      (e.code.isOpen = true ↔ ∀ f, client.failure reply = some f → f.misread = false) := by
  rcases h with hfailed | ⟨f, hf, hopen⟩
  · have hcall : client.failure reply = none ∧
        ∃ e, client.callValue method reply = .error e ∧ e.code.isOpen = true := callValue_of_failed hfailed
    obtain ⟨hnone, e, he, hcode⟩ := hcall
    refine ⟨e, he, fun _ f hf => ?_, fun _ => hcode⟩
    rw [hnone] at hf
    cases hf
  · refine ⟨f.shared method, callValue_of_failure hf, ?_⟩
    have hall : (∀ f', client.failure reply = some f' → f'.misread = false) ↔ f.misread = false := by
      constructor
      · intro h
        exact h f hf
      · intro h f' hf'
        rw [← Option.some.inj (hf.symm.trans hf')]
        exact h
    rw [hall, shared_code]
    unfold RpcFailure.misread
    by_cases hcode : f.code = -32601
    · simp [hcode, SharedErrorCode.isOpen]
    · rw [if_neg hcode, isOpen_mapRpcErrorCode hopen]
      simp [hcode]

/-- The last call decides. -/
theorem go_of_lastCall {methods : List String} {shown : List String}
    (hlast : client.lastCall replies methods = some (method, reply))
    (he : client.callValue method reply = .error e) :
    ∃ e', NodeRpcClient.callFirstAvailableValue.go client shown replies methods = .error e' ∧
      e'.code = e.code := by
  induction methods with
  | nil => cases hlast
  | cons m rest ih =>
    cases rest with
    | nil =>
      cases hlast
      unfold NodeRpcClient.callFirstAvailableValue.go
      rw [he]
      by_cases hcode : e.code = .unsupportedOperation
      · exact ⟨_, if_pos hcode, hcode.symm⟩
      · exact ⟨e, if_neg hcode, rfl⟩
    | cons next rest =>
      unfold NodeRpcClient.lastCall at hlast
      unfold NodeRpcClient.callFirstAvailableValue.go
      split at hlast
      next hmissing =>
        obtain ⟨f, hf, -⟩ := (Option.any_eq_true _ _).mp hmissing
        have hcall : client.callValue m (replies m) = .error (f.shared m) := callValue_of_failure hf
        have hcode := (unsupported_iff_methodMissing hcall).mpr hmissing
        obtain ⟨e', he', hsame⟩ := ih hlast
        refine ⟨e', ?_, hsame⟩
        rw [hcall]
        exact (if_pos hcode).trans he'
      next hfound =>
        cases hlast
        have hcode : e.code ≠ .unsupportedOperation :=
          fun h => hfound ((unsupported_iff_methodMissing he).mp h)
        rw [he]
        exact ⟨e, if_neg hcode, rfl⟩

/-- What the submission call comes to when its last reply is ambiguous. -/
theorem submit_of_ambiguous
    (hlast : client.lastCall replies client.submissionMethods = some (method, reply))
    (h : client.Ambiguous reply) :
    ∃ e, client.submitSignedTransaction replies = .error e ∧
      (e.code.isOpen = true ↔ ∀ f, client.failure reply = some f → f.misread = false) := by
  have hcall : ∃ e, client.callValue method reply = .error e ∧
      (e.code.isOpen = true ↔ ∀ f, client.failure reply = some f → f.misread = false) :=
    callValue_of_ambiguous h
  obtain ⟨e, he, hopen⟩ := hcall
  obtain ⟨e', he', hcode⟩ := go_of_lastCall hlast he
  refine ⟨e', ?_, by rw [hcode, hopen]⟩
  unfold NodeRpcClient.submitSignedTransaction NodeRpcClient.callFirstAvailableValue
  rw [he']
  rfl

end Classification

/-! ## What the tool makes of it -/

/-- The tool answered that the outcome is unknown, and noted the hash as unresolved. -/
structure ReportsUnknown (hash : String) (d : List Event)
    (r : Except SharedError SubmitSignedTransactionOutput) : Prop where
  output : ∃ out, r = .ok out ∧ out.submissionState = .unknown ∧ out.nextAction = .reconcileByTxnHash ∧
    out.txnHash = hash
  noted : (⟨.loc (.insertUnresolved hash), ()⟩ : Event) ∈ d

section Tool

variable {ctx : AppContext} {n : ℕ} {input : SubmitSignedTransactionInput} {d : List Event}
  {signed : SignedUserTransaction} {hash : String} {status : Option SimulationStatus}
  {timeout : Option UInt64} {p : Call SubmitSignedTransactionOutput}

theorem asks_loadPreparedTransactionRecord (key : List Char) :
    Asks Op.quiet (ctx.loadPreparedTransactionRecord key) := by
  have hprune : Asks Op.quiet ctx.prunePreparedTransactions :=
    AppContext.asks_prunePreparedTransactions_of fun _ _ => rfl
  exact hprune.bind fun _ => asks_ask rfl

theorem asks_hasUnresolvedSubmission (hash : String) :
    Asks Op.quiet (ctx.hasUnresolvedSubmission hash) := by
  have hprune : Asks Op.quiet ctx.pruneUnresolvedSubmissions :=
    AppContext.asks_retention.bind fun _ => asks_ask rfl
  exact hprune.bind fun _ => asks_ask rfl

/-- What is left of a submission when the endpoint has answered with an error. -/
def afterError (ctx : AppContext) (hash : String) (status : Option SimulationStatus)
    (timeout : Option UInt64) (error : SharedError) : Call SubmitSignedTransactionOutput :=
  if error.code = .nodeUnavailable ∨ error.code = .rpcUnavailable ∨
      error.code = .submissionUnknown then do
    ctx.recordUnresolvedSubmission hash
    pure (submissionUnknownOutput hash status timeout)
  else if error.code = .transactionExpired ∨ error.code = .sequenceNumberStale then
    pure (rejectedSubmissionOutput hash status (sharedErrorCodeName error.code) timeout)
  else throw error

/-- The call of the endpoint is the first thing that sending asks for, and the only such call. -/
theorem afterError_of_send {hex : List Char} {e : SharedError}
    (h : Steps (ctx.sendSignedTransaction n input hash status timeout)
      (d ++ [⟨.rpc (.submitSignedTransaction hex), .error e⟩]) p) :
    d = [] ∧ p = afterError ctx hash status timeout e := by
  unfold AppContext.sendSignedTransaction rpc at h
  obtain ⟨answer, d', hd, hrest⟩ := h.of_ask_bind
  -- nothing after the first call is like it, so the last answer is the first
  have hnever : ∀ x ∈ d', Op.watching x.1 = true := by
    cases answer with
    | ok _ =>
      refine hrest.asked (Asks.bind ?_ fun _ => asks_pure)
      exact AppContext.asks_watchAccepted_of AppContext.coversWatch_watching _ _ _ _
    | error error =>
      refine hrest.asked (asks_ite (Asks.bind ?_ fun _ => asks_pure) (asks_ite asks_pure asks_throw))
      exact AppContext.asks_recordUnresolvedSubmission hash
  cases d with
  | cons x d =>
    obtain ⟨-, rfl⟩ := List.cons.inj hd
    have hlast := hnever ⟨.rpc (.submitSignedTransaction hex), .error e⟩ (by simp)
    cases hlast
  | nil =>
    cases hd
    exact ⟨rfl, hrest.of_nil⟩

/-- Past the unresolved ledger, a submission that called the endpoint is sending. -/
theorem resolved_sends {record : Option PreparedTransactionRecord} {x : Event}
    (h : Steps (ctx.submitResolved n input signed record timeout) d p) (hmem : x ∈ d)
    (hx : Op.quiet x.1 = false) :
    ∃ d₁ d₂ status, d = d₁ ++ d₂ ∧ x ∈ d₂ ∧
      Steps (ctx.sendSignedTransaction n input (ctx.vm.transactionId signed) status timeout) d₂ p := by
  unfold AppContext.submitResolved at h
  obtain ⟨_, d₁, e₁, rfl, hmem₁, -, h₁⟩ := h.of_bind_asks
    (AppContext.asks_ensureTransactionCapabilitiesCurrent.imp fun _ => Op.quiet_of_aboutProbe) hmem hx
  obtain ⟨snapshot, d₂, e₂, rfl, hmem₂, -, h₂⟩ := h₁.of_bind_asks
    (AppContext.asks_loadTransactionEndpointSnapshot.imp fun _ ho =>
      Op.quiet_of_inquiry (Op.inquiry_of_reading ho)) hmem₁ hx
  obtain ⟨_, d₃, e₃, rfl, hmem₃, -, h₃⟩ := h₂.of_bind_asks (asks_lift (A := Op.quiet)) hmem₂ hx
  split at h₃
  · cases h₃
    cases hmem₃
  obtain ⟨stale, d₄, e₄, rfl, hmem₄, -, h₄⟩ := h₃.of_bind_asks
    ((AppContext.asks_signedTransactionSequenceIsStale _).imp fun _ => Op.quiet_of_inquiry) hmem₃ hx
  split at h₄
  · cases h₄
    cases hmem₄
  refine ⟨d₁ ++ (d₂ ++ (d₃ ++ d₄)), e₄, _, ?_, hmem₄, h₄⟩
  simp only [List.append_assoc]

theorem retention_of_ended {key : List Char} {record : Option PreparedTransactionRecord}
    (h : Ended (ctx.loadPreparedTransactionRecord key) d (.ok record)) :
    ∃ retention, ctx.retention = pure retention := by
  obtain ⟨_, d₁, d₂, -, hprune, -⟩ := h.of_bind_ok
  obtain ⟨retention, d₃, d₄, -, hretention, -⟩ := hprune.of_bind_ok
  unfold AppContext.retention at hretention ⊢
  split at hretention
  · exact ⟨_, rfl⟩
  · cases hretention

/-- A submission that called the endpoint is sending, and the retention is known. -/
theorem submit_sends {x : Event} (hdecode : ctx.decodeSignedTransaction input = .ok signed)
    (h : Steps (ctx.submitSignedTransaction n input) d p) (hmem : x ∈ d) (hx : Op.quiet x.1 = false) :
    (∃ retention, ctx.retention = pure retention) ∧ ∃ d₁ d₂ status timeout, d = d₁ ++ d₂ ∧ x ∈ d₂ ∧
      Steps (ctx.sendSignedTransaction n input (ctx.vm.transactionId signed) status timeout) d₂ p := by
  unfold AppContext.submitSignedTransaction at h
  obtain ⟨_, d₁, e₁, rfl, hmem₁, -, h₁⟩ := h.of_bind_asks (asks_lift (A := Op.quiet)) hmem hx
  rw [hdecode] at h₁
  change Steps (lift (encodeHexBcs ctx.vm signed.rawTxn) >>= _) _ _ at h₁
  obtain ⟨rawTxnBcsHex, d₂, e₂, rfl, hmem₂, -, h₂⟩ := h₁.of_bind_asks (asks_lift (A := Op.quiet)) hmem₁ hx
  obtain ⟨record, d₃, e₃, rfl, hmem₃, hload, h₃⟩ :=
    h₂.of_bind_asks (asks_loadPreparedTransactionRecord _) hmem₂ hx
  obtain ⟨found, d₄, e₄, rfl, hmem₄, -, h₄⟩ :=
    h₃.of_bind_asks (asks_hasUnresolvedSubmission _) hmem₃ hx
  refine ⟨retention_of_ended hload, ?_⟩
  split at h₄
  · cases h₄
    cases hmem₄
  obtain ⟨d₅, e₅, status, rfl, hmem₅, h₅⟩ := resolved_sends h₄ hmem₄ hx
  refine ⟨d₁ ++ (d₂ ++ (d₃ ++ (d₄ ++ d₅))), e₅, status, _, ?_, hmem₅, h₅⟩
  simp only [List.append_assoc]

/-- Noting a hash: with the retention known, it succeeds. -/
theorem recordUnresolvedSubmission_of_retention {retention : Duration}
    (h : ctx.retention = pure retention) (hash : String) :
    ctx.recordUnresolvedSubmission hash =
      (ask (Op.loc (.pruneUnresolved retention)) >>= fun _ => ask (Op.loc (.insertUnresolved hash))) := by
  unfold AppContext.recordUnresolvedSubmission AppContext.pruneUnresolvedSubmissions loc
  rw [h]
  rfl

/-- With the retention known, the rest ends whatever it is told. -/
theorem total_afterError {retention : Duration} {e : SharedError}
    (hretention : ctx.retention = pure retention) : Total (afterError ctx hash status timeout e) := by
  unfold afterError
  rw [recordUnresolvedSubmission_of_retention hretention]
  split
  · exact fun _ _ => trivial
  · split <;> trivial

/-- The rest reports the submission as unknown exactly when the code of the error leaves the outcome
open. -/
theorem afterError_reportsUnknown_iff {retention : Duration} {e : SharedError}
    {r : Except SharedError SubmitSignedTransactionOutput}
    (hretention : ctx.retention = pure retention)
    (h : Ended (afterError ctx hash status timeout e) d r) :
    ReportsUnknown hash d r ↔ e.code.isOpen = true := by
  unfold afterError at h
  rw [recordUnresolvedSubmission_of_retention hretention] at h
  split at h
  next hopen =>
    have hcode : e.code.isOpen = true := by simpa [SharedErrorCode.isOpen, or_assoc] using hopen
    obtain ⟨_, d₁, rfl, h₁⟩ := ended_ask_bind.mp h
    obtain ⟨_, d₂, rfl, h₂⟩ := ended_ask_bind.mp h₁
    obtain ⟨rfl, rfl⟩ := ended_pure.mp h₂
    exact iff_of_true ⟨⟨_, rfl, rfl, rfl, rfl⟩, by simp⟩ hcode
  next hclosed =>
    have hcode : ¬ e.code.isOpen = true := by simpa [SharedErrorCode.isOpen, or_assoc] using hclosed
    refine iff_of_false ?_ hcode
    rintro ⟨⟨out, rfl, hstate, -⟩, -⟩
    split at h
    · obtain ⟨-, hout⟩ := ended_pure.mp h
      cases hout
      cases hstate
    · obtain ⟨-, hout⟩ := ended_throw.mp h
      cases hout

/-- A submission whose call got an ambiguous reply ends; it is reported as unknown, with its hash
noted, exactly when the error of the reply is not taken for something else. -/
theorem ambiguous_reported_unknown_iff {client : NodeRpcClient} {replies : String → HttpReply}
    {method : String} {reply : HttpReply} (hdecode : ctx.decodeSignedTransaction input = .ok signed)
    (h : Steps (ctx.submitSignedTransaction n input) (d ++ [⟨.rpc (.submitSignedTransaction
      input.signedTxnBcsHex), client.submitSignedTransaction replies⟩]) p)
    (hlast : client.lastCall replies client.submissionMethods = some (method, reply))
    (hambiguous : client.Ambiguous reply) :
    Total p ∧ ∀ d' r, Ended p d' r → (ReportsUnknown (ctx.vm.transactionId signed) d' r ↔
      ∀ f, client.failure reply = some f → f.misread = false) := by
  obtain ⟨e, he, hopen⟩ := submit_of_ambiguous hlast hambiguous
  rw [he] at h
  have hsends := submit_sends hdecode h (List.mem_append_right d (List.mem_singleton_self _)) rfl
  obtain ⟨⟨retention, hretention⟩, d₁, d₂, status, timeout, hd, hmem, hsend⟩ := hsends
  rcases List.eq_nil_or_concat' d₂ with rfl | ⟨d₃, x, rfl⟩
  · cases hmem
  rw [← List.append_assoc] at hd
  obtain ⟨rfl, hx⟩ := List.append_inj' hd rfl
  cases hx
  obtain ⟨rfl, rfl⟩ := afterError_of_send hsend
  rw [← hopen]
  exact ⟨total_afterError hretention, fun d' r => afterError_reportsUnknown_iff hretention⟩

end Tool

namespace Sample

/-- What the endpoint says when it gave up waiting. -/
def timedOut : String := "request timed out after submission"

/-- The same of an endpoint that closes idle sessions. -/
def sessionExpired : String := "request timed out after submission: session expired"

def errorBody (message : String) : String :=
  "\x7b\"jsonrpc\":\"2.0\",\"id\":1,\"error\":\x7b\"code\":-32000,\"message\":\"" ++ message ++
    "\"\x7d\x7d"

/-- It reads the two bodies above. -/
def rpcClient : NodeRpcClient where
  vmProfile := .vm2Only
  parseEnvelope body :=
    if body = errorBody timedOut then .ok ⟨.null, some ⟨-32000, timedOut, none⟩⟩
    else if body = errorBody sessionExpired then .ok ⟨.null, some ⟨-32000, sessionExpired, none⟩⟩
    else .error "expected value at line 1 column 1"

def errorReply (message : String) : String → HttpReply :=
  fun _ => .answered ⟨200, "200 OK"⟩ (errorBody message)

theorem failure_of_parseEnvelope {body : String} {f : RpcFailure}
    (h : rpcClient.parseEnvelope body = .ok ⟨.null, some f⟩) :
    rpcClient.failure (.answered ⟨200, "200 OK"⟩ body) = some f := by
  have hstatus : HttpStatus.isSuccess ⟨200, "200 OK"⟩ = true := by decide
  simp [NodeRpcClient.failure, hstatus, h, Except.toOption]

theorem failure_timedOut : rpcClient.failure (.answered ⟨200, "200 OK"⟩ (errorBody timedOut)) =
    some ⟨-32000, timedOut, none⟩ :=
  failure_of_parseEnvelope (by simp [rpcClient])

theorem failure_sessionExpired : rpcClient.failure (.answered ⟨200, "200 OK"⟩ (errorBody sessionExpired)) =
    some ⟨-32000, sessionExpired, none⟩ := by
  have hother : errorBody sessionExpired ≠ errorBody timedOut := by decide +kernel
  exact failure_of_parseEnvelope (by simp [rpcClient, hother])

/-- The transfer was simulated before, and its submission is answered with this error. -/
def replyError (message : String) : (o : Op) → o.Ans
  | .rpc (.submitSignedTransaction _) => rpcClient.submitSignedTransaction (errorReply message)
  | .loc (.getPrepared key) => some ⟨key, .performed, chainContext, 0⟩
  | o => reply 7 o

def submitAnswered (message : String) :
    Option (List Event × Except SharedError SubmitSignedTransactionOutput) :=
  (ctx.submitSignedTransaction 0 submission).answeredBy (replyError message)

theorem submitAnswered_sends {message : String} {d : List Event}
    {r : Except SharedError SubmitSignedTransactionOutput} (h : submitAnswered message = some (d, r))
    (hmem : Op.rpc (.submitSignedTransaction signedHex) ∈ d.map (·.1)) :
    ∃ d₁ d₂ p, d = d₁ ++ ⟨.rpc (.submitSignedTransaction signedHex),
        rpcClient.submitSignedTransaction (errorReply message)⟩ :: d₂ ∧
      Steps (ctx.submitSignedTransaction 0 submission) (d₁ ++ [⟨.rpc (.submitSignedTransaction signedHex),
        rpcClient.submitSignedTransaction (errorReply message)⟩]) p ∧ Ended p d₂ r := by
  obtain ⟨x, hx, hop⟩ := List.mem_map.mp hmem
  have hanswer := eq_reply_of_answeredBy h x hx
  rw [hop] at hanswer
  obtain ⟨d₁, d₂, rfl⟩ := List.append_of_mem hx
  rw [List.append_cons] at h
  obtain ⟨p, hsteps, hended⟩ := (ended_of_answeredBy h).steps
  rw [hanswer] at hsteps ⊢
  exact ⟨d₁, d₂, p, rfl, hsteps, hended⟩

theorem submission_decodes : ∃ signed, ctx.decodeSignedTransaction submission = .ok signed := by
  have hok : (ctx.decodeSignedTransaction submission).toOption.isSome = true := by decide +kernel
  cases h : ctx.decodeSignedTransaction submission with
  | ok signed => exact ⟨signed, rfl⟩
  | error error =>
    rw [h] at hok
    cases hok

end Sample

open Sample in
theorem timed_out_reported_unknown : ∃ d d' p r signed f,
    ctx.decodeSignedTransaction submission = .ok signed ∧
    Steps (ctx.submitSignedTransaction 0 submission) (d ++ [⟨.rpc (.submitSignedTransaction
      submission.signedTxnBcsHex), rpcClient.submitSignedTransaction (errorReply timedOut)⟩]) p ∧
    rpcClient.failure (.answered ⟨200, "200 OK"⟩ (errorBody timedOut)) = some f ∧ f.message = timedOut ∧
    Ended p d' r ∧ ReportsUnknown (ctx.vm.transactionId signed) d' r := by
  have hrun : (submitAnswered timedOut).map (fun (d, _) =>
      (d.map (·.1)).contains (.rpc (.submitSignedTransaction signedHex))) = some true := by decide +kernel
  obtain ⟨⟨d, r⟩, hsubmit, hmem⟩ := Option.map_eq_some_iff.mp hrun
  obtain ⟨d₁, d₂, p, -, hsteps, hended⟩ := submitAnswered_sends hsubmit (List.contains_iff_mem.mp hmem)
  obtain ⟨signed, hdecode⟩ := submission_decodes
  refine ⟨d₁, d₂, p, r, signed, ⟨-32000, timedOut, none⟩, hdecode, hsteps, failure_timedOut,
    rfl, hended, ?_⟩
  have hambiguous : rpcClient.Ambiguous (.answered ⟨200, "200 OK"⟩ (errorBody timedOut)) :=
    .inr ⟨_, failure_timedOut, by decide +kernel⟩
  have hiff := (ambiguous_reported_unknown_iff hdecode hsteps rfl hambiguous).2 d₂ r hended
  refine hiff.mpr ?_
  intro f hf
  cases hf.symm.trans failure_timedOut
  decide +kernel

open Sample in
/-- The endpoint answers that the request timed out after submission because the session expired: the
transfer is reported as rejected, to be prepared and signed anew, and its hash is not noted. -/
theorem session_expired_rejected :
    rpcClient.Ambiguous (.answered ⟨200, "200 OK"⟩ (errorBody sessionExpired)) ∧
    rpcClient.lastCall (errorReply sessionExpired) rpcClient.submissionMethods =
      some ("txpool.submit_hex_transaction2", .answered ⟨200, "200 OK"⟩ (errorBody sessionExpired)) ∧
    ∃ d d' p out, Steps (ctx.submitSignedTransaction 0 submission) (d ++ [⟨.rpc (.submitSignedTransaction
        submission.signedTxnBcsHex), rpcClient.submitSignedTransaction (errorReply sessionExpired)⟩]) p ∧
      Ended p d' (.ok out) ∧ out.submissionState = .rejected ∧ out.nextAction = .reprepareThenResign ∧
      (⟨.loc (.insertUnresolved out.txnHash), ()⟩ : Event) ∉ d' := by
  refine ⟨.inr ⟨_, failure_sessionExpired, by decide +kernel⟩, rfl, ?_⟩
  have hrun : (submitAnswered sessionExpired).map (fun (d, r) =>
      ((d.map (·.1)).contains (.rpc (.submitSignedTransaction signedHex)),
        r.toOption.map fun out => (out.submissionState, out.nextAction,
          (d.map (·.1)).contains (.loc (.insertUnresolved out.txnHash))))) =
      some (true, some (.rejected, .reprepareThenResign, false)) := by decide +kernel
  obtain ⟨⟨d, r⟩, hsubmit, hr⟩ := Option.map_eq_some_iff.mp hrun
  obtain ⟨hmem, hout⟩ := Prod.mk.inj hr
  obtain ⟨d₁, d₂, p, rfl, hsteps, hended⟩ := submitAnswered_sends hsubmit (List.contains_iff_mem.mp hmem)
  clear hrun hsubmit
  cases r with
  | error error => cases hout
  | ok out =>
    simp only [Except.toOption, Option.map_some, Option.some.injEq, Prod.mk.injEq] at hout
    obtain ⟨hstate, hnext, hnoted⟩ := hout
    refine ⟨d₁, d₂, p, out, hsteps, hended, hstate, hnext, fun hin => ?_⟩
    have hin' : Op.loc (.insertUnresolved out.txnHash) ∈ (d₁ ++ ⟨.rpc (.submitSignedTransaction signedHex),
        rpcClient.submitSignedTransaction (errorReply sessionExpired)⟩ :: d₂ : List Event).map (·.1) :=
      List.mem_map_of_mem (List.mem_append_right _ (List.mem_cons_of_mem _ hin))
    rw [List.contains_iff_mem.mpr hin'] at hnoted
    cases hnoted

end StarcoinMcp.Node
