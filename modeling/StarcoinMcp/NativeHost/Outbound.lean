import StarcoinMcp.Lib.JsonSize
import StarcoinMcp.NativeHost.Bridge
import StarcoinMcp.NativeHost.Framing
import StarcoinMcp.Starmask.Delivery
import StarcoinMcp.Starmask.Protection
import StarcoinMcp.Starmask.SqliteRows

/-! A pulled request on its way to the extension. It is written twice: as the reply of the
daemon, which the client of the native host refuses past its limit, and as the frame of
`request.next`, which `write_frame` refuses past its own. Both limits are those of the request
that created it, and both texts add fields to what the request said. -/

namespace StarcoinMcp.NativeHost

open Starmask JsonText

/-! ## Texts -/

section Members

def textMember (name value : String) : Member := (name, string value)

def optionalText (name : String) (value : Option String) : List Member :=
  optional name (value.map string)

def optionalTime (name : String) (value : Option TimestampMs) : List Member :=
  optional name (value.map integer)

variable (p : PulledRequest)

/-- The fields of a request in the order `RequestNext` declares them. -/
def pulledMembers : List Member :=
  [textMember "request_id" p.requestId.value, textMember "client_request_id" p.clientRequestId.value,
    textMember "kind" p.kind.encode, textMember "account_address" p.accountAddress,
    textMember "payload_hash" p.payloadHash.value] ++
  optionalText "display_hint" p.displayHint ++ optionalText "client_context" p.clientContext ++
  [("resume_required", boolean p.resumeRequired)] ++
  optionalText "delivery_lease_id" (p.deliveryLeaseId.map (·.value)) ++
  optionalTime "lease_expires_at" p.leaseExpiresAt ++
  optionalText "presentation_id" (p.presentationId.map (·.value)) ++
  optionalTime "presentation_expires_at" p.presentationExpiresAt ++
  optionalText "raw_txn_bcs_hex" p.rawTxnBcsHex ++ optionalText "message" p.message ++
  optionalText "message_format" (p.messageFormat.map messageFormatName) ++
  optionalText "output_file" p.outputFile ++ [("force", boolean p.force)] ++
  optionalText "private_key_file" p.privateKeyFile

/-- The same fields in the reply of the daemon, which goes through `serde_json::Value`: sorted. -/
def sortedMembers : List Member :=
  [textMember "account_address" p.accountAddress] ++ optionalText "client_context" p.clientContext ++
  [textMember "client_request_id" p.clientRequestId.value] ++
  optionalText "delivery_lease_id" (p.deliveryLeaseId.map (·.value)) ++
  optionalText "display_hint" p.displayHint ++
  [("force", boolean p.force), textMember "kind" p.kind.encode] ++
  optionalTime "lease_expires_at" p.leaseExpiresAt ++ optionalText "message" p.message ++
  optionalText "message_format" (p.messageFormat.map messageFormatName) ++
  optionalText "output_file" p.outputFile ++ [textMember "payload_hash" p.payloadHash.value] ++
  optionalTime "presentation_expires_at" p.presentationExpiresAt ++
  optionalText "presentation_id" (p.presentationId.map (·.value)) ++
  optionalText "private_key_file" p.privateKeyFile ++ optionalText "raw_txn_bcs_hex" p.rawTxnBcsHex ++
  [textMember "request_id" p.requestId.value, ("resume_required", boolean p.resumeRequired)]

end Members

def NativeBridgeResponse.members : NativeBridgeResponse → List Member
  | .extensionRegistered replyTo walletInstanceId daemonProtocolVersion accepted =>
    [textMember "type" "extension.registered", textMember "reply_to" replyTo,
      textMember "wallet_instance_id" walletInstanceId.value,
      ("daemon_protocol_version", integer daemonProtocolVersion), ("accepted", boolean accepted)]
  | .extensionAck replyTo => [textMember "type" "extension.ack", textMember "reply_to" replyTo]
  | .requestNext replyTo request =>
    [textMember "type" "request.next", textMember "reply_to" replyTo] ++ pulledMembers request
  | .requestNone replyTo walletInstanceId =>
    [textMember "type" "request.none", textMember "reply_to" replyTo,
      textMember "wallet_instance_id" walletInstanceId.value]
  | .extensionError replyTo error =>
    [textMember "type" "extension.error"] ++ optionalText "reply_to" replyTo ++
    [textMember "code" error.code.encode, textMember "message" error.message] ++
    optional "retryable" (error.retryable.map boolean)

/-- `serde_json::to_vec(&response)`. -/
def NativeBridgeResponse.toVec (response : NativeBridgeResponse) : List UInt8 :=
  bytes (object response.members)

/-! ## The socket of the daemon -/

def maxRequestBytes : Nat := 1024 * 1024

/-- The loop of `read_request_bytes`, with what it has read so far; a read of nothing ends it. -/
def readRequestBytes (sofar : List UInt8) : List (List UInt8) → Except String (List UInt8)
  | [] => .ok sofar
  | chunk :: chunks =>
    if chunk.isEmpty then .ok sofar
    else if maxRequestBytes < sofar.length + chunk.length then
      .error ("daemon rpc request exceeds " ++ toString maxRequestBytes ++ " bytes")
    else readRequestBytes (sofar ++ chunk) chunks

/-- The text of a `request.createSignMessage` call. -/
def createSignMessageText (id : String) (versioned : Versioned CreateSignMessageCommand) : List UInt8 :=
  let params := versioned.params
  bytes (object [textMember "jsonrpc" "2.0", textMember "id" id,
    textMember "method" "request.createSignMessage", ("params", object
      ([("protocol_version", integer versioned.protocolVersion),
        textMember "client_request_id" params.clientRequestId.value,
        textMember "account_address" params.accountAddress] ++
      optionalText "wallet_instance_id" (params.walletInstanceId.map (·.value)) ++
      [textMember "message" params.message, textMember "format" (messageFormatName params.format)] ++
      optionalText "display_hint" params.displayHint ++
      optionalText "client_context" params.clientContext ++
      optional "ttl_seconds" (params.ttlSeconds.map fun n : DurationSeconds => integer (Int.ofNat n))))])

def envelope (id : String) (last : Member) : List Member :=
  [textMember "jsonrpc" "2.0", textMember "id" id, last]

/-- The result of `request.pullNext`, sorted as well. -/
def pullNextMembers (result : PullNextRequestResult) : List Member :=
  optional "request" (result.request.map fun request => object (sortedMembers request)) ++
  [textMember "wallet_instance_id" result.walletInstanceId.value]

def pullNextReply (id : String) (result : PullNextRequestResult) : List UInt8 :=
  bytes (object (envelope id ("result", object (pullNextMembers result))))

def errorReply (response : JsonRpcErrorResponse) : List UInt8 :=
  bytes (object (envelope response.id ("error", object
    ([textMember "code" response.error.code.encode, textMember "message" response.error.message] ++
      optional "retryable" (response.error.retryable.map boolean)))))

/-! ## The client of the native host -/

def maxResponseBytes : Nat := 1024 * 1024

def sharedTransportError (message : String) : SharedError := SharedError.new .rpcUnavailable message

def sharedInternalError (message : String) : SharedError := SharedError.new .internalBridgeError message

/-- The end of `LocalDaemonClient::call`: the reply is refused by its length before it is parsed,
and what is parsed is what the daemon wrote. -/
def received {α : Type} (reply : List UInt8) (parsed : Except SharedError α) : Except SharedError α :=
  if maxResponseBytes < reply.length then
    .error (sharedTransportError ("daemon response exceeded " ++ toString maxResponseBytes ++ " bytes"))
  else parsed

/-- `LocalDaemonClient::request_pull_next` against the daemon `d`. -/
def requestPullNext (d : Daemon) (env : Env) (params : Versioned WalletInstanceId) :
    FailState Store SharedError PullNextRequestResult := fun s =>
  match d.dispatchRequest env ⟨"native-host", .requestPullNext (.ok params)⟩ s with
  | (.ok ⟨id, .response (.pullNextRequest result)⟩, s') =>
    (received (pullNextReply id result) (.ok result), s')
  | (.ok _, s') =>
    (.error (sharedInternalError "data did not match any variant of untagged enum JsonRpcResponse"), s')
  | (.error response, s') => (received (errorReply response) (.error response.error), s')

/-- One turn of the loop of `main`, from the request that was read. An error ends the loop. -/
def answerFrame {σ : Type} (order : ByteOrder) (client : DaemonRpc σ) (request : NativeBridgeRequest)
    (stdout : List UInt8) (world : σ) : Except FrameError (List UInt8) × σ :=
  let (response, world') := handleRequest client request world
  (writeFrame order stdout response.toVec, world')

/-! ## Sizes -/

/-- The bytes of a member that may be left out. -/
def optionalSize (name : String) (value : Option ℕ) : ℕ := value.elim 0 (memberSize name)

section Sizes

@[simp] theorem memberSize_textMember (name value : String) :
    memberSize (textMember name value).1 (byteSize (textMember name value).2) =
      memberSize name (textSize value) := by
  unfold textMember
  rw [byteSize_string]

@[simp] theorem membersSize_optional (name : String) (value : Option (List Char)) :
    membersSize (optional name value) = optionalSize name (value.map byteSize) := by
  cases value with
  | none => rfl
  | some text => exact membersSize_optional_some name text

@[simp] theorem membersSize_optionalText (name : String) (value : Option String) :
    membersSize (optionalText name value) = optionalSize name (value.map textSize) := by
  have hsize : byteSize ∘ string = textSize := funext byteSize_string
  unfold optionalText
  rw [membersSize_optional, Option.map_map, hsize]

/-- Sorting the fields does not change how many bytes they take. -/
theorem membersSize_sortedMembers (p : PulledRequest) :
    membersSize (sortedMembers p) = membersSize (pulledMembers p) := by
  simp only [sortedMembers, pulledMembers, membersSize_append, membersSize_cons, memberSize_textMember,
    membersSize_nil, membersSize_optionalText]
  omega

theorem length_pullNextReply (id : String) (w : WalletInstanceId) (p : PulledRequest) :
    (pullNextReply id ⟨w, some p⟩).length =
      1 + memberSize "jsonrpc" (textSize "2.0") + memberSize "id" (textSize id) + memberSize "result"
        (1 + memberSize "request" (1 + membersSize (pulledMembers p)) +
          memberSize "wallet_instance_id" (textSize w.value)) := by
  have hrequest : byteSize (object (sortedMembers p)) = 1 + membersSize (pulledMembers p) := by
    rw [byteSize_object (by simp [sortedMembers]), membersSize_sortedMembers]
  have hresult : byteSize (object (pullNextMembers ⟨w, some p⟩)) =
      1 + memberSize "request" (1 + membersSize (pulledMembers p)) +
        memberSize "wallet_instance_id" (textSize w.value) := by
    rw [byteSize_object (by simp [pullNextMembers])]
    simp only [pullNextMembers, Option.map_some, membersSize_append, membersSize_optional_some, hrequest,
      membersSize_cons, memberSize_textMember, membersSize_nil]
    omega
  unfold pullNextReply envelope
  rw [length_bytes, byteSize_object (by simp)]
  simp only [membersSize_cons, membersSize_nil, memberSize_textMember, hresult]
  omega

theorem length_requestNext (replyTo : String) (p : PulledRequest) :
    (NativeBridgeResponse.requestNext replyTo p).toVec.length =
      1 + memberSize "type" (textSize "request.next") + memberSize "reply_to" (textSize replyTo) +
        membersSize (pulledMembers p) := by
  unfold NativeBridgeResponse.toVec NativeBridgeResponse.members
  rw [length_bytes, byteSize_object (by simp)]
  simp only [membersSize_append, membersSize_cons, membersSize_nil, memberSize_textMember]
  omega

end Sizes

/-! ## Sizes of a stored request -/

def hintsSize (displayHint clientContext : Option String) : ℕ :=
  optionalSize "display_hint" (displayHint.map textSize) +
    optionalSize "client_context" (clientContext.map textSize)

def forceSize (force : Bool) : ℕ := memberSize "force" (if force then 4 else 5)

/-- The bytes of the members that come from the payload. -/
def payloadSize : RequestPayload → ℕ
  | .signTransaction t => hintsSize t.displayHint t.clientContext +
      memberSize "raw_txn_bcs_hex" (textSize t.rawTxnBcsHex) + forceSize false
  | .signMessage m => hintsSize m.displayHint m.clientContext +
      memberSize "message" (textSize m.message) +
      memberSize "message_format" (textSize (messageFormatName m.format)) + forceSize false
  | .createAccount a => hintsSize a.displayHint a.clientContext + forceSize false
  | .exportAccount a => hintsSize a.displayHint a.clientContext +
      memberSize "output_file" (textSize a.outputFile) + forceSize a.force
  | .importAccount a => hintsSize a.displayHint a.clientContext +
      memberSize "private_key_file" (textSize a.privateKeyFile) + forceSize false

/-- The bytes of the members that the stored request determines. -/
def requestSize (r : RequestRecord) : ℕ :=
  memberSize "request_id" (textSize r.requestId.value) +
    memberSize "client_request_id" (textSize r.clientRequestId.value) +
    memberSize "kind" (textSize r.kind.encode) + memberSize "account_address" (textSize r.accountAddress) +
    memberSize "payload_hash" (textSize r.payloadHash.value) + payloadSize r.payload

/-- The bytes of the members that a pull adds: the lease a waiting request is put under, or the
presentation of the request that is shown, with its new end. -/
def leaseSize (c : Coordinator) (env : Env) (r : RequestRecord) : ℕ :=
  if r.status = .created then
    memberSize "resume_required" 5 +
      optionalSize "delivery_lease_id" (env.newDeliveryLeaseId.toOption.map fun id => textSize id.value) +
      memberSize "lease_expires_at" (byteSize (integer (env.now 2 + c.config.deliveryLeaseTtl * 1000)))
  else
    memberSize "resume_required" 4 +
      optionalSize "presentation_id" (r.presentation.map fun p => textSize p.presentationId.value) +
      memberSize "presentation_expires_at"
        (byteSize (integer (env.now 0 + c.config.presentationLeaseTtl * 1000)))

/-- The bytes of the daemon's reply to a pull of `r`. -/
def replySize (c : Coordinator) (env : Env) (r : RequestRecord) : ℕ :=
  1 + memberSize "jsonrpc" (textSize "2.0") + memberSize "id" (textSize "native-host") +
    memberSize "result" (1 + memberSize "request" (1 + (requestSize r + leaseSize c env r)) +
      memberSize "wallet_instance_id" (textSize r.walletInstanceId.value))

/-- The bytes of the `request.next` message with `r`, which answers the message `replyTo`. -/
def requestNextSize (c : Coordinator) (env : Env) (replyTo : String) (r : RequestRecord) : ℕ :=
  1 + memberSize "type" (textSize "request.next") + memberSize "reply_to" (textSize replyTo) +
    (requestSize r + leaseSize c env r)

section Stored

variable {c : Coordinator} {env : Env} {w : WalletInstanceId} {s s' : Store} {r : RequestRecord}
  {p : PulledRequest}

theorem byteSize_boolean (b : Bool) : byteSize (boolean b) = if b then 4 else 5 := by
  cases b <;> decide

/-- The bytes of the members of a pulled request that tell of its lease or its presentation. -/
def leaseMembersSize (p : PulledRequest) : ℕ :=
  memberSize "resume_required" (if p.resumeRequired then 4 else 5) +
    optionalSize "delivery_lease_id" (p.deliveryLeaseId.map fun id => textSize id.value) +
    optionalSize "lease_expires_at" (p.leaseExpiresAt.map fun t => byteSize (integer t)) +
    optionalSize "presentation_id" (p.presentationId.map fun id => textSize id.value) +
    optionalSize "presentation_expires_at" (p.presentationExpiresAt.map fun t => byteSize (integer t))

theorem membersSize_pulledMembers (p : PulledRequest) : membersSize (pulledMembers p) =
    memberSize "request_id" (textSize p.requestId.value) +
    memberSize "client_request_id" (textSize p.clientRequestId.value) +
    memberSize "kind" (textSize p.kind.encode) + memberSize "account_address" (textSize p.accountAddress) +
    memberSize "payload_hash" (textSize p.payloadHash.value) + hintsSize p.displayHint p.clientContext +
    optionalSize "raw_txn_bcs_hex" (p.rawTxnBcsHex.map textSize) +
    optionalSize "message" (p.message.map textSize) +
    optionalSize "message_format" (p.messageFormat.map fun format => textSize (messageFormatName format)) +
    optionalSize "output_file" (p.outputFile.map textSize) + forceSize p.force +
    optionalSize "private_key_file" (p.privateKeyFile.map textSize) + leaseMembersSize p := by
  simp only [pulledMembers, optionalTime, membersSize_append, membersSize_cons, memberSize_textMember,
    membersSize_nil, membersSize_optionalText, membersSize_optional, Option.map_map, Function.comp_def,
    byteSize_boolean, hintsSize, forceSize, leaseMembersSize]
  omega

/-- A pulled request takes the bytes of the record it delivers, and those of its lease. -/
theorem membersSize_of_delivers (hr : r.payload.kind = r.kind) (h : p.Delivers r) :
    membersSize (pulledMembers p) = requestSize r + leaseMembersSize p := by
  have hcarries := h.payload
  rw [membersSize_pulledMembers, h.requestId, h.clientRequestId, h.accountAddress, h.payloadHash]
  unfold requestSize
  rw [← hr]
  cases hp : r.payload with
  | signTransaction t =>
    rw [hp] at hcarries
    obtain ⟨hkind, h₁, h₂, h₃, h₄, h₅, h₆, h₇, h₈⟩ := hcarries
    simp only [hkind, h₁, h₂, h₃, h₄, h₅, h₆, h₇, h₈, payloadSize, RequestPayload.kind, optionalSize,
      Option.map_some, Option.map_none, Option.elim_some, Option.elim_none]
    omega
  | signMessage m =>
    rw [hp] at hcarries
    obtain ⟨hkind, h₁, h₂, h₃, h₄, h₅, h₆, h₇, h₈⟩ := hcarries
    simp only [hkind, h₁, h₂, h₃, h₄, h₅, h₆, h₇, h₈, payloadSize, RequestPayload.kind, optionalSize,
      Option.map_some, Option.map_none, Option.elim_some, Option.elim_none]
    omega
  | createAccount a =>
    rw [hp] at hcarries
    obtain ⟨hkind, h₁, h₂, h₃, h₄, h₅, h₆, h₇, h₈⟩ := hcarries
    simp only [hkind, h₁, h₂, h₃, h₄, h₅, h₆, h₇, h₈, payloadSize, RequestPayload.kind, optionalSize,
      Option.map_none, Option.elim_none]
    omega
  | exportAccount a =>
    rw [hp] at hcarries
    obtain ⟨hkind, h₁, h₂, h₃, h₄, h₅, h₆, h₇, h₈⟩ := hcarries
    simp only [hkind, h₁, h₂, h₃, h₄, h₅, h₆, h₇, h₈, payloadSize, RequestPayload.kind, optionalSize,
      Option.map_some, Option.map_none, Option.elim_some, Option.elim_none]
    omega
  | importAccount a =>
    rw [hp] at hcarries
    obtain ⟨hkind, h₁, h₂, h₃, h₄, h₅, h₆, h₇, h₈⟩ := hcarries
    simp only [hkind, h₁, h₂, h₃, h₄, h₅, h₆, h₇, h₈, payloadSize, RequestPayload.kind, optionalSize,
      Option.map_some, Option.map_none, Option.elim_some, Option.elim_none]
    omega

/-- The request a pull returns is stored, for the wallet that pulls, and what it takes is known
before the pull. -/
theorem pulled_spec (hs : s.WellFormed)
    (h : c.dispatch env (.pullNextRequest w) s = (.ok (.pullNextRequest ⟨w, some p⟩), s'))
    (hr : s.getRequest p.requestId = some r) :
    r.walletInstanceId = w ∧ membersSize (pulledMembers p) = requestSize r + leaseSize c env r := by
  have hpull : c.pullNextRequest env w s = (.ok ⟨w, some p⟩, s') := by
    simp only [Coordinator.dispatch, FailState.map_apply] at h
    generalize c.pullNextRequest env w s = out at h
    obtain ⟨answer, after⟩ := out
    cases answer with
    | error e => cases h
    | ok found =>
      cases h
      rfl
  have hsame : ∀ x, x ∈ s.requests.rows → p.requestId = x.requestId → x = r := by
    intro x hx hid
    have hget := Store.mem_requests_iff.mp hx
    rw [← hid, hr] at hget
    exact (Option.some.inj hget).symm
  have hkind : r.payload.kind = r.kind := (hs _ r hr).payload
  rcases (pull_outcome hs hpull).2 with hresumes | hclaims | hidle
  · obtain ⟨x, shown, t, q, holdest, hshown, rfl, -, -, hq, hdelivers, hflag, hid, hexpires, hnone,
      hnever⟩ := hresumes
    obtain rfl : p = q := Option.some.inj hq
    obtain rfl := hsame x holdest.1 hdelivers.requestId
    obtain ⟨hwallet, hstatus, -⟩ := resumable_iff.mp holdest.2.1
    refine ⟨hwallet, ?_⟩
    have hnot : ¬ x.status = .created := by
      rw [hstatus]
      decide
    rw [membersSize_of_delivers hkind hdelivers, leaseSize, if_neg hnot, leaseMembersSize, hflag, hid,
      hexpires, hnone, hnever, hshown]
    simp only [if_true, optionalSize, Option.map_some, Option.map_none, Option.elim_some,
      Option.elim_none]
    omega
  · obtain ⟨-, x, leaseId, t, q, holdest, -, -, hid, rfl, -, hq, hdelivers, hflag, hlease, hexpires,
      hnone, hnever⟩ := hclaims
    obtain rfl : p = q := Option.some.inj hq
    obtain rfl := hsame x holdest.1 hdelivers.requestId
    obtain ⟨hwallet, hstatus⟩ := holdest.2.1
    refine ⟨hwallet, ?_⟩
    rw [membersSize_of_delivers hkind hdelivers, leaseSize, if_pos hstatus, leaseMembersSize, hflag,
      hlease, hexpires, hnone, hnever, hid]
    simp only [Bool.false_eq_true, if_false, optionalSize, Except.toOption, Option.map_some,
      Option.map_none, Option.elim_some, Option.elim_none]
    omega
  · cases hidle.2.2.1

end Stored

/-! ## Deliveries -/

/-- The client of the native host against the daemon `d`. -/
def localDaemonClient (d : Daemon) (env : Env) (others : DaemonRpc Store) : DaemonRpc Store :=
  { others with requestPullNext := requestPullNext d env }

/-- The pull of the message `messageId` is answered by `request.next` with the request `p`, and
its frame is written. -/
structure YieldsNext (order : ByteOrder) (client : DaemonRpc Store) (messageId : String)
    (w : WalletInstanceId) (stdout : List UInt8) (s : Store) (p : PulledRequest) : Prop where
  response : (handleRequest client (.requestPullNext messageId w) s).1 = .requestNext messageId p
  written : (answerFrame order client (.requestPullNext messageId w) stdout s).1 =
    .ok (stdout ++ frame order (NativeBridgeResponse.requestNext messageId p).toVec)

theorem daemon_run_wellFormed (d : Daemon) (steps : List DaemonStep) : (d.run steps).WellFormed := by
  have hempty : Store.empty.WellFormed := by
    intro id r h
    cases h
  have hstep : ∀ s x, Store.WellFormed s → (d.step s x).WellFormed := by
    intro s x hs
    cases x with
    | request env request =>
      rcases step_request d env s request with he | ⟨command, -, he⟩
      · rw [he]
        exact hs
      · rw [he]
        exact Coordinator.step_wellFormed _ hs
    | tick env => exact Coordinator.step_wellFormed _ hs
  exact Trace.run_invariant hstep hempty steps

section Deliveries

variable {d : Daemon} {env : Env} {order : ByteOrder} {stdout : List UInt8} {w : WalletInstanceId}
  {s s' : Store} {p : PulledRequest}

theorem requestPullNext_eq
    (h : d.coordinator.dispatch env (.pullNextRequest w) s = (.ok (.pullNextRequest ⟨w, some p⟩), s')) :
    requestPullNext d env ⟨daemonProtocolVersion, w⟩ s =
      (received (pullNextReply "native-host" ⟨w, some p⟩) (.ok ⟨w, some p⟩), s') := by
  have hcall : d.dispatchCall env "native-host" (.requestPullNext (.ok ⟨daemonProtocolVersion, w⟩)) s =
      (.ok (.response (.pullNextRequest ⟨w, some p⟩)), s') := by
    show d.expectResponse env (.pullNextRequest w) _ s = _
    unfold Daemon.expectResponse
    rw [h]
    rfl
  have hreply : d.dispatchRequest env
      ⟨"native-host", .requestPullNext (.ok ⟨daemonProtocolVersion, w⟩)⟩ s =
        (.ok ⟨"native-host", .response (.pullNextRequest ⟨w, some p⟩)⟩, s') := by
    unfold Daemon.dispatchRequest
    rw [FailState.bind_ok hcall]
    rfl
  unfold requestPullNext
  rw [hreply]

/-- The answer to a pull that found `p`, by the size of the daemon's reply. -/
theorem handleRequest_pull (others : DaemonRpc Store) (messageId : String)
    (h : d.coordinator.dispatch env (.pullNextRequest w) s = (.ok (.pullNextRequest ⟨w, some p⟩), s')) :
    handleRequest (localDaemonClient d env others) (.requestPullNext messageId w) s =
      (if maxResponseBytes < (pullNextReply "native-host" ⟨w, some p⟩).length then
        .extensionError (some messageId) (sharedTransportError "daemon response exceeded 1048576 bytes")
      else .requestNext messageId p, s') := by
  have hpull := requestPullNext_eq h
  unfold received at hpull
  unfold handleRequest
  have hcall : callDaemon (localDaemonClient d env others) (.requestPullNext messageId w) s =
      (requestPullNext d env ⟨daemonProtocolVersion, w⟩ >>= fun result =>
        pure (pulledResponse messageId w result)) s := rfl
  dsimp only [unsupportedVersion]
  rw [hcall]
  split_ifs at hpull ⊢ with hlarge
  · rw [FailState.bind_error hpull]
    rfl
  · rw [FailState.bind_ok hpull]
    rfl

theorem yieldsNext_iff (others : DaemonRpc Store) (messageId : String)
    (h : d.coordinator.dispatch env (.pullNextRequest w) s = (.ok (.pullNextRequest ⟨w, some p⟩), s')) :
    YieldsNext order (localDaemonClient d env others) messageId w stdout s p ↔
      (pullNextReply "native-host" ⟨w, some p⟩).length ≤ maxResponseBytes ∧
        (NativeBridgeResponse.requestNext messageId p).toVec.length ≤ nativeBridgeMaxOutboundBytes := by
  have hanswer := handleRequest_pull others messageId h
  constructor
  · rintro ⟨hresponse, hwritten⟩
    have hreply : (pullNextReply "native-host" ⟨w, some p⟩).length ≤ maxResponseBytes := by
      by_contra hlarge
      rw [hanswer, if_pos (by omega)] at hresponse
      cases hresponse
    refine ⟨hreply, ?_⟩
    unfold answerFrame at hwritten
    rw [hanswer, if_neg (by omega)] at hwritten
    dsimp only at hwritten
    exact (writeFrame_ok_iff order stdout _).mp hwritten
  · rintro ⟨hreply, hframe⟩
    rw [if_neg (by omega)] at hanswer
    refine ⟨by rw [hanswer], ?_⟩
    unfold answerFrame
    rw [hanswer]
    dsimp only
    rw [writeFrame_ok_iff order stdout]
    exact hframe

/-- The same by what is stored before the pull. -/
theorem yieldsNext_iff_sizes {r : RequestRecord} (others : DaemonRpc Store) (messageId : String)
    (hs : s.WellFormed)
    (h : d.coordinator.dispatch env (.pullNextRequest w) s = (.ok (.pullNextRequest ⟨w, some p⟩), s'))
    (hr : s.getRequest p.requestId = some r) :
    YieldsNext order (localDaemonClient d env others) messageId w stdout s p ↔
      replySize d.coordinator env r ≤ maxResponseBytes ∧
        requestNextSize d.coordinator env messageId r ≤ nativeBridgeMaxOutboundBytes := by
  obtain ⟨rfl, hsize⟩ := pulled_spec hs h hr
  rw [yieldsNext_iff others messageId h, length_pullNextReply, length_requestNext, hsize]
  rfl

end Deliveries

/-- A pull that returns a stored request is answered by its frame just when the reply of the daemon
and the message to the extension are both within their limits. -/
theorem pulled_request_yields_frame_iff (d : Daemon) (steps : List DaemonStep) (env : Env)
    (others : DaemonRpc Store) (order : ByteOrder) (messageId : String) (stdout : List UInt8)
    {w : WalletInstanceId} {p : PulledRequest} {s' : Store} {r : RequestRecord}
    (hpull : d.coordinator.dispatch env (.pullNextRequest w) (d.run steps) =
      (.ok (.pullNextRequest ⟨w, some p⟩), s'))
    (hr : (d.run steps).getRequest p.requestId = some r) :
    YieldsNext order (localDaemonClient d env others) messageId w stdout (d.run steps) p ↔
      replySize d.coordinator env r ≤ maxResponseBytes ∧
        requestNextSize d.coordinator env messageId r ≤ nativeBridgeMaxOutboundBytes :=
  yieldsNext_iff_sizes others messageId (daemon_run_wellFormed d steps) hpull hr

/-! ## A browser wallet that is asked for a signature -/

namespace Browser

open Session

def register : DaemonStep :=
  .request (env 0 lease₁)
    ⟨"1", .extensionRegister (.ok ⟨2, wallet₂, "extension-1", "1.0.0", none, .unlocked,
    [⟨"0x1", none, none, true⟩]⟩)⟩

def signMessage (message : String) : Versioned CreateSignMessageCommand :=
  ⟨2, ⟨⟨"client-1", .refl false⟩, "0x1", none, message, .utf8, none, none, none⟩⟩

def signing (message : String) : List DaemonStep :=
  [register, .request (env 0 lease₁) ⟨"2", .requestCreateSignMessage (.ok (signMessage message))⟩]

def messageOf (n : ℕ) : String := String.ofList (List.replicate n 'a')

/-- A message that leaves room for the request that carries it, and for little more. -/
def longMessage : String := messageOf 1048380

/-- The browser wallet's request is delivered to it and claimed. -/
def delivers : CoreResult CoordinatorResponse × Store → Bool
  | (.ok (.pullNextRequest ⟨w, some p⟩), s) => w = wallet₂ ∧ p.requestId = request ∧
      (s.getRequest request).map RequestRecord.status = some .dispatched
  | _ => false

end Browser

open Session Browser in
theorem pulled_request_yields_frame_short :
    ∃ p s' r, daemon.coordinator.dispatch (env 1000 lease₁) (.pullNextRequest wallet₂)
        (daemon.run (signing "hello")) = (.ok (.pullNextRequest ⟨wallet₂, some p⟩), s') ∧
      (daemon.run (signing "hello")).getRequest p.requestId = some r ∧
      ∀ others order stdout, YieldsNext order (localDaemonClient daemon (env 1000 lease₁) others)
        "message-1" wallet₂ stdout (daemon.run (signing "hello")) p := by
  have hreply : delivers (daemon.coordinator.dispatch (env 1000 lease₁) (.pullNextRequest wallet₂)
      (daemon.run (signing "hello"))) = true := by decide +kernel
  generalize hpull : daemon.coordinator.dispatch (env 1000 lease₁) (.pullNextRequest wallet₂)
    (daemon.run (signing "hello")) = out at hreply
  unfold delivers at hreply
  split at hreply
  · rename_i w p s'
    obtain ⟨rfl, hid, -⟩ := of_decide_eq_true hreply
    have hfits : ((daemon.run (signing "hello")).getRequest request).map (fun r =>
        decide (replySize daemon.coordinator (env 1000 lease₁) r ≤ maxResponseBytes ∧
          requestNextSize daemon.coordinator (env 1000 lease₁) "message-1" r ≤
            nativeBridgeMaxOutboundBytes)) = some true := by decide +kernel
    obtain ⟨r, hr, hsmall⟩ := Option.map_eq_some_iff.mp hfits
    rw [← hid] at hr
    refine ⟨p, s', r, rfl, hr, fun others order stdout => ?_⟩
    exact (pulled_request_yields_frame_iff daemon (signing "hello") (env 1000 lease₁) others order
      "message-1" stdout hpull hr).mpr (of_decide_eq_true hsmall)
  · cases hreply

section Refused

open Session Browser

/-- However its bytes come, a request within the limit is read. -/
theorem readRequestBytes_eq {chunks : List (List UInt8)} (hne : ∀ chunk ∈ chunks, chunk ≠ []) :
    ∀ sofar, sofar.length + chunks.flatten.length ≤ maxRequestBytes →
      readRequestBytes sofar chunks = .ok (sofar ++ chunks.flatten) := by
  induction chunks with
  | nil =>
    intro sofar _
    rw [List.flatten_nil, List.append_nil]
    rfl
  | cons chunk chunks ih =>
    intro sofar hle
    rw [List.flatten_cons, List.length_append] at hle
    have hsome : ¬ chunk.isEmpty = true := by
      rw [List.isEmpty_iff]
      exact hne chunk (List.mem_cons_self ..)
    have hnext := ih (fun c hc => hne c (List.mem_cons_of_mem _ hc)) (sofar ++ chunk) (by
      rw [List.length_append]
      omega)
    rw [readRequestBytes, if_neg hsome, if_neg (by omega), hnext, List.flatten_cons, List.append_assoc]

theorem textSize_messageOf (n : ℕ) : textSize (messageOf n) = n + 2 := by
  have hone : charSize 'a' = 1 := by decide
  unfold textSize messageOf
  rw [String.toList_ofList, List.map_replicate, hone, List.sum_replicate_nat]
  omega

theorem length_createSignMessageText (n : ℕ) :
    (createSignMessageText "2" (signMessage (messageOf n))).length = n + 179 := by
  have hfixed : textSize "jsonrpc" + textSize "2.0" + textSize "id" + textSize "2" + textSize "method" +
      textSize "request.createSignMessage" + textSize "params" + textSize "protocol_version" +
      byteSize (integer (2 : ℕ)) + textSize "client_request_id" + textSize "client-1" +
      textSize "account_address" + textSize "0x1" + textSize "message" + textSize "format" +
      textSize (messageFormatName .utf8) = 157 := by decide +kernel
  unfold createSignMessageText signMessage
  rw [length_bytes, byteSize_object (by simp)]
  simp only [membersSize_cons, membersSize_nil, memberSize_textMember]
  rw [byteSize_object (by simp)]
  simp only [membersSize_append, membersSize_cons, membersSize_nil, memberSize_textMember,
    membersSize_optionalText, membersSize_optional, optionalSize, Option.map_none, Option.elim_none]
  simp only [memberSize, textSize_messageOf]
  omega

theorem step_createSignMessage (d : Daemon) (env : Env) (s : Store) (id : String)
    (command : CreateSignMessageCommand) :
    d.step s (.request env ⟨id, .requestCreateSignMessage (.ok ⟨2, command⟩)⟩) =
      d.coordinator.step s ⟨env, .createSignMessage command⟩ := by
  have hcall : (d.dispatchCall env id (.requestCreateSignMessage (.ok ⟨2, command⟩)) s).2 =
      d.coordinator.step s ⟨env, .createSignMessage command⟩ := expectResponse_state _ _
  rw [← hcall]
  unfold Daemon.step Daemon.dispatchRequest
  cases hrun : d.dispatchCall env id (.requestCreateSignMessage (.ok ⟨2, command⟩)) s with
  | mk x s' =>
    cases x with
    | ok result =>
      dsimp only
      rw [FailState.bind_ok hrun]
      rfl
    | error e =>
      dsimp only
      rw [FailState.bind_error hrun]

/-- The stored request has the message of the call. -/
theorem signing_payload {message : String} {r : RequestRecord}
    (hr : (daemon.run (signing message)).getRequest request = some r) :
    r.payload = .signMessage ⟨message, .utf8, none, none⟩ := by
  have hnone : (daemon.run [register]).getRequest request = none := by
    refine Option.not_isSome_iff_eq_none.mp ?_
    decide +kernel
  have hrun : daemon.run (signing message) =
      daemon.coordinator.step (daemon.run [register])
        ⟨env 0 lease₁, .createSignMessage (signMessage message).params⟩ :=
    step_createSignMessage daemon (env 0 lease₁) (daemon.run [register]) "2" (signMessage message).params
  have hchange := Coordinator.step_changes (daemon_run_wellFormed daemon [register])
    (c := daemon.coordinator) ⟨env 0 lease₁, .createSignMessage (signMessage message).params⟩ request
  rw [← hrun, hr, hnone] at hchange
  cases hchange with
  | creation h =>
    have hargs := h.command_args
    rw [h.record]
    cases hargs
    rfl

/-- The reply adds more to the message than the request did. -/
theorem replySize_ge {c : Coordinator} {env : Env} {r : RequestRecord} {n : ℕ}
    (h : r.payload = .signMessage ⟨messageOf n, .utf8, none, none⟩) : n + 200 ≤ replySize c env r := by
  have hfixed : textSize "jsonrpc" + textSize "2.0" + textSize "id" + textSize "native-host" +
      textSize "result" + textSize "request" + textSize "wallet_instance_id" + textSize "request_id" +
      textSize "client_request_id" + textSize "kind" + textSize "account_address" +
      textSize "payload_hash" + textSize "message" + textSize "message_format" +
      textSize (messageFormatName .utf8) + textSize "force" = 174 := by decide +kernel
  unfold replySize requestSize
  rw [h]
  simp only [payloadSize, forceSize, memberSize, textSize_messageOf]
  omega

end Refused

open Session Browser in
/-- The call is within the limit however it arrives, its request is routed to a browser wallet and
claimed by the pull, and the extension is told of an error instead. -/
theorem claimed_message_not_delivered :
    (∀ chunks : List (List UInt8), (∀ chunk ∈ chunks, chunk ≠ []) →
      chunks.flatten = createSignMessageText "2" (signMessage longMessage) →
      readRequestBytes [] chunks = .ok (createSignMessageText "2" (signMessage longMessage))) ∧
    ((daemon.run (signing longMessage)).getWalletInstance wallet₂).map WalletInstanceRecord.backendKind =
      some .starmaskExtension ∧
    ∃ p s', daemon.coordinator.dispatch (env 1000 lease₁) (.pullNextRequest wallet₂)
        (daemon.run (signing longMessage)) = (.ok (.pullNextRequest ⟨wallet₂, some p⟩), s') ∧
      p.requestId = request ∧ (s'.getRequest request).map RequestRecord.status = some .dispatched ∧
      ∀ others order messageId stdout,
        ¬ YieldsNext order (localDaemonClient daemon (env 1000 lease₁) others) messageId wallet₂ stdout
          (daemon.run (signing longMessage)) p := by
  refine ⟨fun chunks hne htext => ?_, by decide +kernel, ?_⟩
  · have hlength := length_createSignMessageText 1048380
    have hread := readRequestBytes_eq hne [] (by
      rw [htext, List.length_nil, longMessage, hlength]
      decide)
    rwa [htext, List.nil_append] at hread
  · have hreply : delivers (daemon.coordinator.dispatch (env 1000 lease₁) (.pullNextRequest wallet₂)
        (daemon.run (signing longMessage))) = true := by decide +kernel
    generalize hpull : daemon.coordinator.dispatch (env 1000 lease₁) (.pullNextRequest wallet₂)
      (daemon.run (signing longMessage)) = out at hreply
    unfold delivers at hreply
    split at hreply
    · rename_i w p s'
      obtain ⟨rfl, hid, hstatus⟩ := of_decide_eq_true hreply
      refine ⟨p, s', rfl, hid, hstatus, fun others order messageId stdout hyields => ?_⟩
      obtain ⟨r, hr⟩ : ∃ r, (daemon.run (signing longMessage)).getRequest request = some r :=
        Option.isSome_iff_exists.mp (by decide +kernel)
      have hlarge : 1048380 + 200 ≤ replySize daemon.coordinator (env 1000 lease₁) r :=
        replySize_ge (signing_payload hr)
      rw [← hid] at hr
      have hsmall := ((yieldsNext_iff_sizes others messageId (daemon_run_wellFormed daemon _) hpull
        hr).mp hyields).1
      unfold maxResponseBytes at hsmall
      omega
    · cases hreply

end StarcoinMcp.NativeHost
