import StarcoinMcp.Starmask.StoreLemmas

/-! The `requests` table of `schema.sql` row by row: the 24 columns, the two statements of
`write_request` with their numbered parameters, `read_request`, and the queries of the
repository. What `serde_json` makes of payloads and results is a parameter. -/

namespace StarcoinMcp.Starmask

/-! ## Values and rows -/

/-- A column of `requests`, in the order of `schema.sql`. -/
inductive Column
  | requestId | clientRequestId | kind | status | walletInstanceId | accountAddress | payloadHash
  | payloadJson | resultJson | createdAt | expiresAt | updatedAt | approvedAt | rejectedAt
  | cancelledAt | failedAt | resultExpiresAt | lastErrorCode | lastErrorMessage | rejectReasonCode
  | deliveryLeaseId | deliveryLeaseExpiresAt | presentationId | presentationExpiresAt
deriving DecidableEq, Repr

/-- `NOT NULL`; the primary key of a text table may be null in SQLite, but is never written so. -/
def Column.notNull : Column → Bool
  | .clientRequestId | .kind | .status | .walletInstanceId | .accountAddress | .payloadHash
  | .payloadJson | .createdAt | .expiresAt | .updatedAt => true
  | _ => false

inductive SqlValue
  | null
  | integer (value : Int)
  | text (value : String)
deriving DecidableEq, Repr

abbrev SqlRow := Column → SqlValue

inductive SqlError
  | invalidColumnType (column : Column)
  | conversion (text : String)
  | queryReturnedNoRows
  | constraint (text : String)
deriving DecidableEq, Repr

namespace SqlValue

def ofText : Option String → SqlValue
  | some value => .text value
  | none => .null

def ofInteger : Option Int → SqlValue
  | some value => .integer value
  | none => .null

/-- The key `ORDER BY` compares in an integer column. -/
def sortKey : SqlValue → Int
  | .integer value => value
  | _ => i64Min

end SqlValue

def getText (row : SqlRow) (column : Column) : Except SqlError String :=
  match row column with
  | .text value => .ok value
  | _ => .error (.invalidColumnType column)

def getOptionalText (row : SqlRow) (column : Column) : Except SqlError (Option String) :=
  match row column with
  | .text value => .ok (some value)
  | .null => .ok none
  | _ => .error (.invalidColumnType column)

def getInteger (row : SqlRow) (column : Column) : Except SqlError Int :=
  match row column with
  | .integer value => .ok value
  | _ => .error (.invalidColumnType column)

def getOptionalInteger (row : SqlRow) (column : Column) : Except SqlError (Option Int) :=
  match row column with
  | .integer value => .ok (some value)
  | .null => .ok none
  | _ => .error (.invalidColumnType column)

/-! ## Enumerations, identifiers and JSON -/

def RequestKind.encode : RequestKind → String
  | .signTransaction => "sign_transaction"
  | .signMessage => "sign_message"
  | .createAccount => "create_account"
  | .exportAccount => "export_account"
  | .importAccount => "import_account"

def RequestKind.all : List RequestKind :=
  [.signTransaction, .signMessage, .createAccount, .exportAccount, .importAccount]

def RequestStatus.encode : RequestStatus → String
  | .created => "created"
  | .dispatched => "dispatched"
  | .pendingUserApproval => "pending_user_approval"
  | .approved => "approved"
  | .rejected => "rejected"
  | .expired => "expired"
  | .cancelled => "cancelled"
  | .failed => "failed"

def RequestStatus.all : List RequestStatus :=
  [.created, .dispatched, .pendingUserApproval, .approved, .rejected, .expired, .cancelled, .failed]

def RejectReasonCode.encode : RejectReasonCode → String
  | .requestRejected => "request_rejected"
  | .walletLocked => "wallet_locked"
  | .requestExpired => "request_expired"
  | .unsupportedOperation => "unsupported_operation"
  | .invalidTransactionPayload => "invalid_transaction_payload"
  | .invalidMessagePayload => "invalid_message_payload"
  | .backendUnavailable => "backend_unavailable"
  | .backendPolicyBlocked => "backend_policy_blocked"
  | .internalError => "internal_error"

def RejectReasonCode.all : List RejectReasonCode :=
  [.requestRejected, .walletLocked, .requestExpired, .unsupportedOperation,
    .invalidTransactionPayload, .invalidMessagePayload, .backendUnavailable, .backendPolicyBlocked,
    .internalError]

def SharedErrorCode.all : List SharedErrorCode :=
  [.walletUnavailable, .walletLocked, .walletSelectionRequired, .walletInstanceNotFound,
    .requestNotOwned, .leaseMismatch, .extensionNotConnected, .backendNotAllowed,
    .invalidBackendRegistration, .backendUnavailable, .backendPolicyBlocked, .invalidAccount,
    .requestNotFound, .requestExpired, .requestRejected, .requestCancelled,
    .invalidTransactionPayload, .invalidMessagePayload, .unsupportedChain, .invalidRequest,
    .internalBridgeError, .resultUnavailable, .idempotencyKeyConflict, .protocolVersionMismatch,
    .nodeUnavailable, .rpcUnavailable, .invalidChainContext, .simulationFailed, .submissionFailed,
    .permissionDenied, .approvalRequired, .rateLimited, .unsupportedOperation]

def decodeStringEnum {α : Type} (encode : α → String) (all : List α) (value : String) :
    Except SqlError α :=
  match all.find? fun a => encode a = value with
  | some a => .ok a
  | none => .error (.conversion ("unknown variant " ++ value))

/-- `T::try_from`, which refuses blank identifiers. -/
def readId {kind : IdKind} (row : SqlRow) (column : Column) : Except SqlError (StringId kind) := do
  let value ← getText row column
  if h : Text.isBlank value = false then pure ⟨value, h⟩
  else throw (.conversion "cannot be empty")

def newId {kind : IdKind} (value : String) : Except SqlError (StringId kind) :=
  if h : Text.isBlank value = false then .ok ⟨value, h⟩ else .error (.conversion "cannot be empty")

/-- `serde_json` on payloads and results, and the texts of the errors. -/
structure Codec where
  encodePayload : RequestPayload → Except String String
  decodePayload : String → Except String RequestPayload
  encodeResult : RequestResult → Except String String
  decodeResult : String → Except String RequestResult
  errorText : SqlError → String

/-- What is written can be read back. -/
structure Codec.RoundTrips (codec : Codec) : Prop where
  payload : ∀ p, ∃ text, codec.encodePayload p = .ok text ∧ codec.decodePayload text = .ok p
  result : ∀ r, ∃ text, codec.encodeResult r = .ok text ∧ codec.decodeResult text = .ok r

def jsonError (text : String) : RepositoryError := .storage text

def Codec.sqlError (codec : Codec) (error : SqlError) : RepositoryError := .storage (codec.errorText error)

/-! ## Writing -/

def encodeJson {α : Type} (toString : α → Except String String) (value : α) :
    Except RepositoryError String :=
  (toString value).mapError jsonError

def encodeOptionalJson {α : Type} (toString : α → Except String String) :
    Option α → Except RepositoryError (Option String)
  | none => .ok none
  | some value => (encodeJson toString value).map some

/-- The parameters `?1` to `?24` of both statements. -/
def Codec.requestParams (codec : Codec) (request : RequestRecord) :
    Except RepositoryError (List SqlValue) := do
  let payloadJson ← encodeJson codec.encodePayload request.payload
  let resultJson ← encodeOptionalJson codec.encodeResult request.result
  pure [.text request.requestId.value, .text request.clientRequestId.value,
    .text request.kind.encode, .text request.status.encode, .text request.walletInstanceId.value,
    .text request.accountAddress, .text request.payloadHash.value, .text payloadJson,
    .ofText resultJson, .integer request.createdAt, .integer request.expiresAt,
    .integer request.updatedAt, .ofInteger request.approvedAt, .ofInteger request.rejectedAt,
    .ofInteger request.cancelledAt, .ofInteger request.failedAt, .ofInteger request.resultExpiresAt,
    .ofText (request.lastErrorCode.map SharedErrorCode.encode), .ofText request.lastErrorMessage,
    .ofText (request.rejectReasonCode.map RejectReasonCode.encode),
    .ofText (request.deliveryLease.map fun lease => lease.deliveryLeaseId.value),
    .ofInteger (request.deliveryLease.map DeliveryLease.deliveryLeaseExpiresAt),
    .ofText (request.presentation.map fun presentation => presentation.presentationId.value),
    .ofInteger (request.presentation.map PresentationLease.presentationExpiresAt)]

/-- The columns of `INSERT INTO requests (…) VALUES (?1, …, ?24)`. -/
def insertColumns : List Column :=
  [.requestId, .clientRequestId, .kind, .status, .walletInstanceId, .accountAddress, .payloadHash,
    .payloadJson, .resultJson, .createdAt, .expiresAt, .updatedAt, .approvedAt, .rejectedAt,
    .cancelledAt, .failedAt, .resultExpiresAt, .lastErrorCode, .lastErrorMessage, .rejectReasonCode,
    .deliveryLeaseId, .deliveryLeaseExpiresAt, .presentationId, .presentationExpiresAt]

/-- The assignments `column = ?n` of `UPDATE requests SET … WHERE request_id = ?1`. -/
def updateAssignments : List (Column × Nat) :=
  [(.clientRequestId, 2), (.kind, 3), (.status, 4), (.walletInstanceId, 5), (.accountAddress, 6),
    (.payloadHash, 7), (.payloadJson, 8), (.resultJson, 9), (.createdAt, 10), (.expiresAt, 11),
    (.updatedAt, 12), (.approvedAt, 13), (.rejectedAt, 14), (.cancelledAt, 15), (.failedAt, 16),
    (.resultExpiresAt, 17), (.lastErrorCode, 18), (.lastErrorMessage, 19), (.rejectReasonCode, 20),
    (.deliveryLeaseId, 21), (.deliveryLeaseExpiresAt, 22), (.presentationId, 23),
    (.presentationExpiresAt, 24)]

def insertedRow (params : List SqlValue) : SqlRow := fun column =>
  ((insertColumns.zip params).lookup column).getD .null

def assignedRow (params : List SqlValue) (row : SqlRow) : SqlRow := fun column =>
  match updateAssignments.lookup column with
  | some n => params.getD (n - 1) .null
  | none => row column

/-- The checks of the schema on a row that is to stand next to `others`. -/
def checkConstraints (others : List SqlRow) (row : SqlRow) : Except SqlError Unit :=
  if (insertColumns.any fun column => column.notNull && row column = .null) then
    .error (.constraint "NOT NULL constraint failed")
  else if (others.any fun other => other .requestId = row .requestId) then
    .error (.constraint "UNIQUE constraint failed: requests.request_id")
  else if (others.any fun other => other .clientRequestId = row .clientRequestId) then
    .error (.constraint "UNIQUE constraint failed: requests.client_request_id")
  else .ok ()

def hasRequestId (requestId : SqlValue) (row : SqlRow) : Bool := row .requestId = requestId

/-- `INSERT` of one row. -/
def sqlInsert (rows : List SqlRow) (params : List SqlValue) : Except SqlError (List SqlRow) := do
  checkConstraints rows (insertedRow params)
  pure (rows ++ [insertedRow params])

/-- `UPDATE … WHERE request_id = …` with the new columns given by `assign`. -/
def sqlUpdate (rows : List SqlRow) (requestId : SqlValue) (assign : SqlRow → SqlRow) :
    Except SqlError (List SqlRow) := do
  let others := rows.filter fun row => !hasRequestId requestId row
  (rows.filter (hasRequestId requestId)).forM fun row => checkConstraints others (assign row)
  pure (rows.map fun row => if hasRequestId requestId row then assign row else row)

/-! ## Reading -/

/-- `.map(decode).transpose()`. -/
def decodeOptional {α : Type} (decode : String → Except SqlError α) :
    Option String → Except SqlError (Option α)
  | none => .ok none
  | some value => (decode value).map some

/-- A nullable pair of columns: an identifier and its expiry. -/
def decodeLease {kind : IdKind} {α : Type} (lease : StringId kind → TimestampMs → α) :
    Option String → Option Int → Except SqlError (Option α)
  | some id, some expiresAt => (newId id).map fun id => some (lease id expiresAt)
  | _, _ => .ok none

def Codec.readRequest (codec : Codec) (row : SqlRow) : Except SqlError RequestRecord := do
  let deliveryLeaseId ← getOptionalText row .deliveryLeaseId
  let deliveryLeaseExpiresAt ← getOptionalInteger row .deliveryLeaseExpiresAt
  let presentationId ← getOptionalText row .presentationId
  let presentationExpiresAt ← getOptionalInteger row .presentationExpiresAt
  let requestId ← readId row .requestId
  let clientRequestId ← readId row .clientRequestId
  let kind ← decodeStringEnum RequestKind.encode RequestKind.all (← getText row .kind)
  let status ← decodeStringEnum RequestStatus.encode RequestStatus.all (← getText row .status)
  let walletInstanceId ← readId row .walletInstanceId
  let accountAddress ← getText row .accountAddress
  let payloadHash ← readId row .payloadHash
  let payload ← (codec.decodePayload (← getText row .payloadJson)).mapError .conversion
  let result ← decodeOptional (fun text => (codec.decodeResult text).mapError .conversion)
    (← getOptionalText row .resultJson)
  let createdAt ← getInteger row .createdAt
  let expiresAt ← getInteger row .expiresAt
  let updatedAt ← getInteger row .updatedAt
  let approvedAt ← getOptionalInteger row .approvedAt
  let rejectedAt ← getOptionalInteger row .rejectedAt
  let cancelledAt ← getOptionalInteger row .cancelledAt
  let failedAt ← getOptionalInteger row .failedAt
  let resultExpiresAt ← getOptionalInteger row .resultExpiresAt
  let lastErrorCode ← decodeOptional (decodeStringEnum SharedErrorCode.encode SharedErrorCode.all)
    (← getOptionalText row .lastErrorCode)
  let lastErrorMessage ← getOptionalText row .lastErrorMessage
  let rejectReasonCode ← decodeOptional (decodeStringEnum RejectReasonCode.encode RejectReasonCode.all)
    (← getOptionalText row .rejectReasonCode)
  let deliveryLease ← decodeLease DeliveryLease.mk deliveryLeaseId deliveryLeaseExpiresAt
  let presentation ← decodeLease PresentationLease.mk presentationId presentationExpiresAt
  pure { requestId, clientRequestId, kind, status, walletInstanceId, accountAddress, payloadHash,
         payload, result, createdAt, expiresAt, updatedAt, approvedAt, rejectedAt, cancelledAt,
         failedAt, resultExpiresAt, lastErrorCode, lastErrorMessage, rejectReasonCode,
         deliveryLease, presentation }

/-! ## What a row says -/

/-- The row that stands for a record, once its payload and its result are encoded. -/
def recordRow (payloadJson : String) (resultJson : Option String) (r : RequestRecord) : SqlRow
  | .requestId => .text r.requestId.value
  | .clientRequestId => .text r.clientRequestId.value
  | .kind => .text r.kind.encode
  | .status => .text r.status.encode
  | .walletInstanceId => .text r.walletInstanceId.value
  | .accountAddress => .text r.accountAddress
  | .payloadHash => .text r.payloadHash.value
  | .payloadJson => .text payloadJson
  | .resultJson => .ofText resultJson
  | .createdAt => .integer r.createdAt
  | .expiresAt => .integer r.expiresAt
  | .updatedAt => .integer r.updatedAt
  | .approvedAt => .ofInteger r.approvedAt
  | .rejectedAt => .ofInteger r.rejectedAt
  | .cancelledAt => .ofInteger r.cancelledAt
  | .failedAt => .ofInteger r.failedAt
  | .resultExpiresAt => .ofInteger r.resultExpiresAt
  | .lastErrorCode => .ofText (r.lastErrorCode.map SharedErrorCode.encode)
  | .lastErrorMessage => .ofText r.lastErrorMessage
  | .rejectReasonCode => .ofText (r.rejectReasonCode.map RejectReasonCode.encode)
  | .deliveryLeaseId => .ofText (r.deliveryLease.map fun lease => lease.deliveryLeaseId.value)
  | .deliveryLeaseExpiresAt => .ofInteger (r.deliveryLease.map DeliveryLease.deliveryLeaseExpiresAt)
  | .presentationId => .ofText (r.presentation.map fun presentation => presentation.presentationId.value)
  | .presentationExpiresAt =>
    .ofInteger (r.presentation.map PresentationLease.presentationExpiresAt)

def Codec.payloadText (codec : Codec) (payload : RequestPayload) : String :=
  match codec.encodePayload payload with
  | .ok text => text
  | .error _ => ""

def Codec.resultText (codec : Codec) (result : RequestResult) : String :=
  match codec.encodeResult result with
  | .ok text => text
  | .error _ => ""

/-- The row that stands for the record. -/
def Codec.row (codec : Codec) (r : RequestRecord) : SqlRow :=
  recordRow (codec.payloadText r.payload) (r.result.map codec.resultText) r

section Rows

variable {codec : Codec} {row : SqlRow} {r : RequestRecord}

theorem decodeStringEnum_encode {α : Type} {encode : α → String} {all : List α} {a : α}
    (hmem : a ∈ all) (hinj : ∀ b ∈ all, encode b = encode a → b = a) :
    decodeStringEnum encode all (encode a) = .ok a := by
  have hfound : (all.find? fun b => encode b = encode a).isSome = true :=
    List.find?_isSome.mpr ⟨a, hmem, by simp⟩
  obtain ⟨b, hb⟩ := Option.isSome_iff_exists.mp hfound
  have hencode : encode b = encode a := by simpa using List.find?_some hb
  unfold decodeStringEnum
  rw [hb, hinj b (List.mem_of_find?_eq_some hb) hencode]

theorem decode_kind (kind : RequestKind) :
    decodeStringEnum RequestKind.encode RequestKind.all kind.encode = .ok kind := by
  cases kind <;> exact decodeStringEnum_encode (by decide) (by decide)

theorem decode_status (status : RequestStatus) :
    decodeStringEnum RequestStatus.encode RequestStatus.all status.encode = .ok status := by
  cases status <;> exact decodeStringEnum_encode (by decide) (by decide)

theorem decode_rejectReasonCode (code : RejectReasonCode) :
    decodeStringEnum RejectReasonCode.encode RejectReasonCode.all code.encode = .ok code := by
  cases code <;> exact decodeStringEnum_encode (by decide) (by decide)

theorem decode_errorCode (code : SharedErrorCode) :
    decodeStringEnum SharedErrorCode.encode SharedErrorCode.all code.encode = .ok code := by
  cases code <;> exact decodeStringEnum_encode (by decide) (by decide)

theorem getText_of {c : Column} {value : String} (h : row c = .text value) : getText row c = .ok value := by
  unfold getText
  rw [h]

theorem getInteger_of {c : Column} {value : Int} (h : row c = .integer value) :
    getInteger row c = .ok value := by
  unfold getInteger
  rw [h]

theorem getOptionalText_of {c : Column} {value : Option String} (h : row c = .ofText value) :
    getOptionalText row c = .ok value := by
  unfold getOptionalText
  rw [h]
  cases value <;> rfl

theorem getOptionalInteger_of {c : Column} {value : Option Int} (h : row c = .ofInteger value) :
    getOptionalInteger row c = .ok value := by
  unfold getOptionalInteger
  rw [h]
  cases value <;> rfl

theorem newId_value {kind : IdKind} (id : StringId kind) : newId id.value = .ok id := by
  unfold newId
  rw [dif_pos id.nonblank]

theorem readId_of {kind : IdKind} {c : Column} {id : StringId kind} (h : row c = .text id.value) :
    readId row c = .ok id := by
  unfold readId
  rw [getText_of h]
  exact dif_pos id.nonblank

theorem decodeOptional_map {α : Type} {decode : String → Except SqlError α} {encode : α → String}
    (h : ∀ a, decode (encode a) = .ok a) (value : Option α) :
    decodeOptional decode (value.map encode) = .ok value := by
  cases value with
  | none => rfl
  | some a =>
    change (decode (encode a)).map some = _
    rw [h a]
    rfl

theorem Codec.RoundTrips.payloadText (h : codec.RoundTrips) (p : RequestPayload) :
    codec.encodePayload p = .ok (codec.payloadText p) ∧
      codec.decodePayload (codec.payloadText p) = .ok p := by
  obtain ⟨text, hencode, hdecode⟩ := h.payload p
  have htext : codec.payloadText p = text := by
    unfold Codec.payloadText
    rw [hencode]
  rw [htext]
  exact ⟨hencode, hdecode⟩

theorem Codec.RoundTrips.resultText (h : codec.RoundTrips) (x : RequestResult) :
    codec.encodeResult x = .ok (codec.resultText x) ∧
      codec.decodeResult (codec.resultText x) = .ok x := by
  obtain ⟨text, hencode, hdecode⟩ := h.result x
  have htext : codec.resultText x = text := by
    unfold Codec.resultText
    rw [hencode]
  rw [htext]
  exact ⟨hencode, hdecode⟩

theorem decodeLease_map {kind : IdKind} {α : Type} {lease : StringId kind → TimestampMs → α}
    {id : α → StringId kind} {expiresAt : α → TimestampMs} (h : ∀ a, lease (id a) (expiresAt a) = a)
    (value : Option α) :
    decodeLease lease (value.map fun a => (id a).value) (value.map expiresAt) = .ok value := by
  cases value with
  | none => rfl
  | some a =>
    change (newId (id a).value).map (fun i => some (lease i (expiresAt a))) = _
    rw [newId_value]
    exact congrArg (fun x => Except.ok (some x)) (h a)

/-- `read_request` of the row that stands for a record. -/
theorem readRequest_row (h : codec.RoundTrips) (r : RequestRecord) :
    codec.readRequest (codec.row r) = .ok r := by
  have hresult : decodeOptional (fun text => (codec.decodeResult text).mapError SqlError.conversion)
      (r.result.map codec.resultText) = .ok r.result :=
    decodeOptional_map (fun x => by rw [(h.resultText x).2]; rfl) r.result
  unfold Codec.readRequest Codec.row
  rw [getOptionalText_of rfl, ok_bind, getOptionalInteger_of rfl, ok_bind, getOptionalText_of rfl, ok_bind,
    getOptionalInteger_of rfl, ok_bind, readId_of rfl, ok_bind, readId_of rfl, ok_bind, getText_of rfl,
    ok_bind, decode_kind, ok_bind, getText_of rfl, ok_bind, decode_status, ok_bind, readId_of rfl, ok_bind,
    getText_of rfl, ok_bind, readId_of rfl, ok_bind, getText_of rfl, ok_bind, (h.payloadText r.payload).2]
  rw [getOptionalText_of rfl, getInteger_of rfl, getInteger_of rfl, getInteger_of rfl,
    getOptionalInteger_of rfl, getOptionalInteger_of rfl, getOptionalInteger_of rfl,
    getOptionalInteger_of rfl, getOptionalInteger_of rfl, getOptionalText_of rfl, getOptionalText_of rfl,
    getOptionalText_of rfl]
  simp only [mapError_ok, ok_bind, hresult, decodeOptional_map decode_errorCode,
    decodeOptional_map decode_rejectReasonCode]
  rw [decodeLease_map fun _ => rfl, ok_bind, decodeLease_map fun _ => rfl]
  rfl

/-- Both statements of `write_request` put every parameter into the column it belongs to. -/
theorem requestParams_spec (h : codec.RoundTrips) (r : RequestRecord) :
    ∃ params, codec.requestParams r = .ok params ∧ params.getD 0 .null = .text r.requestId.value ∧
      insertedRow params = codec.row r ∧
      ∀ row : SqlRow, row .requestId = .text r.requestId.value → assignedRow params row = codec.row r := by
  have hpayload : encodeJson codec.encodePayload r.payload = .ok (codec.payloadText r.payload) := by
    unfold encodeJson
    rw [(h.payloadText r.payload).1]
    rfl
  have hresult : encodeOptionalJson codec.encodeResult r.result = .ok (r.result.map codec.resultText) := by
    cases r.result with
    | none => rfl
    | some x =>
      change ((codec.encodeResult x).mapError jsonError).map some = _
      rw [(h.resultText x).1]
      rfl
  unfold Codec.requestParams
  rw [hpayload, ok_bind, hresult, ok_bind]
  refine ⟨_, rfl, rfl, ?_, fun row hrow => ?_⟩
  · funext column
    cases column <;> rfl
  · funext column
    cases column
    case requestId => exact hrow
    all_goals rfl

theorem stringId_value_inj {kind : IdKind} {a b : StringId kind} : a.value = b.value ↔ a = b := by
  constructor
  · intro h
    cases a
    cases b
    cases h
    rfl
  · exact congrArg StringId.value

theorem row_hasRequestId (id : RequestId) :
    hasRequestId (.text id.value) (codec.row r) = decide (r.requestId = id) := by
  unfold hasRequestId
  refine decide_eq_decide.mpr ?_
  exact (SqlValue.text.injEq _ _).to_iff.trans stringId_value_inj

theorem row_clientRequestId (id : ClientRequestId) :
    codec.row r .clientRequestId = .text id.value ↔ r.clientRequestId = id :=
  (SqlValue.text.injEq _ _).to_iff.trans stringId_value_inj

theorem row_waits (w : WalletInstanceId) :
    (codec.row r .walletInstanceId = .text w.value ∧ codec.row r .status = .text "created") ↔
      r.walletInstanceId = w ∧ r.status = .created := by
  refine and_congr ((SqlValue.text.injEq _ _).to_iff.trans stringId_value_inj) ?_
  refine (SqlValue.text.injEq _ _).to_iff.trans ?_
  cases r.status <;> decide

theorem row_notNull : (insertColumns.any fun column =>
    column.notNull && decide (codec.row r column = .null)) = false := by
  refine List.any_eq_false.mpr fun column _ => ?_
  cases column <;> simp [Column.notNull, Codec.row, recordRow]

end Rows

/-! ## The texts of `serde_json` -/

open JsonText

def accountFields (address publicKey : String) (isDefault isLocked : Bool) : Fields :=
  .cons "address" (.str address) (.cons "public_key" (.str publicKey) (.cons "curve" (.str "ed25519")
    (.cons "is_default" (.bool isDefault) (.cons "is_locked" (.bool isLocked) .nil))))

/-- `#[serde(tag = "kind", rename_all = "snake_case")]`. -/
def resultJson : RequestResult → Json
  | .signedTransaction hex => .obj (.cons "kind" (.str "signed_transaction")
      (.cons "signed_txn_bcs_hex" (.str hex) .nil))
  | .signedMessage signature => .obj (.cons "kind" (.str "signed_message")
      (.cons "signature" (.str signature) .nil))
  | .createdAccount address publicKey .ed25519 isDefault isLocked =>
      .obj (.cons "kind" (.str "created_account") (accountFields address publicKey isDefault isLocked))
  | .exportedAccount address outputFile => .obj (.cons "kind" (.str "exported_account")
      (.cons "address" (.str address) (.cons "output_file" (.str outputFile) .nil)))
  | .importedAccount address publicKey .ed25519 isDefault isLocked =>
      .obj (.cons "kind" (.str "imported_account") (accountFields address publicKey isDefault isLocked))

theorem resultJson_injective : Function.Injective resultJson := by
  intro a b h
  rcases a with _ | _ | ⟨_, _, ⟨⟩, _, _⟩ | _ | ⟨_, _, ⟨⟩, _, _⟩ <;>
    rcases b with _ | _ | ⟨_, _, ⟨⟩, _, _⟩ | _ | ⟨_, _, ⟨⟩, _, _⟩ <;>
    simp_all [resultJson, accountFields]

open Classical in
/-- The value whose text this is. -/
noncomputable def decodeText {α : Type} (encode : α → Json) (text : String) : Except String α :=
  if h : ∃ a, String.ofList (compact (encode a)) = text then .ok h.choose
  else .error "invalid value"

theorem decodeText_encode {α : Type} {encode : α → Json} (hencode : Function.Injective encode) (a : α) :
    decodeText encode (String.ofList (compact (encode a))) = .ok a := by
  have h : ∃ b, String.ofList (compact (encode b)) = String.ofList (compact (encode a)) := ⟨a, rfl⟩
  have hchoose : h.choose = a := by
    have hchars := congrArg String.toList h.choose_spec
    rw [String.toList_ofList, String.toList_ofList] at hchars
    exact hencode (compact_injective hchars)
  unfold decodeText
  rw [dif_pos h, hchoose]

/-- The derived encodings, each with its inverse. -/
noncomputable def Codec.serdeJson : Codec where
  encodePayload payload := .ok (String.ofList (compact (payloadJson payload)))
  decodePayload := decodeText payloadJson
  encodeResult result := .ok (String.ofList (compact (resultJson result)))
  decodeResult := decodeText resultJson
  errorText _ := "sqlite error"

theorem Codec.serdeJson_roundTrips : Codec.serdeJson.RoundTrips where
  payload payload := ⟨_, rfl, decodeText_encode payloadJson_injective payload⟩
  result result := ⟨_, rfl, decodeText_encode resultJson_injective result⟩

end StarcoinMcp.Starmask
