import StarcoinMcp.Starmask.Simulation
import StarcoinMcp.Starmask.SqliteRows

/-! The two request repositories: `SqliteStore` over the rows of `requests`, and the
`MemoryStore` of the coordinator's tests over a map. Both simulate the store of records, so
in every run the two hold the same requests and answer alike, up to the order of lists. -/

namespace StarcoinMcp.Starmask

/-! ## SQLite -/

structure SqliteStore where
  rows : List SqlRow
  wallets : Store

namespace SqliteStore

/-- `query_row(…).optional()`. -/
def queryRow (codec : Codec) (x : SqliteStore) (p : SqlRow → Bool) :
    Except RepositoryError (Option RequestRecord) :=
  match x.rows.find? p with
  | none => .ok none
  | some row => ((codec.readRequest row).mapError codec.sqlError).map some

def queryRequests (codec : Codec) (rows : List SqlRow) : Except RepositoryError (List RequestRecord) :=
  (rows.mapM codec.readRequest).mapError codec.sqlError

def insertRequest (codec : Codec) (x : SqliteStore) (request : RequestRecord) :
    Except RepositoryError (RequestRecord × SqliteStore) := do
  let params ← codec.requestParams request
  let rows ← (sqlInsert x.rows params).mapError codec.sqlError
  pure (request, { x with rows := rows })

def updateRequest (codec : Codec) (x : SqliteStore) (request : RequestRecord) :
    Except RepositoryError (RequestRecord × SqliteStore) := do
  let params ← codec.requestParams request
  let rows ← (sqlUpdate x.rows (params.getD 0 .null) (assignedRow params)).mapError codec.sqlError
  pure (request, { x with rows := rows })

/-- The assignments of the claim. -/
def claimedRow (deliveryLease : DeliveryLease) (now : TimestampMs) (row : SqlRow) : SqlRow
  | .status => .text "dispatched"
  | .updatedAt => .integer now
  | .deliveryLeaseId => .text deliveryLease.deliveryLeaseId.value
  | .deliveryLeaseExpiresAt => .integer deliveryLease.deliveryLeaseExpiresAt
  | column => row column

/-- One transaction: an error leaves the rows as they were. -/
def claimNextRequestForWallet (codec : Codec) (scan : Scan SqlRow) (x : SqliteStore)
    (walletInstanceId : WalletInstanceId) (deliveryLease : DeliveryLease) (now : TimestampMs) :
    Except RepositoryError (Option RequestRecord × SqliteStore) :=
  match (scan.orderBy (fun row => (row .createdAt).sortKey) (x.rows.filter fun row =>
      row .walletInstanceId = .text walletInstanceId.value ∧ row .status = .text "created")).head? with
  | none => .ok (none, x)
  | some row => do
    let requestId ← (getText row .requestId).mapError codec.sqlError
    let rows ← (sqlUpdate x.rows (.text requestId) (claimedRow deliveryLease now)).mapError codec.sqlError
    match rows.find? (hasRequestId (.text requestId)) with
    | none => .error (codec.sqlError .queryReturnedNoRows)
    | some row => do
      let request ← (codec.readRequest row).mapError codec.sqlError
      pure (some request, { x with rows := rows })

/-- `status IN ('created', 'dispatched', 'pending_user_approval')`. -/
def isNonTerminal (row : SqlRow) : Bool :=
  row .status = .text "created" ∨ row .status = .text "dispatched" ∨
    row .status = .text "pending_user_approval"

/-- `result_expires_at IS NOT NULL AND result_expires_at <= ?1`. -/
def hasExpiredResult (now : TimestampMs) (row : SqlRow) : Bool :=
  match row .resultExpiresAt with
  | .integer t => t ≤ now
  | _ => false

def listNonTerminalRequests (codec : Codec) (scan : Scan SqlRow) (x : SqliteStore) :
    Except RepositoryError (List RequestRecord) :=
  queryRequests codec
    (scan.orderBy (fun row => (row .createdAt).sortKey) (x.rows.filter isNonTerminal))

def listTerminalRequestsWithExpiredResults (codec : Codec) (scan : Scan SqlRow) (x : SqliteStore)
    (now : TimestampMs) : Except RepositoryError (List RequestRecord) :=
  queryRequests codec (scan.order (x.rows.filter (hasExpiredResult now)))

def repository (codec : Codec) (scan : Scan SqlRow) : Repository SqliteStore where
  getRequest x id := x.queryRow codec (hasRequestId (.text id.value))
  getRequestByClientRequestId x id := x.queryRow codec fun row => row .clientRequestId = .text id.value
  insertRequest := insertRequest codec
  updateRequest := updateRequest codec
  claimNextRequestForWallet := claimNextRequestForWallet codec scan
  listNonTerminalRequests := listNonTerminalRequests codec scan
  listTerminalRequestsWithExpiredResults := listTerminalRequestsWithExpiredResults codec scan
  wallets := wallets
  putWallets x w := { x with wallets := w }

def empty : SqliteStore := ⟨[], Store.empty⟩

end SqliteStore

/-! ## The map of the tests -/

/-- `requests` is the hash map, each record under its own id; a `Scan` is the order of `values()`.
The wallet half is the one of the SQLite store: only the requests are kept in another way. -/
structure MemoryStore where
  requests : Table RequestRecord.requestId
  wallets : Store

namespace MemoryStore

def insertRequest (x : MemoryStore) (request : RequestRecord) :
    Except RepositoryError (RequestRecord × MemoryStore) :=
  .ok (request, { x with requests := x.requests.upsert request })

def claimNextRequestForWallet (scan : Scan RequestRecord) (x : MemoryStore)
    (walletInstanceId : WalletInstanceId) (deliveryLease : DeliveryLease) (now : TimestampMs) :
    Except RepositoryError (Option RequestRecord × MemoryStore) :=
  match minByKey RequestRecord.createdAt ((scan.order x.requests.rows).filter fun request =>
      request.walletInstanceId = walletInstanceId ∧ request.status = .created) with
  | none => .ok (none, x)
  | some request =>
    match x.requests.find request.requestId with
    | none => .error (.storage "request disappeared during claim")
    | some request =>
      let request := { request with
        status := .dispatched
        updatedAt := now
        deliveryLease := some deliveryLease }
      .ok (some request, { x with requests := x.requests.update request })

def repository (scan : Scan RequestRecord) : Repository MemoryStore where
  getRequest x id := .ok (x.requests.find id)
  getRequestByClientRequestId x id :=
    .ok ((scan.order x.requests.rows).find? fun request => request.clientRequestId = id)
  insertRequest := insertRequest
  updateRequest := insertRequest
  claimNextRequestForWallet := claimNextRequestForWallet scan
  listNonTerminalRequests x :=
    .ok ((scan.order x.requests.rows).filter fun request => !request.status.isTerminal)
  listTerminalRequestsWithExpiredResults x now :=
    .ok ((scan.order x.requests.rows).filter fun request => request.status.isTerminal &&
      request.resultExpiresAt.any fun t => t ≤ now)
  wallets := wallets
  putWallets x w := { x with wallets := w }

def empty : MemoryStore := ⟨Table.empty, Store.empty⟩

end MemoryStore

/-! ## The map simulates the store of records -/

/-- The map and the store hold the same requests; the wallet tables are the same. -/
def MemoryStore.Tracks (x : MemoryStore) (s : Store) : Prop :=
  (∀ id, x.requests.find id = s.getRequest id) ∧ s.SameWallets x.wallets

section Memory

variable {x : MemoryStore} {s : Store}

theorem MemoryStore.Tracks.mem_iff (h : x.Tracks s) {r : RequestRecord} :
    r ∈ x.requests.rows ↔ r ∈ s.requests.rows := by
  rw [Table.mem_iff_find, h.1, Store.mem_requests_iff]

theorem MemoryStore.Tracks.perm (h : x.Tracks s) : x.requests.rows.Perm s.requests.rows :=
  (List.perm_ext_iff_of_nodup (List.Nodup.of_map _ x.requests.nodup)
    (List.Nodup.of_map _ s.requests.nodup)).mpr fun _ => h.mem_iff

theorem MemoryStore.Tracks.order_perm (h : x.Tracks s) (scan : Scan RequestRecord) :
    (scan.order x.requests.rows).Perm s.requests.rows := (scan.perm _).trans h.perm

/-- The unique index makes the search for a client request id independent of the order. -/
theorem find_clientRequestId {l : List RequestRecord} (hperm : l.Perm s.requests.rows)
    (id : ClientRequestId) :
    (l.find? fun r => r.clientRequestId = id) = s.getRequestByClientRequestId id := by
  cases hfind : l.find? fun r => r.clientRequestId = id with
  | none =>
    have hnone := List.find?_eq_none.mp hfind
    refine (Store.getRequestByClientRequestId_eq_none.mpr fun r hr he => ?_).symm
    exact hnone r (hperm.mem_iff.mpr hr) (decide_eq_true he)
  | some r =>
    have hid : r.clientRequestId = id := by simpa using List.find?_some hfind
    have hrow := hperm.mem_iff.mp (List.mem_of_find?_eq_some hfind)
    rw [← hid]
    exact (Store.getRequestByClientRequestId_of_mem hrow).symm

theorem MemoryStore.tracks_insert {s' : Store} {r : RequestRecord} (h : x.Tracks s)
    (hget : ∀ id, s'.getRequest id = if id = r.requestId then some r else s.getRequest id)
    (hwallets : s.SameWallets s') :
    ({ x with requests := x.requests.upsert r } : MemoryStore).Tracks s' := by
  refine ⟨fun id => ?_, ?_⟩
  · rw [hget, ← h.1]
    exact Table.find_upsert x.requests r id
  · exact ⟨h.2.1.trans hwallets.1.symm, h.2.2.1.trans hwallets.2.1.symm, h.2.2.2.trans hwallets.2.2.symm⟩

theorem MemoryStore.claim_none {scan : Scan RequestRecord} {w : WalletInstanceId} (h : x.Tracks s)
    (hnone : ∀ r ∈ s.requests.rows, ¬ Waits w r) (lease : DeliveryLease) (now : TimestampMs) :
    MemoryStore.claimNextRequestForWallet scan x w lease now = .ok (none, x) := by
  have hempty : ((scan.order x.requests.rows).filter fun r =>
      r.walletInstanceId = w ∧ r.status = .created) = [] := by
    refine List.filter_eq_nil_iff.mpr fun r hr => ?_
    have hnot := hnone r ((h.order_perm scan).mem_iff.mp hr)
    simpa [Waits] using hnot
  unfold MemoryStore.claimNextRequestForWallet
  rw [hempty]
  rfl

theorem MemoryStore.claim_some {scan : Scan RequestRecord} {w : WalletInstanceId} {r : RequestRecord}
    (h : x.Tracks s) (hr : r ∈ s.requests.rows) (hwaits : Waits w r)
    (hleast : ∀ r' ∈ s.requests.rows, Waits w r' → r' ≠ r → r.createdAt < r'.createdAt)
    (lease : DeliveryLease) (now : TimestampMs) :
    ∃ x', MemoryStore.claimNextRequestForWallet scan x w lease now =
        .ok (some (r.claimed lease now), x') ∧ x'.Tracks (s.writeRequest (r.claimed lease now)) := by
  have hperm := h.order_perm scan
  have hmin : minByKey RequestRecord.createdAt ((scan.order x.requests.rows).filter fun r =>
      r.walletInstanceId = w ∧ r.status = .created) = some r := by
    refine minByKey_of_least ?_ fun r' hr' hne => ?_
    · exact List.mem_filter.mpr ⟨hperm.mem_iff.mpr hr, decide_eq_true hwaits⟩
    · obtain ⟨hmem, hwaits'⟩ := List.mem_filter.mp hr'
      exact hleast r' (hperm.mem_iff.mp hmem) (by simpa [Waits] using hwaits') hne
  have hget := Store.mem_requests_iff.mp hr
  have hfind : x.requests.find r.requestId = some r := (h.1 _).trans hget
  unfold MemoryStore.claimNextRequestForWallet
  rw [hmin]
  dsimp only
  rw [hfind]
  have hwrite : s.Rewritable (r.claimed lease now) := rewritable_of_getRequest hget rfl rfl
  refine ⟨_, rfl, fun id => ?_, ?_⟩
  · rw [Store.getRequest_writeRequest hwrite, ← h.1]
    refine (Table.find_update x.requests (r.claimed lease now) id).trans ?_
    by_cases hid : id = r.requestId
    · subst hid
      rw [hfind]
      rfl
    · exact (if_neg hid).trans (if_neg hid).symm
  · have hwallets := s.sameWallets_writeRequest (r.claimed lease now)
    exact ⟨h.2.1.trans hwallets.1.symm, h.2.2.1.trans hwallets.2.1.symm, h.2.2.2.trans hwallets.2.2.symm⟩

theorem MemoryStore.simulates (scan : Scan RequestRecord) :
    Simulates (MemoryStore.repository scan) MemoryStore.Tracks where
  getRequest h id := congrArg Except.ok (h.1 id)
  getRequestByClientRequestId h id := congrArg Except.ok (find_clientRequestId (h.order_perm scan) id)
  insertRequest h hinsert := by
    obtain ⟨-, hwallets, hget⟩ := insertRequest_ok hinsert
    exact ⟨_, rfl, MemoryStore.tracks_insert h hget hwallets⟩
  updateRequest h hr :=
    ⟨_, rfl, MemoryStore.tracks_insert h (Store.getRequest_writeRequest hr)
      (Store.sameWallets_writeRequest _ _)⟩
  claim_none h hnone lease now := MemoryStore.claim_none h hnone lease now
  claim_some h hr hwaits hleast lease now := MemoryStore.claim_some h hr hwaits hleast lease now
  listNonTerminalRequests h := ⟨_, rfl, (h.order_perm scan).filter _⟩
  listTerminalRequestsWithExpiredResults h hs now := by
    refine ⟨_, rfl, ((h.order_perm scan).filter _).trans (.of_eq (List.filter_congr fun r hr => ?_))⟩
    cases hexpires : r.resultExpiresAt with
    | none => simp
    | some t => rw [hs r hr (by rw [hexpires]; rfl), Bool.true_and]
  wallets h := h.2
  putWallets h hrequests hwallets := by
    refine ⟨fun id => (h.1 id).trans ?_, hwallets⟩
    unfold Store.getRequest
    rw [hrequests]
  congr h hget hwallets := by
    refine ⟨fun id => (h.1 id).trans (hget id).symm, ?_⟩
    exact ⟨h.2.1.trans hwallets.1.symm, h.2.2.1.trans hwallets.2.1.symm, h.2.2.2.trans hwallets.2.2.symm⟩

end Memory

/-! ## The rows simulate the store of records -/

/-- The rows are those of the requests in the store, in some order. -/
def SqliteStore.Tracks (codec : Codec) (x : SqliteStore) (s : Store) : Prop :=
  ∃ t : Table RequestRecord.requestId, x.rows = t.rows.map codec.row ∧
    (⟨t, x.wallets⟩ : MemoryStore).Tracks s

section Sqlite

variable {codec : Codec} {x : SqliteStore} {s : Store} {t : Table RequestRecord.requestId}

theorem queryRow_eq (hcodec : codec.RoundTrips) (hrows : x.rows = t.rows.map codec.row)
    {p : SqlRow → Bool} {q : RequestRecord → Bool} (hpq : ∀ r, p (codec.row r) = q r) :
    x.queryRow codec p = .ok (t.rows.find? q) := by
  have hfind : x.rows.find? p = (t.rows.find? q).map codec.row := by
    rw [hrows, List.find?_map]
    exact congrArg (fun q => (t.rows.find? q).map codec.row) (funext hpq)
  unfold SqliteStore.queryRow
  rw [hfind]
  cases t.rows.find? q with
  | none => rfl
  | some r =>
    rw [Option.map_some]
    dsimp only
    rw [readRequest_row hcodec r]
    rfl

theorem mapM_readRequest (hcodec : codec.RoundTrips) :
    ∀ l : List RequestRecord, (l.map codec.row).mapM codec.readRequest = .ok l
  | [] => rfl
  | r :: l => by
    rw [List.map_cons, List.mapM_cons, readRequest_row hcodec r, ok_bind, mapM_readRequest hcodec l]
    rfl

theorem queryRequests_perm (hcodec : codec.RoundTrips) {rows : List SqlRow} {l : List RequestRecord}
    (h : rows.Perm (l.map codec.row)) :
    ∃ l', SqliteStore.queryRequests codec rows = .ok l' ∧ l'.Perm l := by
  obtain ⟨l', hperm, rfl⟩ := exists_perm_of_perm_map h
  refine ⟨l', ?_, hperm⟩
  unfold SqliteStore.queryRequests
  rw [mapM_readRequest hcodec l']
  rfl

theorem filter_row {p : SqlRow → Bool} {q : RequestRecord → Bool} (hpq : ∀ r, p (codec.row r) = q r)
    (l : List RequestRecord) : (l.map codec.row).filter p = (l.filter q).map codec.row := by
  rw [List.filter_map]
  exact congrArg (fun q => (l.filter q).map codec.row) (funext hpq)

theorem checkConstraints_ok {l : List RequestRecord} {r : RequestRecord}
    (hid : ∀ r' ∈ l, r'.requestId ≠ r.requestId)
    (hclient : ∀ r' ∈ l, r'.clientRequestId ≠ r.clientRequestId) :
    checkConstraints (l.map codec.row) (codec.row r) = .ok () := by
  have hids : ((l.map codec.row).any fun other => other .requestId = codec.row r .requestId) = false := by
    refine List.any_eq_false.mpr fun row hrow => ?_
    obtain ⟨r', hr', rfl⟩ := List.mem_map.mp hrow
    have hne : hasRequestId (.text r.requestId.value) (codec.row r') =
      decide (r'.requestId = r.requestId) :=
      row_hasRequestId r.requestId
    unfold hasRequestId at hne
    exact ne_true_of_eq_false (hne.trans (decide_eq_false (hid r' hr')))
  have hclients : ((l.map codec.row).any fun other =>
      other .clientRequestId = codec.row r .clientRequestId) = false := by
    refine List.any_eq_false.mpr fun row hrow => ?_
    obtain ⟨r', hr', rfl⟩ := List.mem_map.mp hrow
    have hne : ¬ codec.row r' .clientRequestId = codec.row r .clientRequestId :=
      fun he => hclient r' hr' ((row_clientRequestId r.clientRequestId).mp he)
    simpa using hne
  unfold checkConstraints
  rw [row_notNull, hids, hclients]
  rfl

theorem forM_ok {α : Type} {f : α → Except SqlError Unit} :
    ∀ {l : List α}, (∀ a ∈ l, f a = .ok ()) → l.forM f = .ok ()
  | [], _ => rfl
  | a :: l, h => by
    have hrest : l.forM f = .ok () := forM_ok fun b hb => h b (List.mem_cons_of_mem _ hb)
    change (f a >>= fun _ => l.forM f) = .ok ()
    rw [h a (List.mem_cons_self ..), ok_bind, hrest]

/-- An `UPDATE` of one request changes the row of that request only. -/
theorem sqlUpdate_ok {r : RequestRecord} {assign : SqlRow → SqlRow}
    (hassign : ∀ r₀ ∈ t.rows, r₀.requestId = r.requestId → assign (codec.row r₀) = codec.row r)
    (hclient : ∀ r₀ ∈ t.rows, r₀.requestId ≠ r.requestId → r₀.clientRequestId ≠ r.clientRequestId) :
    sqlUpdate (t.rows.map codec.row) (.text r.requestId.value) assign =
      .ok ((t.update r).rows.map codec.row) := by
  have hothers : ((t.rows.map codec.row).filter fun row => !hasRequestId (.text r.requestId.value) row) =
      (t.rows.filter fun r₀ => !decide (r₀.requestId = r.requestId)).map codec.row :=
    filter_row (fun r₀ => by rw [row_hasRequestId]) t.rows
  have hmatch : (t.rows.map codec.row).filter (hasRequestId (.text r.requestId.value)) =
      (t.rows.filter fun r₀ => decide (r₀.requestId = r.requestId)).map codec.row :=
    filter_row (fun r₀ => row_hasRequestId r.requestId) t.rows
  have hchecks : ((t.rows.map codec.row).filter (hasRequestId (.text r.requestId.value))).forM
      (fun row => checkConstraints ((t.rows.map codec.row).filter fun row =>
        !hasRequestId (.text r.requestId.value) row) (assign row)) = .ok () := by
    rw [hothers, hmatch]
    refine forM_ok fun row hrow => ?_
    obtain ⟨r₀, hr₀, rfl⟩ := List.mem_map.mp hrow
    obtain ⟨hmem, hid⟩ := List.mem_filter.mp hr₀
    rw [hassign r₀ hmem (of_decide_eq_true hid)]
    refine checkConstraints_ok (fun r' hr' => ?_) fun r' hr' => ?_
    · simpa using (List.mem_filter.mp hr').2
    · obtain ⟨hmem', hne⟩ := List.mem_filter.mp hr'
      exact hclient r' hmem' (by simpa using hne)
  have hrows : ((t.rows.map codec.row).map fun row =>
      if hasRequestId (.text r.requestId.value) row then assign row else row) =
      (t.update r).rows.map codec.row := by
    unfold Table.update
    rw [List.map_map, List.map_map]
    refine List.map_congr_left fun r₀ hr₀ => ?_
    simp only [Function.comp_apply, row_hasRequestId, decide_eq_true_eq]
    split_ifs with hid
    · exact hassign r₀ hr₀ hid
    · rfl
  unfold sqlUpdate
  dsimp only
  rw [hchecks, ok_bind, hrows]
  rfl

theorem SqliteStore.tracks_update {r : RequestRecord}
    (htracks : (⟨t, x.wallets⟩ : MemoryStore).Tracks s) (hr : s.Rewritable r) :
    SqliteStore.Tracks codec { x with rows := (t.update r).rows.map codec.row } (s.writeRequest r) := by
  refine ⟨t.update r, rfl, fun id => ?_, ?_⟩
  · refine (Table.find_update t r id).trans ?_
    rw [Store.getRequest_writeRequest hr]
    obtain ⟨r₀, hr₀, -⟩ := hr
    by_cases hid : id = r.requestId
    · subst hid
      have hfind : t.find r.requestId = some r₀ := (htracks.1 _).trans hr₀
      rw [if_pos rfl, if_pos rfl, hfind]
      rfl
    · rw [if_neg hid, if_neg hid]
      exact htracks.1 id
  · have hwallets := s.sameWallets_writeRequest r
    exact ⟨htracks.2.1.trans hwallets.1.symm, htracks.2.2.1.trans hwallets.2.1.symm,
      htracks.2.2.2.trans hwallets.2.2.symm⟩

theorem Store.Rewritable.client_unique {r : RequestRecord}
    (htracks : (⟨t, x.wallets⟩ : MemoryStore).Tracks s) (hr : s.Rewritable r) :
    ∀ r₀ ∈ t.rows, r₀.requestId ≠ r.requestId → r₀.clientRequestId ≠ r.clientRequestId :=
  fun r₀ hr₀ => hr.unique r₀ (htracks.mem_iff.mp hr₀)

theorem SqliteStore.update (hcodec : codec.RoundTrips) {r : RequestRecord} (h : x.Tracks codec s)
    (hr : s.Rewritable r) :
    ∃ x', SqliteStore.updateRequest codec x r = .ok (r, x') ∧ x'.Tracks codec (s.writeRequest r) := by
  obtain ⟨t, hrows, htracks⟩ := h
  obtain ⟨params, hparams, hid, -, hassign⟩ := requestParams_spec hcodec r
  have hupdate : sqlUpdate x.rows (params.getD 0 .null) (assignedRow params) =
      .ok ((t.update r).rows.map codec.row) := by
    rw [hid, hrows]
    refine sqlUpdate_ok (fun r₀ _ he => ?_) (hr.client_unique htracks)
    exact hassign (codec.row r₀) (congrArg (fun id : RequestId => SqlValue.text id.value) he)
  refine ⟨_, ?_, SqliteStore.tracks_update htracks hr⟩
  unfold SqliteStore.updateRequest
  rw [hparams, ok_bind, hupdate]
  rfl

theorem SqliteStore.insert (hcodec : codec.RoundTrips) {r : RequestRecord} {s' : Store}
    (h : x.Tracks codec s) (hinsert : s.insertRequest r = .ok (r, s')) :
    ∃ x', SqliteStore.insertRequest codec x r = .ok (r, x') ∧ x'.Tracks codec s' := by
  obtain ⟨t, hrows, htracks⟩ := h
  obtain ⟨params, hparams, -, hrow, -⟩ := requestParams_spec hcodec r
  obtain ⟨-, hwallets, hget⟩ := insertRequest_ok hinsert
  have hfresh : t.find r.requestId = none := (htracks.1 _).trans (insertRequest_fresh hinsert)
  have hclient : ∀ r' ∈ t.rows, r'.clientRequestId ≠ r.clientRequestId := by
    intro r' hr'
    unfold Store.insertRequest at hinsert
    split_ifs at hinsert with hc
    exact hc r' (htracks.mem_iff.mp hr')
  obtain ⟨t', ht'⟩ := Option.isSome_iff_exists.mp (Table.insert_isSome.mpr hfresh)
  have hchecks : checkConstraints (t.rows.map codec.row) (insertedRow params) = .ok () := by
    rw [hrow]
    exact checkConstraints_ok (Table.find_eq_none.mp hfresh) hclient
  have hsql : sqlInsert x.rows params = .ok (t'.rows.map codec.row) := by
    unfold sqlInsert
    rw [hrows, hchecks, ok_bind, hrow, (Table.insert_eq_some ht').2, List.map_append]
    rfl
  refine ⟨{ x with rows := t'.rows.map codec.row }, ?_, t', rfl, fun id => ?_, ?_⟩
  · unfold SqliteStore.insertRequest
    rw [hparams, ok_bind, hsql]
    rfl
  · rw [hget, ← htracks.1]
    exact Table.find_insert ht' id
  · exact ⟨htracks.2.1.trans hwallets.1.symm, htracks.2.2.1.trans hwallets.2.1.symm,
      htracks.2.2.2.trans hwallets.2.2.symm⟩

/-- The assignments of the claim make the row of the claimed record. -/
theorem claimedRow_row (lease : DeliveryLease) (now : TimestampMs) (r : RequestRecord) :
    SqliteStore.claimedRow lease now (codec.row r) = codec.row (r.claimed lease now) := by
  funext column
  cases column <;> rfl

theorem SqliteStore.claim_none {scan : Scan SqlRow} {w : WalletInstanceId} (h : x.Tracks codec s)
    (hnone : ∀ r ∈ s.requests.rows, ¬ Waits w r) (lease : DeliveryLease) (now : TimestampMs) :
    SqliteStore.claimNextRequestForWallet codec scan x w lease now = .ok (none, x) := by
  obtain ⟨t, hrows, htracks⟩ := h
  have hempty : (x.rows.filter fun row =>
      row .walletInstanceId = .text w.value ∧ row .status = .text "created") = [] := by
    rw [hrows]
    refine List.filter_eq_nil_iff.mpr fun row hrow => ?_
    obtain ⟨r, hr, rfl⟩ := List.mem_map.mp hrow
    have hnot := hnone r (htracks.mem_iff.mp hr)
    simp only [decide_eq_true_eq, row_waits]
    exact hnot
  have hhead : (scan.orderBy (fun row => (row .createdAt).sortKey) (x.rows.filter fun row =>
      row .walletInstanceId = .text w.value ∧ row .status = .text "created")).head? = none := by
    rw [hempty]
    exact List.head?_eq_none_iff.mpr (List.perm_nil.mp (scan.orderBy_perm _ []))
  unfold SqliteStore.claimNextRequestForWallet
  rw [hhead]

theorem SqliteStore.claim_head (scan : Scan SqlRow) {w : WalletInstanceId} {r : RequestRecord}
    (hrows : x.rows = t.rows.map codec.row) (hr : r ∈ t.rows) (hwaits : Waits w r)
    (hleast : ∀ r' ∈ t.rows, Waits w r' → r' ≠ r → r.createdAt < r'.createdAt) :
    (scan.orderBy (fun row => (row .createdAt).sortKey) (x.rows.filter fun row =>
      row .walletInstanceId = .text w.value ∧ row .status = .text "created")).head? =
      some (codec.row r) := by
  have hfilter : (x.rows.filter fun row =>
      row .walletInstanceId = .text w.value ∧ row .status = .text "created") =
      (t.rows.filter fun r => r.walletInstanceId = w ∧ r.status = .created).map codec.row := by
    rw [hrows]
    exact filter_row (fun r => decide_eq_decide.mpr (row_waits w)) t.rows
  rw [hfilter]
  generalize hL : scan.orderBy (fun row => (row .createdAt).sortKey)
    ((t.rows.filter fun r => r.walletInstanceId = w ∧ r.status = .created).map codec.row) = L
  have hmem : ∀ row, row ∈ L ↔ ∃ r' ∈ t.rows, Waits w r' ∧ codec.row r' = row := by
    intro row
    rw [← hL, Scan.mem_orderBy]
    simp [Waits, and_assoc]
  have hsorted : L.Pairwise fun a b => (a .createdAt).sortKey ≤ (b .createdAt).sortKey := by
    rw [← hL]
    exact List.pairwise_insertionSort _ _
  have hrow : codec.row r ∈ L := (hmem _).mpr ⟨r, hr, hwaits, rfl⟩
  cases L with
  | nil => cases hrow
  | cons row L =>
    obtain ⟨r₀, hr₀, hwaits₀, rfl⟩ := (hmem row).mp (List.mem_cons_self ..)
    -- the first row is no younger than `r`, and `r` is the oldest
    have hle : r₀.createdAt ≤ r.createdAt := by
      rcases List.mem_cons.mp hrow with he | hlater
      · exact le_of_eq (congrArg (fun row : SqlRow => (row .createdAt).sortKey) he).symm
      · exact (List.pairwise_cons.mp hsorted).1 _ hlater
    have heq : r₀ = r := by
      by_contra hne
      exact absurd hle (not_le.mpr (hleast r₀ hr₀ hwaits₀ hne))
    rw [heq]
    rfl

theorem SqliteStore.claim_some (hcodec : codec.RoundTrips) {scan : Scan SqlRow} {w : WalletInstanceId}
    {r : RequestRecord} (h : x.Tracks codec s) (hr : r ∈ s.requests.rows) (hwaits : Waits w r)
    (hleast : ∀ r' ∈ s.requests.rows, Waits w r' → r' ≠ r → r.createdAt < r'.createdAt)
    (lease : DeliveryLease) (now : TimestampMs) :
    ∃ x', SqliteStore.claimNextRequestForWallet codec scan x w lease now =
        .ok (some (r.claimed lease now), x') ∧
      x'.Tracks codec (s.writeRequest (r.claimed lease now)) := by
  obtain ⟨t, hrows, htracks⟩ := h
  have hmem : r ∈ t.rows := htracks.mem_iff.mpr hr
  have hwrite : s.Rewritable (r.claimed lease now) :=
    rewritable_of_getRequest (Store.mem_requests_iff.mp hr) rfl rfl
  have hhead := SqliteStore.claim_head scan hrows hmem hwaits
    fun r' hr' => hleast r' (htracks.mem_iff.mp hr')
  have hupdate : sqlUpdate x.rows (.text r.requestId.value) (SqliteStore.claimedRow lease now) =
      .ok ((t.update (r.claimed lease now)).rows.map codec.row) := by
    rw [hrows]
    refine sqlUpdate_ok (fun r₀ hr₀ he => ?_) (hwrite.client_unique htracks)
    rw [t.eq_of_key_eq hr₀ hmem he]
    exact claimedRow_row lease now r
  have hfind : (((t.update (r.claimed lease now)).rows.map codec.row).find?
      (hasRequestId (.text r.requestId.value))) = some (codec.row (r.claimed lease now)) := by
    rw [List.find?_map]
    have hstored : (t.update (r.claimed lease now)).find r.requestId = some (r.claimed lease now) := by
      refine (Table.find_update t (r.claimed lease now) r.requestId).trans ?_
      rw [Table.find_of_mem hmem]
      exact if_pos rfl
    have hsame : (hasRequestId (.text r.requestId.value) ∘ codec.row) =
        fun r' => decide (r'.requestId = r.requestId) := funext fun r' => row_hasRequestId r.requestId
    rw [hsame]
    exact congrArg (Option.map codec.row) hstored
  refine ⟨_, ?_, SqliteStore.tracks_update htracks hwrite⟩
  unfold SqliteStore.claimNextRequestForWallet
  rw [hhead]
  dsimp only
  rw [getText_of rfl, mapError_ok, ok_bind, hupdate, mapError_ok, ok_bind, hfind]
  dsimp only
  rw [readRequest_row hcodec]
  rfl

theorem row_isNonTerminal (r : RequestRecord) :
    SqliteStore.isNonTerminal (codec.row r) = !r.status.isTerminal := by
  have hstatus : codec.row r .status = .text r.status.encode := rfl
  unfold SqliteStore.isNonTerminal
  rw [hstatus]
  cases r.status <;> decide

theorem row_hasExpiredResult (now : TimestampMs) (r : RequestRecord) :
    SqliteStore.hasExpiredResult now (codec.row r) = r.resultExpiresAt.any fun t => t ≤ now := by
  have hexpires : codec.row r .resultExpiresAt = .ofInteger r.resultExpiresAt := rfl
  unfold SqliteStore.hasExpiredResult
  rw [hexpires]
  cases r.resultExpiresAt <;> rfl

theorem SqliteStore.simulates (hcodec : codec.RoundTrips) (scan : Scan SqlRow) :
    Simulates (SqliteStore.repository codec scan) (SqliteStore.Tracks codec) where
  getRequest h id := by
    obtain ⟨t, hrows, htracks⟩ := h
    refine (queryRow_eq hcodec hrows fun r => row_hasRequestId id).trans ?_
    exact congrArg Except.ok (htracks.1 id)
  getRequestByClientRequestId h id := by
    obtain ⟨t, hrows, htracks⟩ := h
    refine (queryRow_eq (q := fun r => decide (r.clientRequestId = id)) hcodec hrows fun r =>
      decide_eq_decide.mpr (row_clientRequestId id)).trans ?_
    exact congrArg Except.ok (find_clientRequestId htracks.perm id)
  insertRequest h hinsert := SqliteStore.insert hcodec h hinsert
  updateRequest h hr := SqliteStore.update hcodec h hr
  claim_none h hnone lease now := SqliteStore.claim_none h hnone lease now
  claim_some h hr hwaits hleast lease now := SqliteStore.claim_some hcodec h hr hwaits hleast lease now
  listNonTerminalRequests h := by
    obtain ⟨t, hrows, htracks⟩ := h
    refine (queryRequests_perm hcodec ?_).imp fun l hl => ⟨hl.1, hl.2.trans (htracks.perm.filter _)⟩
    rw [hrows, filter_row row_isNonTerminal]
    exact scan.orderBy_perm _ _
  listTerminalRequestsWithExpiredResults h _ now := by
    obtain ⟨t, hrows, htracks⟩ := h
    refine (queryRequests_perm hcodec ?_).imp fun l hl => ⟨hl.1, hl.2.trans (htracks.perm.filter _)⟩
    rw [hrows, filter_row (row_hasExpiredResult now)]
    exact scan.perm _
  wallets h := by
    obtain ⟨t, -, htracks⟩ := h
    exact htracks.2
  putWallets h hrequests hwallets := by
    obtain ⟨t, hrows, htracks⟩ := h
    exact ⟨t, hrows, (MemoryStore.simulates Scan.rowid).putWallets htracks hrequests hwallets⟩
  congr h hget hwallets := by
    obtain ⟨t, hrows, htracks⟩ := h
    exact ⟨t, hrows, (MemoryStore.simulates Scan.rowid).congr htracks hget hwallets⟩

end Sqlite

/-! ## Runs of the two stores side by side -/

/-- A command, with the orders in which the two stores happen to visit their requests. -/
structure StoreStep extends Step where
  rowScan : Scan SqlRow
  mapScan : Scan RequestRecord

section Runs

variable (codec : Codec) (c : Coordinator)

def sqliteStep (x : SqliteStore) (a : StoreStep) : SqliteStore :=
  ((SqliteStore.repository codec a.rowScan).dispatch c a.env a.command x).2

def sqliteReply (x : SqliteStore) (a : StoreStep) : CoreResult CoordinatorResponse :=
  ((SqliteStore.repository codec a.rowScan).dispatch c a.env a.command x).1

def sqliteRun (steps : List StoreStep) : SqliteStore :=
  Trace.run (sqliteStep codec c) SqliteStore.empty steps

def memoryStep (x : MemoryStore) (a : StoreStep) : MemoryStore :=
  ((MemoryStore.repository a.mapScan).dispatch c a.env a.command x).2

def memoryReply (x : MemoryStore) (a : StoreStep) : CoreResult CoordinatorResponse :=
  ((MemoryStore.repository a.mapScan).dispatch c a.env a.command x).1

def memoryRun (steps : List StoreStep) : MemoryStore := Trace.run (memoryStep c) MemoryStore.empty steps

end Runs

/-- No two requests in the map were created at the same time. -/
def MemoryStore.DistinctCreated (x : MemoryStore) : Prop :=
  ∀ r ∈ x.requests.rows, ∀ r' ∈ x.requests.rows, r.createdAt = r'.createdAt → r = r'

instance (x : MemoryStore) : Decidable x.DistinctCreated :=
  inferInstanceAs
    (Decidable (∀ r ∈ x.requests.rows, ∀ r' ∈ x.requests.rows, r.createdAt = r'.createdAt → r = r'))

/-- Every new request gets a new id, and no two requests are created at the same time. -/
structure ValidRun (c : Coordinator) (steps : List StoreStep) : Prop where
  freshIds : Trace.Along (memoryStep c) (fun x a => a.command.FreshId a.env x.requests.find)
    MemoryStore.empty steps
  distinctCreated : ∀ before after, steps = before ++ after → (memoryRun c before).DistinctCreated

/-- The rows, read back, are the records of the map. -/
def SameRecords (codec : Codec) (x : SqliteStore) (m : MemoryStore) : Prop :=
  ∃ l, x.rows.mapM codec.readRequest = .ok l ∧ l.Perm m.requests.rows

/-- The row of the request becomes that of `r`; any other row stays. -/
def Codec.overwrite (codec : Codec) (r : RequestRecord) (row : SqlRow) : SqlRow :=
  if hasRequestId (.text r.requestId.value) row then codec.row r else row

/-- Every call of the repository is answered alike by the two stores, up to the order of lists,
and leaves the same records in both. -/
structure AnswersAlike (codec : Codec) (x : SqliteStore) (m : MemoryStore) (rowScan : Scan SqlRow)
    (mapScan : Scan RequestRecord) : Prop where
  getRequest : ∀ id, (SqliteStore.repository codec rowScan).getRequest x id =
    (MemoryStore.repository mapScan).getRequest m id
  getRequestByClientRequestId : ∀ id,
    (SqliteStore.repository codec rowScan).getRequestByClientRequestId x id =
      (MemoryStore.repository mapScan).getRequestByClientRequestId m id
  insertRequest : ∀ r, m.requests.find r.requestId = none →
    (∀ r' ∈ m.requests.rows, r'.clientRequestId ≠ r.clientRequestId) →
    ∃ x' m', (SqliteStore.repository codec rowScan).insertRequest x r = .ok (r, x') ∧
      (MemoryStore.repository mapScan).insertRequest m r = .ok (r, m') ∧ SameRecords codec x' m' ∧
      (SqliteStore.repository codec rowScan).getRequest x' r.requestId = .ok (some r)
  /-- Only the row of the request changes, and it is read back as written. -/
  updateRequest : ∀ r r₀, m.requests.find r.requestId = some r₀ →
    r₀.clientRequestId = r.clientRequestId →
    ∃ x' m', (SqliteStore.repository codec rowScan).updateRequest x r = .ok (r, x') ∧
      (MemoryStore.repository mapScan).updateRequest m r = .ok (r, m') ∧ SameRecords codec x' m' ∧
      (SqliteStore.repository codec rowScan).getRequest x' r.requestId = .ok (some r) ∧
      x'.rows = x.rows.map (codec.overwrite r)
  claimNextRequestForWallet : ∀ w lease now, ∃ answer x' m',
    (SqliteStore.repository codec rowScan).claimNextRequestForWallet x w lease now = .ok (answer, x') ∧
    (MemoryStore.repository mapScan).claimNextRequestForWallet m w lease now = .ok (answer, m') ∧
    SameRecords codec x' m'
  listNonTerminalRequests : ∃ l l',
    (SqliteStore.repository codec rowScan).listNonTerminalRequests x = .ok l ∧
    (MemoryStore.repository mapScan).listNonTerminalRequests m = .ok l' ∧ l.Perm l'
  /-- The query without a status filter finds the terminal requests only. -/
  listTerminalRequestsWithExpiredResults : ∀ now, ∃ l l',
    (SqliteStore.repository codec rowScan).listTerminalRequestsWithExpiredResults x now = .ok l ∧
    (MemoryStore.repository mapScan).listTerminalRequestsWithExpiredResults m now = .ok l' ∧
    l.Perm l' ∧ ∀ r, r ∈ l ↔ r ∈ m.requests.rows ∧ r.status.isTerminal = true ∧
      ∃ t, r.resultExpiresAt = some t ∧ t ≤ now

section SideBySide

variable {codec : Codec} {c : Coordinator} {x : SqliteStore} {m : MemoryStore} {s : Store}

theorem Store.WellFormed.settled (h : s.WellFormed) : s.Settled := by
  intro r hr hexpires
  have hwell := h r.requestId r (Store.mem_requests_iff.mp hr)
  obtain ⟨result, hresult⟩ := Option.isSome_iff_exists.mp (hwell.resultExpiresAt hexpires)
  rw [(hwell.result result hresult).1]
  rfl

theorem MemoryStore.Tracks.distinctCreated (h : m.Tracks s) (hm : m.DistinctCreated) :
    s.DistinctCreated :=
  fun r hr r' hr' => hm r (h.mem_iff.mpr hr) r' (h.mem_iff.mpr hr')

theorem sameRecords_of_tracks (hcodec : codec.RoundTrips) (hx : x.Tracks codec s) (hm : m.Tracks s) :
    SameRecords codec x m := by
  obtain ⟨t, hrows, ht⟩ := hx
  refine ⟨t.rows, ?_, ht.perm.trans hm.perm.symm⟩
  rw [hrows]
  exact mapM_readRequest hcodec t.rows

/-- One command on both stores. -/
theorem step_tracks (hcodec : codec.RoundTrips) (hx : x.Tracks codec s) (hm : m.Tracks s)
    (hs : s.WellFormed) (hdistinct : m.DistinctCreated) {a : StoreStep}
    (hfresh : a.command.FreshId a.env m.requests.find) :
    sqliteReply codec c x a = memoryReply c m a ∧
      (sqliteStep codec c x a).Tracks codec (c.step s a.toStep) ∧
      (memoryStep c m a).Tracks (c.step s a.toStep) := by
  have hfresh' : a.command.FreshId a.env s.getRequest := by
    have hget : m.requests.find = s.getRequest := funext hm.1
    rwa [hget] at hfresh
  have hsqlite := (SqliteStore.simulates hcodec a.rowScan).dispatch (c := c) hx hs.settled
    (hm.distinctCreated hdistinct) hfresh'
  have hmemory := (MemoryStore.simulates a.mapScan).dispatch (c := c) hm hs.settled
    (hm.distinctCreated hdistinct) hfresh'
  exact ⟨hsqlite.1.trans hmemory.1.symm, hsqlite.2, hmemory.2⟩

theorem run_tracks (hcodec : codec.RoundTrips) :
    ∀ {steps : List StoreStep} {x : SqliteStore} {m : MemoryStore} {s : Store}, x.Tracks codec s →
      m.Tracks s → s.WellFormed →
      Trace.Along (memoryStep c) (fun x a => a.command.FreshId a.env x.requests.find) m steps →
      (∀ before after, steps = before ++ after → (Trace.run (memoryStep c) m before).DistinctCreated) →
      ∃ s', (Trace.run (sqliteStep codec c) x steps).Tracks codec s' ∧
        (Trace.run (memoryStep c) m steps).Tracks s' ∧ s'.WellFormed
  | [], x, m, s, hx, hm, hs, _, _ => ⟨s, hx, hm, hs⟩
  | a :: steps, x, m, s, hx, hm, hs, hfresh, hdistinct => by
    have hfirst : m.DistinctCreated := hdistinct [] (a :: steps) rfl
    obtain ⟨-, hx', hm'⟩ := step_tracks (c := c) hcodec hx hm hs hfirst hfresh.1
    rw [Trace.run_cons, Trace.run_cons]
    refine run_tracks hcodec hx' hm'
      (Coordinator.step_wellFormed a.toStep hs) hfresh.2 fun before after he => ?_
    exact hdistinct (a :: before) after (by rw [he]; rfl)

theorem update_rows (hcodec : codec.RoundTrips) {t : Table RequestRecord.requestId}
    (hrows : x.rows = t.rows.map codec.row) (ht : (⟨t, x.wallets⟩ : MemoryStore).Tracks s)
    {r : RequestRecord} (hr : s.Rewritable r) :
    SqliteStore.updateRequest codec x r = .ok (r, { x with rows := x.rows.map (codec.overwrite r) }) := by
  have hmap : x.rows.map (codec.overwrite r) = (t.update r).rows.map codec.row := by
    unfold Table.update Codec.overwrite
    rw [hrows, List.map_map, List.map_map]
    refine List.map_congr_left fun r₀ _ => ?_
    simp only [Function.comp_apply, row_hasRequestId, decide_eq_true_eq]
    split_ifs <;> rfl
  rw [hmap]
  obtain ⟨params, hparams, hid, -, hassign⟩ := requestParams_spec hcodec r
  have hupdate : sqlUpdate x.rows (params.getD 0 .null) (assignedRow params) =
      .ok ((t.update r).rows.map codec.row) := by
    rw [hid, hrows]
    refine sqlUpdate_ok (fun r₀ _ he => ?_) (hr.client_unique ht)
    exact hassign (codec.row r₀) (congrArg (fun id : RequestId => SqlValue.text id.value) he)
  unfold SqliteStore.updateRequest
  rw [hparams, ok_bind, hupdate]
  rfl

theorem answersAlike_of_tracks (hcodec : codec.RoundTrips) (hx : x.Tracks codec s) (hm : m.Tracks s)
    (hs : s.WellFormed) (hdistinct : m.DistinctCreated) (rowScan : Scan SqlRow)
    (mapScan : Scan RequestRecord) : AnswersAlike codec x m rowScan mapScan := by
  have hsql := SqliteStore.simulates hcodec rowScan
  have hmap := MemoryStore.simulates mapScan
  refine ⟨fun id => ?_, fun id => ?_, fun r hid hclient => ?_, fun r r₀ hr₀ hclient => ?_,
    fun w lease now => ?_, ?_, fun now => ?_⟩
  · rw [hsql.getRequest hx, hmap.getRequest hm]
  · rw [hsql.getRequestByClientRequestId hx, hmap.getRequestByClientRequestId hm]
  · obtain ⟨s', hs'⟩ := insertRequest_of_fresh (fun r' hr' => hclient r' (hm.mem_iff.mpr hr'))
      ((hm.1 _).symm.trans hid)
    obtain ⟨x', hinsert, hx'⟩ := hsql.insertRequest hx hs'
    obtain ⟨m', hinsert', hm'⟩ := hmap.insertRequest hm hs'
    refine ⟨x', m', hinsert, hinsert', sameRecords_of_tracks hcodec hx' hm', ?_⟩
    rw [hsql.getRequest hx', (insertRequest_ok hs').2.2, if_pos rfl]
  · have hr : s.Rewritable r := ⟨r₀, (hm.1 _).symm.trans hr₀, hclient⟩
    obtain ⟨x', hupdate, hx'⟩ := hsql.updateRequest hx hr
    obtain ⟨m', hupdate', hm'⟩ := hmap.updateRequest hm hr
    refine ⟨x', m', hupdate, hupdate', sameRecords_of_tracks hcodec hx' hm', ?_, ?_⟩
    · rw [hsql.getRequest hx', Store.getRequest_writeRequest hr, if_pos rfl]
    · obtain ⟨t, hrows, ht⟩ := hx
      have hwritten := (update_rows hcodec hrows ht hr).symm.trans hupdate
      exact congrArg SqliteStore.rows (Prod.mk.inj (Except.ok.inj hwritten)).2.symm
  · by_cases hwaiting : ∃ r ∈ s.requests.rows, Waits w r
    · -- the oldest waiting request
      have holdest : ∃ r ∈ s.requests.rows, Waits w r ∧
          ∀ r' ∈ s.requests.rows, Waits w r' → r' ≠ r → r.createdAt < r'.createdAt := by
        obtain ⟨r₁, hr₁, hw₁⟩ := hwaiting
        have hmem : ∀ r, r ∈ s.requests.rows.filter (fun r => r.walletInstanceId = w ∧
          r.status = .created) ↔
            r ∈ s.requests.rows ∧ Waits w r := by
          intro r
          simp [Waits]
        cases hmin : minByKey RequestRecord.createdAt
            (s.requests.rows.filter fun r => r.walletInstanceId = w ∧ r.status = .created) with
        | none =>
          have hin := (hmem r₁).mpr ⟨hr₁, hw₁⟩
          rw [minByKey_eq_none.mp hmin] at hin
          cases hin
        | some r =>
          obtain ⟨hin, hle⟩ := minByKey_spec hmin
          obtain ⟨hr, hw⟩ := (hmem r).mp hin
          refine ⟨r, hr, hw, fun r' hr' hw' hne => ?_⟩
          exact lt_of_le_of_distinct (hm.distinctCreated hdistinct) hr hr'
            (hle r' ((hmem r').mpr ⟨hr', hw'⟩)) hne
      obtain ⟨r, hr, hw, hleast⟩ := holdest
      obtain ⟨x', hclaim, hx'⟩ := hsql.claim_some hx hr hw hleast lease now
      obtain ⟨m', hclaim', hm'⟩ := hmap.claim_some hm hr hw hleast lease now
      exact ⟨_, x', m', hclaim, hclaim', sameRecords_of_tracks hcodec hx' hm'⟩
    · have hnone : ∀ r ∈ s.requests.rows, ¬ Waits w r := fun r hr hw => hwaiting ⟨r, hr, hw⟩
      exact ⟨none, x, m, hsql.claim_none hx hnone lease now, hmap.claim_none hm hnone lease now,
        sameRecords_of_tracks hcodec hx hm⟩
  · obtain ⟨l, hl, hperm⟩ := hsql.listNonTerminalRequests hx
    obtain ⟨l', hl', hperm'⟩ := hmap.listNonTerminalRequests hm
    exact ⟨l, l', hl, hl', hperm.trans hperm'.symm⟩
  · obtain ⟨l, hl, hperm⟩ := hsql.listTerminalRequestsWithExpiredResults hx hs.settled now
    obtain ⟨l', hl', hperm'⟩ := hmap.listTerminalRequestsWithExpiredResults hm hs.settled now
    refine ⟨l, l', hl, hl', hperm.trans hperm'.symm, fun r => ?_⟩
    rw [hperm.mem_iff, List.mem_filter, hm.mem_iff]
    constructor
    · rintro ⟨hr, hdue⟩
      simp only [Option.any_eq_true, decide_eq_true_eq] at hdue
      obtain ⟨t, ht, hle⟩ := hdue
      exact ⟨hr, hs.settled r hr (by rw [ht]; rfl), t, ht, hle⟩
    · rintro ⟨hr, -, t, ht, hle⟩
      refine ⟨hr, ?_⟩
      rw [ht]
      simpa using hle

/-- In every run the rows of SQLite and the map of the tests hold the same requests, every call
of the repository is answered alike, and so is the next command. -/
theorem sqlite_refines_memory (hcodec : codec.RoundTrips) (c : Coordinator) {steps : List StoreStep}
    (hsteps : ValidRun c steps) {before after : List StoreStep} (hsplit : steps = before ++ after) :
    SameRecords codec (sqliteRun codec c before) (memoryRun c before) ∧
    (∀ rowScan mapScan, AnswersAlike codec (sqliteRun codec c before)
      (memoryRun c before) rowScan mapScan) ∧
    ∀ a rest, after = a :: rest →
      sqliteReply codec c (sqliteRun codec c before) a = memoryReply c (memoryRun c before) a := by
  subst hsplit
  obtain ⟨hfresh, hrest⟩ := Trace.along_append.mp hsteps.freshIds
  have hempty : (MemoryStore.empty).Tracks Store.empty := ⟨fun _ => rfl, .refl _⟩
  have hwell : Store.empty.WellFormed := fun id r hr => by cases hr
  have hempty' : SqliteStore.empty.Tracks codec Store.empty := ⟨Table.empty, rfl, hempty⟩
  obtain ⟨s, hx, hm, hs⟩ := run_tracks (c := c) hcodec hempty' hempty hwell hfresh
    fun earlier later he => hsteps.distinctCreated earlier (later ++ after) (by rw [he, List.append_assoc])
  have hdistinct := hsteps.distinctCreated before after rfl
  refine ⟨sameRecords_of_tracks hcodec hx hm,
    fun rowScan mapScan => answersAlike_of_tracks hcodec hx hm hs hdistinct rowScan mapScan, ?_⟩
  rintro a rest rfl
  exact (step_tracks hcodec hx hm hs hdistinct hrest.1).1

end SideBySide

open Session in
/-- The session of `approving`, each store visited in the order of its rows. -/
def Session.stored : List StoreStep := approving.map fun a => ⟨a, Scan.rowid, Scan.rowid⟩

open Session in
theorem validRun_stored : ValidRun coordinator Session.stored := by
  constructor
  · refine ⟨?_, ?_, ?_, ?_, ?_, trivial⟩
    · intro h
      exact absurd rfl h
    · intro _ id hid
      cases hid
      decide +kernel
    · intro h
      exact absurd rfl h
    · intro h
      exact absurd rfl h
    · intro h
      exact absurd rfl h
  · intro before after h
    have hprefix : before ∈ Session.stored.inits := (List.mem_inits _ _).mpr ⟨after, h.symm⟩
    have hall : ∀ earlier ∈ Session.stored.inits, (memoryRun coordinator earlier).DistinctCreated := by
      decide +kernel
    exact hall before hprefix

open Session in
theorem sqlite_refines_memory_stored :
    SameRecords Codec.serdeJson (sqliteRun Codec.serdeJson coordinator Session.stored)
      (memoryRun coordinator Session.stored) ∧
    ((memoryRun coordinator Session.stored).requests.find request).map RequestRecord.status =
      some .approved :=
  ⟨(sqlite_refines_memory Codec.serdeJson_roundTrips coordinator validRun_stored
    (List.append_nil _).symm).1,
    by decide +kernel⟩

end StarcoinMcp.Starmask
