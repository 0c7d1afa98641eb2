import StarcoinMcp.Lib.Table
import StarcoinMcp.Starmask.Types

/-! The SQLite store of the daemon at the level of records: four tables with the
primary keys, the unique index and the foreign keys of `schema.sql`. Each call of
the repository runs in its own transaction, so it either writes all of its rows or
none. `ORDER BY` fixes the order of a query only up to ties, and a query without one
not at all: the rest is the free choice of a `Scan`. -/

namespace StarcoinMcp.Starmask

/-- The order in which SQLite happens to visit the rows of a query. -/
structure Scan (α : Type) where
  order : List α → List α
  perm : ∀ rows, (order rows).Perm rows

namespace Scan

variable {α : Type}

/-- Rows in insertion order. -/
def rowid : Scan α := ⟨id, fun _ => List.Perm.refl _⟩

def orderBy (scan : Scan α) (time : α → Int) (rows : List α) : List α :=
  (scan.order rows).insertionSort (fun a b => time a ≤ time b)

theorem orderBy_perm (scan : Scan α) (time : α → Int) (rows : List α) :
    (scan.orderBy time rows).Perm rows :=
  (List.perm_insertionSort _ _).trans (scan.perm rows)

theorem mem_orderBy {scan : Scan α} {time : α → Int} {rows : List α} {a : α} :
    a ∈ scan.orderBy time rows ↔ a ∈ rows := (scan.orderBy_perm time rows).mem_iff

theorem mem_order {scan : Scan α} {rows : List α} {a : α} : a ∈ scan.order rows ↔ a ∈ rows :=
  (scan.perm rows).mem_iff

end Scan

structure WalletAccountLabel where
  walletInstanceId : WalletInstanceId
  address : String
  label : String
  accountOrder : Int
  updatedAt : Int
deriving DecidableEq, Repr

def WalletAccountRecord.key (a : WalletAccountRecord) : WalletInstanceId × String :=
  (a.walletInstanceId, a.address)

def WalletAccountLabel.key (l : WalletAccountLabel) : WalletInstanceId × String :=
  (l.walletInstanceId, l.address)

structure Store where
  requests : Table RequestRecord.requestId
  /-- The unique index `idx_requests_client_request_id`. -/
  clientIds : (requests.rows.map RequestRecord.clientRequestId).Nodup
  walletInstances : Table WalletInstanceRecord.walletInstanceId
  walletAccounts : Table WalletAccountRecord.key
  walletAccountLabels : Table WalletAccountLabel.key

namespace Store

def empty : Store := ⟨Table.empty, List.nodup_nil, Table.empty, Table.empty, Table.empty⟩

/-! ## Requests -/

def getRequest (s : Store) (requestId : RequestId) : Option RequestRecord :=
  s.requests.find requestId

def getRequestByClientRequestId (s : Store) (clientRequestId : ClientRequestId) :
    Option RequestRecord :=
  s.requests.rows.find? (fun r => r.clientRequestId = clientRequestId)

def insertRequest (s : Store) (request : RequestRecord) : Except RepositoryError (RequestRecord × Store) :=
  if hc : ∀ r ∈ s.requests.rows, r.clientRequestId ≠ request.clientRequestId then
    match hi : s.requests.insert request with
    | none => .error (.storage "UNIQUE constraint failed: requests.request_id")
    | some requests =>
      .ok (request, { s with
        requests := requests
        clientIds := by
          rw [(Table.insert_eq_some hi).2, List.map_append, List.map_singleton]
          refine List.nodup_append.mpr ⟨s.clientIds, List.nodup_singleton _, ?_⟩
          intro k hk k' hk'
          obtain ⟨r, hr, rfl⟩ := List.mem_map.mp hk
          rw [List.mem_singleton.mp hk']
          exact hc r hr })
  else .error (.storage "UNIQUE constraint failed: requests.client_request_id")

/-- `UPDATE requests … WHERE request_id`: every column of the row is rewritten, so the unique
index is checked against the other rows. -/
def updateRequest (s : Store) (request : RequestRecord) : Except RepositoryError (RequestRecord × Store) :=
  if hc : ∀ r ∈ s.requests.rows, r.requestId ≠ request.requestId →
      r.clientRequestId ≠ request.clientRequestId then
    .ok (request, { s with
      requests := s.requests.update request
      clientIds := s.requests.update_nodup_map request s.clientIds hc })
  else if s.getRequest request.requestId = none then .ok (request, s)
  else .error (.storage "UNIQUE constraint failed: requests.client_request_id")

/-- The oldest request of the wallet that waits for delivery. -/
def nextCreatedRequest (scan : Scan RequestRecord) (s : Store) (walletInstanceId : WalletInstanceId) :
    Option RequestRecord :=
  (scan.orderBy RequestRecord.createdAt (s.requests.rows.filter fun r =>
    r.walletInstanceId = walletInstanceId ∧ r.status = .created)).head?

def claimNextRequestForWallet (scan : Scan RequestRecord) (s : Store)
    (walletInstanceId : WalletInstanceId) (deliveryLease : DeliveryLease) (now : TimestampMs) :
    Except RepositoryError (Option RequestRecord × Store) :=
  match s.nextCreatedRequest scan walletInstanceId with
  | none => .ok (none, s)
  | some request => do
    let (request, s) ← s.updateRequest { request with
      status := .dispatched
      updatedAt := now
      deliveryLease := some deliveryLease }
    pure (some request, s)

def listNonTerminalRequests (scan : Scan RequestRecord) (s : Store) : List RequestRecord :=
  scan.orderBy RequestRecord.createdAt (s.requests.rows.filter fun r =>
    r.status = .created ∨ r.status = .dispatched ∨ r.status = .pendingUserApproval)

/-- The SQL behind this name looks at `result_expires_at` only, not at the status. -/
def listTerminalRequestsWithExpiredResults (scan : Scan RequestRecord) (s : Store)
    (now : TimestampMs) : List RequestRecord :=
  scan.order (s.requests.rows.filter fun r => r.resultExpiresAt.any (fun t => t ≤ now))

/-! ## Wallets -/

def getWalletInstance (s : Store) (walletInstanceId : WalletInstanceId) : Option WalletInstanceRecord :=
  s.walletInstances.find walletInstanceId

def upsertWalletInstance (s : Store) (walletInstance : WalletInstanceRecord) : Store :=
  { s with walletInstances := s.walletInstances.upsert walletInstance }

def listWalletInstances (scan : Scan WalletInstanceRecord) (s : Store) (connectedOnly : Bool) :
    List WalletInstanceRecord :=
  scan.orderBy (fun w => -w.lastSeenAt)
    (s.walletInstances.rows.filter fun w => !connectedOnly || w.connected)

def isLocalAccountWallet (s : Store) (walletInstanceId : WalletInstanceId) :
    Except RepositoryError Bool :=
  match s.getWalletInstance walletInstanceId with
  | none => .error (.storage ("wallet instance " ++ walletInstanceId.value ++ " was not found"))
  | some wallet => .ok (wallet.backendKind = .localAccountDir)

def labelsOf (s : Store) (walletInstanceId : WalletInstanceId) : List WalletAccountLabel :=
  s.walletAccountLabels.rows.filter fun l => l.walletInstanceId = walletInstanceId

def nextAccountOrder (s : Store) (walletInstanceId : WalletInstanceId) : Int :=
  ((s.labelsOf walletInstanceId).map WalletAccountLabel.accountOrder).max?.getD 0 + 1

def existingAccountOrder (s : Store) (walletInstanceId : WalletInstanceId) (address : String) :
    Option Int :=
  (s.walletAccountLabels.find (walletInstanceId, address)).map WalletAccountLabel.accountOrder

def upsertWalletAccountLabel (s : Store) (label : WalletAccountLabel) : Store :=
  { s with walletAccountLabels := s.walletAccountLabels.upsert label }

def normalizeAccountLabel (label : String) : Except RepositoryError String :=
  if (Text.trim label).isEmpty then .error (.storage "account label cannot be empty")
  else .ok (Text.trim label)

def discoveredAccountLabel (label : Option String) (nextOrder : Int) : Except RepositoryError String :=
  match (label.map Text.trim).filter (fun value => !value.isEmpty) with
  | some value => normalizeAccountLabel value
  | none => .ok ("account-" ++ toString nextOrder)

/-- The loop of `ensure_local_account_labels`; `known` is read once, before it. -/
def labelAccounts (walletInstanceId : WalletInstanceId) (known : List String) (updatedAt : Int) :
    List WalletAccountRecord → Int → Store → Except RepositoryError Store
  | [], _, s => .ok s
  | account :: accounts, nextOrder, s =>
    if account.address ∈ known then labelAccounts walletInstanceId known updatedAt accounts nextOrder s
    else do
      let label ← discoveredAccountLabel account.label nextOrder
      labelAccounts walletInstanceId known updatedAt accounts (nextOrder + 1)
        (s.upsertWalletAccountLabel ⟨walletInstanceId, account.address, label, nextOrder, updatedAt⟩)

def ensureLocalAccountLabels (s : Store) (walletInstanceId : WalletInstanceId)
    (accounts : List WalletAccountRecord) (updatedAt : Int) : Except RepositoryError Store :=
  labelAccounts walletInstanceId ((s.labelsOf walletInstanceId).map WalletAccountLabel.address)
    updatedAt accounts (s.nextAccountOrder walletInstanceId) s

def insertWalletAccounts : List WalletAccountRecord → Store → Except RepositoryError Store
  | [], s => .ok s
  | account :: accounts, s =>
    match s.getWalletInstance account.walletInstanceId, s.walletAccounts.insert account with
    | none, _ => .error (.storage "FOREIGN KEY constraint failed")
    | some _, none =>
      .error (.storage
        "UNIQUE constraint failed: wallet_accounts.wallet_instance_id, wallet_accounts.address")
    | some _, some walletAccounts => insertWalletAccounts accounts
        { s with walletAccounts := walletAccounts }

/-- One transaction: the labels, the deletion and the insertions commit together. -/
def replaceWalletAccounts (s : Store) (walletInstanceId : WalletInstanceId)
    (accounts : List WalletAccountRecord) (updatedAt : Int) : Except RepositoryError Store := do
  let isLocal ← s.isLocalAccountWallet walletInstanceId
  let labelled ← if isLocal then s.ensureLocalAccountLabels walletInstanceId accounts updatedAt else pure s
  insertWalletAccounts accounts { labelled with
    walletAccounts := labelled.walletAccounts.filter fun a => a.walletInstanceId ≠ walletInstanceId }

/-- A row of `wallet_accounts` joined with its label row. -/
def joinedAccount (s : Store) (account : WalletAccountRecord) : WalletAccountRecord :=
  { account with
    label := ((s.walletAccountLabels.find account.key).map WalletAccountLabel.label).or account.label }

def accountBefore (s : Store) (a b : WalletAccountRecord) : Bool :=
  let order := fun x : WalletAccountRecord =>
    ((s.walletAccountLabels.find x.key).map WalletAccountLabel.accountOrder).getD i64Max
  a.walletInstanceId.value < b.walletInstanceId.value ||
    (a.walletInstanceId.value == b.walletInstanceId.value &&
      (order a < order b || (order a == order b && a.address ≤ b.address)))

def listWalletAccounts (s : Store) (walletInstanceId : Option WalletInstanceId) :
    List WalletAccountRecord :=
  ((s.walletAccounts.rows.filter fun a =>
      walletInstanceId.all (fun w => a.walletInstanceId = w)).insertionSort
    (fun a b => s.accountBefore a b = true)).map s.joinedAccount

def getWalletAccount (s : Store) (walletInstanceId : WalletInstanceId) (address : String) :
    Option WalletAccountRecord :=
  (s.walletAccounts.find (walletInstanceId, address)).map s.joinedAccount

def setWalletAccountLabel (s : Store) (walletInstanceId : WalletInstanceId) (address label : String)
    (updatedAt : Int) : Except RepositoryError (WalletAccountRecord × Store) := do
  if !(← s.isLocalAccountWallet walletInstanceId) then
    throw (.storage ("wallet instance " ++ walletInstanceId.value ++
      " does not support daemon-managed account labels"))
  match s.getWalletAccount walletInstanceId address with
  | none =>
    throw (.storage ("wallet account " ++ walletInstanceId.value ++ ":" ++ address ++ " was not found"))
  | some account =>
    let normalizedLabel ← normalizeAccountLabel label
    let accountOrder := (s.existingAccountOrder walletInstanceId address).getD
      (s.nextAccountOrder walletInstanceId)
    pure ({ account with label := some normalizedLabel },
      s.upsertWalletAccountLabel ⟨walletInstanceId, address, normalizedLabel, accountOrder, updatedAt⟩)

end Store

end StarcoinMcp.Starmask
