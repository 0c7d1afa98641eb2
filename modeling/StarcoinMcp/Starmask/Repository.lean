import StarcoinMcp.Starmask.Runs

/-! `Coordinator<R>` for any request repository `R`. The methods are those of the coordinator,
with each call of the repository made explicit; the wallet repository behind the store is the
one of the daemon. Two repositories that answer alike, call by call, cannot be told apart by
the coordinator: the rules for that are stated here against the store of records. -/

namespace StarcoinMcp.Starmask

/-- The trait `RequestRepository`, with the wallet tables the store also holds. Only the wallet
tables of `wallets` are ever read. -/
structure Repository (σ : Type) where
  getRequest : σ → RequestId → Except RepositoryError (Option RequestRecord)
  getRequestByClientRequestId : σ → ClientRequestId → Except RepositoryError (Option RequestRecord)
  insertRequest : σ → RequestRecord → Except RepositoryError (RequestRecord × σ)
  updateRequest : σ → RequestRecord → Except RepositoryError (RequestRecord × σ)
  claimNextRequestForWallet : σ → WalletInstanceId → DeliveryLease → TimestampMs →
    Except RepositoryError (Option RequestRecord × σ)
  listNonTerminalRequests : σ → Except RepositoryError (List RequestRecord)
  listTerminalRequestsWithExpiredResults : σ → TimestampMs →
    Except RepositoryError (List RequestRecord)
  wallets : σ → Store
  putWallets : σ → Store → σ

namespace Repository

open Coordinator

variable {σ α : Type} (R : Repository σ)

/-! ## The methods of the coordinator -/

/-- A call that only reads. -/
def ask (f : σ → Except RepositoryError α) : FailState σ CoreError α := fun x =>
  ((f x).mapError CoreError.repository, x)

/-- A call that writes, in its own transaction. -/
def change (f : σ → Except RepositoryError (α × σ)) : FailState σ CoreError α :=
  FailState.call fun x => (f x).mapError CoreError.repository

def readWallets (f : Store → CoreResult α) : FailState σ CoreError α := fun x => (f (R.wallets x), x)

def onWallets (m : CoreM α) : FailState σ CoreError α := fun x =>
  ((m (R.wallets x)).1, R.putWallets x (m (R.wallets x)).2)

def createRequest (c : Coordinator) (env : Env) (args : CreateRequestArgs) :
    FailState σ CoreError CreateRequestResult := do
  let payloadHash := calculatePayloadHash c.sha256 args.payload
  match ← ask fun x => R.getRequestByClientRequestId x args.clientRequestId with
  | some existing =>
    if c.sameRequest args existing then pure (projectRequestSummary existing)
    else FailState.throw (sharedError .idempotencyKeyConflict
      "client_request_id already exists with a different payload or signing target")
  | none => do
    let selected ← R.readWallets
      (resolveWalletForRequest args.kind args.accountAddress args.walletInstanceId)
    let now := env.now 0
    let expiresAt ← FailState.lift
      (addLease now (c.clampTtl args.ttlSeconds) "request expiration overflowed timestamp range")
    let requestId ← FailState.lift env.newRequestId
    let request ← change fun x =>
      R.insertRequest x (newRequest args payloadHash requestId selected now expiresAt)
    pure (projectRequestSummary request)

def getRequestStatus (requestId : RequestId) : FailState σ CoreError GetRequestStatusResult := do
  match ← ask fun x => R.getRequest x requestId with
  | none => FailState.throw (sharedError .requestNotFound "Request not found")
  | some request => pure (projectRequestStatus request)

def requestHasAvailable (walletInstanceId : WalletInstanceId) :
    FailState σ CoreError RequestHasAvailableResult := do
  let requests ← ask R.listNonTerminalRequests
  pure ⟨walletInstanceId, requests.any fun r => r.walletInstanceId = walletInstanceId ∧
    (r.status = .created ∨ r.status = .pendingUserApproval)⟩

def cancelRequest (env : Env) (requestId : RequestId) : FailState σ CoreError CancelRequestResult := do
  match ← ask fun x => R.getRequest x requestId with
  | none => FailState.throw (sharedError .requestNotFound "Request not found")
  | some request =>
    if request.status.isTerminal then
      pure ⟨request.requestId, request.status, request.lastErrorCode⟩
    else do
      let request ← FailState.lift (cancelledRecord env request)
      let request ← change fun x => R.updateRequest x request
      pure ⟨request.requestId, request.status, request.lastErrorCode⟩

def heartbeatRequest (walletInstanceId : WalletInstanceId) (now presentationExpiresAt : TimestampMs)
    (requestId : RequestId) : FailState σ CoreError Unit := do
  match ← ask fun x => R.getRequest x requestId with
  | none => pure ()
  | some request =>
    if request.walletInstanceId ≠ walletInstanceId ∨ request.status ≠ .pendingUserApproval then pure ()
    else match request.presentation with
      | none => pure ()
      | some presentation => do
        let _ ← change fun x => R.updateRequest x { request with
          presentation := some { presentation with presentationExpiresAt := presentationExpiresAt }
          updatedAt := now }
        pure ()

def heartbeatBackend (c : Coordinator) (env : Env) (command : HeartbeatBackendCommand) :
    FailState σ CoreError Unit := do
  let wallet ← R.readWallets (requireWalletInstance command.walletInstanceId)
  let now := env.now 0
  R.onWallets (upsertWalletInstance { wallet with
    connected := true
    lastSeenAt := now
    lockState := command.lockState.getD wallet.lockState })
  if command.presentedRequestIds.isEmpty then pure ()
  else do
    let presentationExpiresAt ← FailState.lift
      (addLease now c.config.presentationLeaseTtl "presentation lease timestamp overflow")
    command.presentedRequestIds.forM
      (R.heartbeatRequest command.walletInstanceId now presentationExpiresAt)

/-- `min_by_key` over whatever order the repository lists the requests in. -/
def findResumableRequest (env : Env) (walletInstanceId : WalletInstanceId) :
    FailState σ CoreError (Option RequestRecord) := do
  let requests ← ask R.listNonTerminalRequests
  pure (minByKey RequestRecord.createdAt (requests.filter (resumable walletInstanceId (env.now 1))))

def pullNextRequest (c : Coordinator) (env : Env) (walletInstanceId : WalletInstanceId) :
    FailState σ CoreError PullNextRequestResult := do
  let _ ← R.readWallets (requireWalletInstance walletInstanceId)
  match ← R.findResumableRequest env walletInstanceId with
  | some request => do
    let request ← FailState.lift (c.resumedRecord env request)
    let request ← change fun x => R.updateRequest x request
    pure ⟨walletInstanceId, some (projectPulledRequest request true)⟩
  | none => do
    let deliveryLeaseId ← FailState.lift env.newDeliveryLeaseId
    let expiresAt ← FailState.lift
      (addLease (env.now 2) c.config.deliveryLeaseTtl "delivery lease timestamp overflow")
    let request ← change fun x =>
      R.claimNextRequestForWallet x walletInstanceId ⟨deliveryLeaseId, expiresAt⟩ (env.now 0)
    pure ⟨walletInstanceId, request.map fun request => projectPulledRequest request false⟩

def requireOwnedRequest (requestId : RequestId) (walletInstanceId : WalletInstanceId) :
    FailState σ CoreError RequestRecord := do
  match ← ask fun x => R.getRequest x requestId with
  | none => FailState.throw (sharedError .requestNotFound "Request not found")
  | some request =>
    if request.walletInstanceId ≠ walletInstanceId then
      FailState.throw (sharedError .requestNotOwned "wallet instance does not own this request")
    else pure request

/-- `mark_request_presented`, `resolve_request` and `reject_request`. -/
def rewriteOwned (requestId : RequestId) (walletInstanceId : WalletInstanceId)
    (f : RequestRecord → CoreResult RequestRecord) (g : RequestRecord → α) :
    FailState σ CoreError α := do
  let request ← R.requireOwnedRequest requestId walletInstanceId
  let request ← FailState.lift (f request)
  let request ← change fun x => R.updateRequest x request
  pure (g request)

def sweepRequest (now : TimestampMs) (counts : Nat × Nat) (request : RequestRecord) :
    FailState σ CoreError (Nat × Nat) :=
  if request.expiresAt ≤ now then do
    let request ← FailState.lift (expiredRecord now request)
    let _ ← change fun x => R.updateRequest x request
    pure (counts.1 + 1, counts.2)
  else if deliveryLeaseExpired now request then do
    let request ← FailState.lift (releasedRecord now request)
    let _ ← change fun x => R.updateRequest x request
    pure (counts.1, counts.2 + 1)
  else if presentationExpired now request then do
    let request ← FailState.lift (releasedRecord now request)
    let _ ← change fun x => R.updateRequest x request
    pure counts
  else pure counts

def evictResult (evicted : Nat) (request : RequestRecord) : FailState σ CoreError Nat :=
  if request.result.isSome then do
    let _ ← change fun x => R.updateRequest x { request with result := none, resultExpiresAt := none }
    pure (evicted + 1)
  else pure evicted

def tickMaintenance (c : Coordinator) (env : Env) : FailState σ CoreError TickMaintenanceResult := do
  let now := env.now 0
  let requests ← ask R.listNonTerminalRequests
  let counts ← requests.foldlM (R.sweepRequest now) (0, 0)
  let wallets ← R.readWallets fun s => .ok (s.listWalletInstances env.instanceScan true)
  wallets.forM fun wallet => R.onWallets (c.disconnectIfStale now wallet)
  let expired ← ask fun x => R.listTerminalRequestsWithExpiredResults x now
  let evicted ← expired.foldlM R.evictResult 0
  pure ⟨counts.1, counts.2, evicted⟩

def dispatch (c : Coordinator) (env : Env) : CoordinatorCommand → FailState σ CoreError CoordinatorResponse
  | .createAccount command => CoordinatorResponse.requestCreated <$> do
    FailState.lift (c.policy.checkCreateAccount command)
    R.createRequest c env (createAccountArgs command)
  | .createExportAccount command => CoordinatorResponse.requestCreated <$> do
    FailState.lift (c.policy.checkCreateExportAccount command)
    R.createRequest c env (exportAccountArgs command)
  | .createImportAccount command => CoordinatorResponse.requestCreated <$> do
    FailState.lift (c.policy.checkCreateImportAccount command)
    if Text.isBlank command.accountAddress then
      FailState.throw (sharedError .invalidAccount "account_address is required for import requests")
    else R.createRequest c env (importAccountArgs command)
  | .createSignTransaction command => CoordinatorResponse.requestCreated <$> do
    FailState.lift (c.policy.checkCreateSignTransaction command)
    R.createRequest c env (signTransactionArgs command)
  | .createSignMessage command => CoordinatorResponse.requestCreated <$> do
    FailState.lift (c.policy.checkCreateSignMessage command)
    R.createRequest c env (signMessageArgs command)
  | .getRequestStatus requestId => CoordinatorResponse.requestStatus <$> R.getRequestStatus requestId
  | .requestHasAvailable walletInstanceId =>
    CoordinatorResponse.requestHasAvailable <$> R.requestHasAvailable walletInstanceId
  | .cancelRequest requestId => CoordinatorResponse.requestCancelled <$> R.cancelRequest env requestId
  | .heartbeatExtension command => (fun _ => .ack) <$>
    R.heartbeatBackend c env ⟨command.walletInstanceId, command.presentedRequestIds, none⟩
  | .heartbeatBackend command => (fun _ => .ack) <$> R.heartbeatBackend c env command
  | .pullNextRequest walletInstanceId =>
    CoordinatorResponse.pullNextRequest <$> R.pullNextRequest c env walletInstanceId
  | .markRequestPresented command => CoordinatorResponse.requestPresented <$>
    R.rewriteOwned command.requestId command.walletInstanceId (c.presentedRecord env command)
      fun request => ⟨request.requestId, request.status⟩
  | .resolveRequest command => CoordinatorResponse.requestResolved <$>
    R.rewriteOwned command.requestId command.walletInstanceId (c.resolvedRecord env command)
      fun request => ⟨request.requestId, request.status, command.result.resultKind, request.resultExpiresAt⟩
  | .rejectRequest command => CoordinatorResponse.requestRejected <$>
    R.rewriteOwned command.requestId command.walletInstanceId (rejectedRecord env command)
      fun request => ⟨request.requestId, request.status, (mapRejectReason command.reasonCode).2.1⟩
  | .tickMaintenance => CoordinatorResponse.tickMaintenance <$> R.tickMaintenance c env
  | command => R.onWallets (c.dispatch env command)

end Repository

end StarcoinMcp.Starmask
