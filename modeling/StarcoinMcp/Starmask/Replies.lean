import StarcoinMcp.Starmask.Runs
import StarcoinMcp.Starmask.Server

/-! Which id a reply of the daemon carries. A request is answered in two parts: what the
dispatcher decides from the request and the server policy alone, and what the coordinator and
the serializer then answer. The first part knows the id of the request; the errors of the
second are built without it. -/

namespace StarcoinMcp.Starmask

open Coordinator

/-- What the dispatcher makes of a request before it asks anyone. -/
inductive Plan
  | refuse (error : JsonRpcErrorResponse)
  | answer (result : DaemonResult)
  | send (command : CoordinatorCommand) (project : CoordinatorResponse → Option DaemonResult)

namespace Plan

def decode {α : Type} (decoded : Except JsonRpcErrorResponse α) (k : α → Plan) : Plan :=
  match decoded with
  | .error e => .refuse e
  | .ok a => k a

def sending {α : Type} (decoded : Except JsonRpcErrorResponse (Versioned α))
    (command : α → CoordinatorCommand) (project : CoordinatorResponse → Option DaemonResult) : Plan :=
  decode decoded fun versioned => .send (command versioned.params) project

end Plan

namespace Daemon

open Plan

def extensionRegisterPlan (d : Daemon) (id : String) (value : Decoded ExtensionRegisterParams) : Plan :=
  decode (decodeProtocol id value) fun versioned =>
    match d.policy.acceptsExtension versioned.params.extensionId with
    | none =>
      .answer (.extensionRegistered versioned.params.walletInstanceId daemonProtocolVersion false)
    | some config =>
      .send (.registerBackend (extensionRegisterCommand config versioned))
        (onAck (.extensionRegistered versioned.params.walletInstanceId daemonProtocolVersion true))

/-- The methods of a configured local backend. -/
def localBackendPlan (d : Daemon) (id : String) (walletInstanceId : WalletInstanceId)
    (k : LocalAccountDirBackendConfig → Plan) : Plan :=
  match d.policy.configuredLocalBackend walletInstanceId with
  | none => .refuse ⟨id, backendNotAllowed⟩
  | some config => k config

def backendRegisterPlan (d : Daemon) (id : String) (value : Decoded BackendRegisterParams) : Plan :=
  decode (decodeProtocolExact id value genericBackendProtocolVersion) fun versioned =>
    d.localBackendPlan id versioned.params.walletInstanceId fun config =>
      decode ((validateGenericBackendRegistration config versioned.params).mapError
        (JsonRpcErrorResponse.mk id)) fun _ =>
        .send (.registerBackend (backendRegisterCommand versioned))
          (onAck (.backendRegistered versioned.params.walletInstanceId genericBackendProtocolVersion true))

def backendHeartbeatPlan (d : Daemon) (id : String) (value : Decoded HeartbeatBackendCommand) : Plan :=
  decode (decodeProtocolExact id value genericBackendProtocolVersion) fun versioned =>
    d.localBackendPlan id versioned.params.walletInstanceId fun _ =>
      .send (.heartbeatBackend versioned.params) (acknowledge isAck)

def backendUpdateAccountsPlan (d : Daemon) (id : String) (value : Decoded BackendUpdateAccountsParams) :
    Plan :=
  decode (decodeProtocolExact id value genericBackendProtocolVersion) fun versioned =>
    d.localBackendPlan id versioned.params.walletInstanceId fun config =>
      decode ((validateLocalBackendCapabilities config versioned.params.capabilities).mapError
        (JsonRpcErrorResponse.mk id)) fun _ =>
        .send (.updateBackendAccounts ⟨versioned.params.walletInstanceId, versioned.params.lockState,
          canonicalCapabilities versioned.params.capabilities,
          versioned.params.accounts.map
            (backendAccountToWalletAccount versioned.params.walletInstanceId)⟩) (acknowledge isAck)

def requestResolvePlan (id : String) (value : Decoded RequestResolveParams) : Plan :=
  decode (decodeProtocolOneOf id value eitherVersion) fun versioned =>
    decode ((requestResultFromParams versioned.params).mapError (JsonRpcErrorResponse.mk id))
      fun result =>
        .send (.resolveRequest ⟨versioned.params.requestId, versioned.params.walletInstanceId,
          versioned.params.presentationId, result⟩)
          (acknowledge fun | .requestResolved _ => true | _ => false)

def plan (d : Daemon) (id : String) : DaemonCall → Plan
  | .systemPing value => sending (decodeProtocol id value) (fun _ => .systemPing)
      (forward fun | .systemPing _ => true | _ => false)
  | .systemGetInfo value => sending (decodeProtocol id value) (fun _ => .systemGetInfo)
      (forward fun | .systemInfo _ => true | _ => false)
  | .walletStatus value => sending (decodeProtocol id value) (fun _ => .walletStatus)
      (forward fun | .walletStatus _ => true | _ => false)
  | .walletListInstances value => sending (decodeProtocol id value) .walletListInstances
      (forward fun | .walletInstances _ => true | _ => false)
  | .walletListAccounts value => sending (decodeProtocol id value)
      (fun params => .walletListAccounts params.1 params.2)
      (forward fun | .walletAccounts _ => true | _ => false)
  | .walletGetPublicKey value => sending (decodeProtocol id value)
      (fun params => .walletGetPublicKey params.1 params.2)
      (forward fun | .walletPublicKey _ => true | _ => false)
  | .walletSetAccountLabel value => sending (decodeProtocol id value)
      .walletSetAccountLabel (forward fun | .walletAccountLabelSet _ => true | _ => false)
  | .requestCreateAccount value => sending (decodeProtocol id value) .createAccount
      (forward isRequestCreated)
  | .requestCreateExportAccount value => sending (decodeProtocol id value)
      .createExportAccount (forward isRequestCreated)
  | .requestCreateImportAccount value => sending (decodeProtocol id value)
      .createImportAccount (forward isRequestCreated)
  | .requestCreateSignTransaction value => sending (decodeProtocol id value)
      .createSignTransaction (forward isRequestCreated)
  | .requestCreateSignMessage value => sending (decodeProtocol id value)
      .createSignMessage (forward isRequestCreated)
  | .requestGetStatus value => sending (decodeProtocol id value) .getRequestStatus
      (forward fun | .requestStatus _ => true | _ => false)
  | .requestHasAvailable value => sending (decodeProtocolOneOf id value eitherVersion)
      .requestHasAvailable (forward fun | .requestHasAvailable _ => true | _ => false)
  | .requestCancel value => sending (decodeProtocol id value) .cancelRequest
      (forward fun | .requestCancelled _ => true | _ => false)
  | .extensionRegister value => d.extensionRegisterPlan id value
  | .extensionHeartbeat value => sending (decodeProtocol id value) .heartbeatExtension
      (acknowledge isAck)
  | .extensionUpdateAccounts value => sending (decodeProtocol id value)
      (fun params => .updateExtensionAccounts ⟨params.walletInstanceId, params.lockState,
        params.accounts.map (bridgeAccountToWalletAccount params.walletInstanceId params.lockState)⟩)
      (acknowledge isAck)
  | .backendRegister value => d.backendRegisterPlan id value
  | .backendHeartbeat value => d.backendHeartbeatPlan id value
  | .backendUpdateAccounts value => d.backendUpdateAccountsPlan id value
  | .requestPullNext value => sending (decodeProtocolOneOf id value eitherVersion)
      .pullNextRequest (forward fun | .pullNextRequest _ => true | _ => false)
  | .requestPresented value => sending (decodeProtocolOneOf id value eitherVersion)
      .markRequestPresented (acknowledge fun | .requestPresented _ => true | _ => false)
  | .requestResolve value => requestResolvePlan id value
  | .requestReject value => sending (decodeProtocolOneOf id value eitherVersion)
      .rejectRequest (acknowledge fun | .requestRejected _ => true | _ => false)
  | .other method => .refuse ⟨id, (SharedError.new .unsupportedOperation
      ("Unsupported daemon method: " ++ method)).withRetryable false⟩

end Daemon

/-! ## Carrying out a plan -/

/-- Why `CoordinatorHandle::dispatch` failed: the coordinator's own error, or one of the channel. -/
inductive HandleError
  | core (error : CoreError)
  | channel (text : String)
deriving DecidableEq, Repr

def mapHandleError : HandleError → JsonRpcErrorResponse
  | .core error => mapRuntimeError error
  | .channel text => errorResponse none text

/-- Those the dispatcher relies on: the coordinator behind its handle, and `serde_json::to_value`. -/
structure Surroundings where
  handle : CoordinatorCommand → Except HandleError CoordinatorResponse
  toValue : DaemonResult → Except String DaemonResult

namespace Daemon

def serialize (id : String) (around : Surroundings) (result : DaemonResult) :
    Except JsonRpcErrorResponse JsonRpcSuccess :=
  match around.toValue result with
  | .error text => .error (errorResponse none text)
  | .ok value => .ok ⟨id, value⟩

def perform (d : Daemon) (id : String) (around : Surroundings) :
    Plan → Except JsonRpcErrorResponse JsonRpcSuccess
  | .refuse error => .error error
  | .answer result => serialize id around result
  | .send command project =>
    match around.handle command with
    | .error e => .error (mapHandleError e)
    | .ok response =>
      match project response with
      | none => .error (d.unexpectedResponse response)
      | some result => serialize id around result

/-- `dispatch_request`, whatever the coordinator and the serializer answer. -/
def respond (d : Daemon) (around : Surroundings) (request : JsonRpcRequest) :
    Except JsonRpcErrorResponse JsonRpcSuccess :=
  d.perform request.id around (d.plan request.id request.call)

/-- The coordinator on the store `s`, behind a channel that works; no result type of the daemon
fails to serialize. -/
def surroundings (d : Daemon) (env : Env) (s : Store) : Surroundings where
  handle command := (d.coordinator.dispatch env command s).1.mapError .core
  toValue := .ok

end Daemon

section Connection

variable {d : Daemon} {env : Env} {s : Store} {id : String}

/-- The first component of the run is what the plan leads to. -/
def Follows (d : Daemon) (env : Env) (s : Store) (id : String) (m : ServerM DaemonResult) (p : Plan) :
    Prop :=
  ((m >>= fun result => pure (JsonRpcSuccess.mk id result)) s).1 = d.perform id (d.surroundings env s) p

theorem follows_lift_bind {α : Type} {x : Except JsonRpcErrorResponse α} {k : α → ServerM DaemonResult}
    {k' : α → Plan} (h : ∀ a, x = .ok a → Follows d env s id (k a) (k' a)) :
    Follows d env s id (FailState.lift x >>= k) (.decode x k') := by
  unfold Follows
  rw [FailState.bind_assoc]
  cases hx : x with
  | error e => rfl
  | ok a => exact h a hx

theorem follows_expectResponse (command : CoordinatorCommand)
    (project : CoordinatorResponse → Option DaemonResult) :
    Follows d env s id (d.expectResponse env command project) (.send command project) := by
  unfold Follows Daemon.perform Daemon.surroundings
  cases hrun : d.coordinator.dispatch env command s with
  | mk answer s' =>
    cases answer with
    | error e =>
      have hexpect : d.expectResponse env command project s = (.error (mapRuntimeError e), s') := by
        unfold Daemon.expectResponse
        rw [hrun]
      rw [FailState.bind_error hexpect]
      simp only [hrun]
      rfl
    | ok response =>
      cases hproject : project response with
      | none =>
        have hexpect : d.expectResponse env command project s =
            (.error (d.unexpectedResponse response), s') := by
          unfold Daemon.expectResponse
          rw [hrun]
          dsimp only
          rw [hproject]
        rw [FailState.bind_error hexpect]
        simp only [hrun, mapError_ok, hproject]
      | some result =>
        have hexpect : d.expectResponse env command project s = (.ok result, s') := by
          unfold Daemon.expectResponse
          rw [hrun]
          dsimp only
          rw [hproject]
        rw [FailState.bind_ok hexpect]
        simp only [hrun, mapError_ok, hproject]
        rfl

theorem follows_localBackend {w : WalletInstanceId}
    {k : LocalAccountDirBackendConfig → ServerM DaemonResult}
    {k' : LocalAccountDirBackendConfig → Plan} (h : ∀ config, Follows d env s id (k config) (k' config)) :
    Follows d env s id
      (match d.policy.configuredLocalBackend w with
        | none => FailState.throw ⟨id, backendNotAllowed⟩
        | some config => k config) (d.localBackendPlan id w k') := by
  unfold Daemon.localBackendPlan
  cases d.policy.configuredLocalBackend w with
  | none => rfl
  | some config => exact h config

theorem follows_dispatchCall (call : DaemonCall) :
    Follows d env s id (d.dispatchCall env id call) (d.plan id call) := by
  cases call with
  | extensionRegister value =>
    refine follows_lift_bind fun v _ => ?_
    cases d.policy.acceptsExtension v.params.extensionId with
    | none => rfl
    | some config => exact follows_expectResponse _ _
  | backendRegister value =>
    exact follows_lift_bind fun v _ => follows_localBackend fun config =>
      follows_lift_bind fun _ _ => follows_expectResponse _ _
  | backendHeartbeat value =>
    exact follows_lift_bind fun v _ => follows_localBackend fun _ => follows_expectResponse _ _
  | backendUpdateAccounts value =>
    exact follows_lift_bind fun v _ => follows_localBackend fun config =>
      follows_lift_bind fun _ _ => follows_expectResponse _ _
  | requestResolve value =>
    exact follows_lift_bind fun v _ => follows_lift_bind fun _ _ => follows_expectResponse _ _
  | other method => rfl
  | _ => exact follows_lift_bind fun _ _ => follows_expectResponse _ _

/-- The dispatcher of the daemon is the plan, carried out with its coordinator. -/
theorem dispatchRequest_eq_respond (d : Daemon) (env : Env) (s : Store) (request : JsonRpcRequest) :
    (d.dispatchRequest env request s).1 = d.respond (d.surroundings env s) request :=
  follows_dispatchCall request.call

end Connection

/-! ## Ids -/

def replyId : Except JsonRpcErrorResponse JsonRpcSuccess → String
  | .error error => error.id
  | .ok success => success.id

/-- No one the dispatcher asks fails: a coordinator that is asked answers with a response of the
expected kind, and the result can be serialized. -/
def Surroundings.Serves (around : Surroundings) : Plan → Prop
  | .refuse _ => True
  | .answer result => ∃ value, around.toValue result = .ok value
  | .send command project => ∃ response result value, around.handle command = .ok response ∧
      project response = some result ∧ around.toValue result = .ok value

section Refusals

variable {d : Daemon} {id : String}

/-- A refusal names the request. -/
def Plan.Names (id : String) (p : Plan) : Prop := ∀ e, p = .refuse e → e.id = id

theorem names_decode {α : Type} {x : Except JsonRpcErrorResponse α} {k : α → Plan}
    (hx : ∀ e, x = .error e → e.id = id) (hk : ∀ a, (k a).Names id) : (Plan.decode x k).Names id := by
  intro e he
  cases hdecoded : x with
  | error e' =>
    rw [hdecoded] at he
    cases he
    exact hx e hdecoded
  | ok a =>
    rw [hdecoded] at he
    exact hk a e he

theorem names_send {command : CoordinatorCommand} {project : CoordinatorResponse → Option DaemonResult} :
    (Plan.send command project).Names id := by
  intro e he
  cases he

theorem decodeProtocolOneOf_id {α : Type} {value : Decoded α} {versions : List Nat}
    {e : JsonRpcErrorResponse} (h : decodeProtocolOneOf id value versions = .error e) : e.id = id := by
  unfold decodeProtocolOneOf at h
  split at h
  · cases h
    rfl
  · split_ifs at h
    cases h
    rfl

theorem mapError_id {α : Type} {x : Except SharedError α} {e : JsonRpcErrorResponse}
    (h : x.mapError (JsonRpcErrorResponse.mk id) = .error e) : e.id = id := by
  cases x with
  | error shared =>
    cases h
    rfl
  | ok a => cases h

theorem names_localBackend {w : WalletInstanceId} {k : LocalAccountDirBackendConfig → Plan}
    (hk : ∀ config, (k config).Names id) : (d.localBackendPlan id w k).Names id := by
  unfold Daemon.localBackendPlan
  cases d.policy.configuredLocalBackend w with
  | none =>
    intro e he
    cases he
    rfl
  | some config => exact hk config

/-- Every refusal of the dispatcher itself carries the id of the request. -/
theorem names_plan (call : DaemonCall) : (d.plan id call).Names id := by
  cases call with
  | extensionRegister value =>
    refine names_decode (fun _ => decodeProtocolOneOf_id) fun v => ?_
    cases d.policy.acceptsExtension v.params.extensionId with
    | none => exact fun e he => nomatch he
    | some config => exact names_send
  | backendRegister value =>
    exact names_decode (fun _ => decodeProtocolOneOf_id) fun v => names_localBackend fun config =>
      names_decode (fun _ => mapError_id) fun _ => names_send
  | backendHeartbeat value =>
    exact names_decode (fun _ => decodeProtocolOneOf_id) fun v => names_localBackend fun _ => names_send
  | backendUpdateAccounts value =>
    exact names_decode (fun _ => decodeProtocolOneOf_id) fun v => names_localBackend fun config =>
      names_decode (fun _ => mapError_id) fun _ => names_send
  | requestResolve value =>
    exact names_decode (fun _ => decodeProtocolOneOf_id) fun v =>
      names_decode (fun _ => mapError_id) fun _ => names_send
  | other method =>
    intro e he
    cases he
    rfl
  | _ => exact names_decode (fun _ => decodeProtocolOneOf_id) fun _ => names_send

end Refusals

section Failures

variable {d : Daemon} {around : Surroundings} {id : String}

theorem mapHandleError_id (e : HandleError) : (mapHandleError e).id = "" := by
  cases e with
  | core error =>
    cases error with
    | repository error =>
      cases error
      rfl
    | _ => rfl
  | channel text => rfl

theorem serialize_id (id : String) (around : Surroundings) (result : DaemonResult) :
    (∃ value, around.toValue result = .ok value ∧ replyId (Daemon.serialize id around result) = id) ∨
      ((¬ ∃ value, around.toValue result = .ok value) ∧
        replyId (Daemon.serialize id around result) = "") := by
  unfold Daemon.serialize
  cases around.toValue result with
  | error text => exact .inr ⟨fun ⟨_, h⟩ => (nomatch h), rfl⟩
  | ok value => exact .inl ⟨value, rfl, rfl⟩

/-- Served, a plan is answered under the id of the request; otherwise under the empty one. -/
theorem perform_id (d : Daemon) (around : Surroundings) (p : Plan) (hp : p.Names id) :
    (around.Serves p ∧ replyId (d.perform id around p) = id) ∨
      (¬ around.Serves p ∧ replyId (d.perform id around p) = "") := by
  cases p with
  | refuse e => exact .inl ⟨trivial, hp e rfl⟩
  | answer result =>
    rcases serialize_id id around result with ⟨value, hvalue, hid⟩ | ⟨hnone, hid⟩
    · exact .inl ⟨⟨value, hvalue⟩, hid⟩
    · exact .inr ⟨hnone, hid⟩
  | send command project =>
    cases hhandle : around.handle command with
    | error e =>
      have hperform : d.perform id around (.send command project) = .error (mapHandleError e) := by
        simp only [Daemon.perform, hhandle]
      refine .inr ⟨?_, by rw [hperform]; exact mapHandleError_id e⟩
      rintro ⟨response, result, value, hok, -⟩
      cases hhandle.symm.trans hok
    | ok response =>
      cases hproject : project response with
      | none =>
        have hperform : d.perform id around (.send command project) =
            .error (d.unexpectedResponse response) := by
          simp only [Daemon.perform, hhandle, hproject]
        refine .inr ⟨?_, by rw [hperform]; rfl⟩
        rintro ⟨response', result, value, hok, hsome, -⟩
        cases hhandle.symm.trans hok
        cases hproject.symm.trans hsome
      | some result =>
        have hperform : d.perform id around (.send command project) =
            Daemon.serialize id around result := by
          simp only [Daemon.perform, hhandle, hproject]
        rw [hperform]
        rcases serialize_id id around result with ⟨value, hvalue, hid⟩ | ⟨hnone, hid⟩
        · exact .inl ⟨⟨response, result, value, hhandle, hproject, hvalue⟩, hid⟩
        · refine .inr ⟨?_, hid⟩
          rintro ⟨response', result', value, hok, hsome, hvalue⟩
          cases hhandle.symm.trans hok
          cases hproject.symm.trans hsome
          exact hnone ⟨value, hvalue⟩

theorem respond_id_iff (request : JsonRpcRequest) :
    replyId (d.respond around request) = request.id ↔
      request.id = "" ∨ around.Serves (d.plan request.id request.call) := by
  rcases perform_id d around (d.plan request.id request.call) (names_plan request.call) with
    ⟨hserved, hid⟩ | ⟨hfailed, hid⟩
  · exact ⟨fun _ => .inr hserved, fun _ => hid⟩
  · refine ⟨fun h => .inl (h.symm.trans hid), ?_⟩
    rintro (hempty | hserved)
    · exact hid.trans hempty.symm
    · exact absurd hserved hfailed

end Failures

/-! ## The responses of the coordinator -/

section Kinds

variable {d : Daemon} {id : String}

/-- The response to the command of the plan is one its projection accepts. -/
def Plan.Expects (c : Coordinator) (p : Plan) : Prop :=
  ∀ command project, p = .send command project → ∀ env s response,
    (c.dispatch env command s).1 = .ok response → ∃ result, project response = some result

theorem expects_decode {c : Coordinator} {α : Type} {x : Except JsonRpcErrorResponse α} {k : α → Plan}
    (hk : ∀ a, (k a).Expects c) : (Plan.decode x k).Expects c := by
  cases x with
  | error e => exact fun _ _ he => nomatch he
  | ok a => exact hk a

theorem expects_send {c : Coordinator} {command : CoordinatorCommand}
    {project : CoordinatorResponse → Option DaemonResult}
    (h : ∀ env s response, (c.dispatch env command s).1 = .ok response →
      ∃ result, project response = some result) : (Plan.send command project).Expects c := by
  intro command' project' he
  cases he
  exact h

theorem expects_localBackend {c : Coordinator} {w : WalletInstanceId}
    {k : LocalAccountDirBackendConfig → Plan} (hk : ∀ config, (k config).Expects c) :
    (d.localBackendPlan id w k).Expects c := by
  unfold Daemon.localBackendPlan
  cases d.policy.configuredLocalBackend w with
  | none => exact fun _ _ he => nomatch he
  | some config => exact hk config

theorem wrapped_reply {α β : Type} {f : α → β} {m : CoreM α} {s : Store} {b : β}
    (h : ((f <$> m) s).1 = .ok b) : ∃ a, b = f a := by
  rw [FailState.map_apply] at h
  cases hm : (m s).1 with
  | error e =>
    rw [hm] at h
    cases h
  | ok a =>
    rw [hm] at h
    exact ⟨a, (Except.ok.inj h).symm⟩

theorem expects_plan (c : Coordinator) (call : DaemonCall) : (d.plan id call).Expects c := by
  have hwrapped : ∀ {α : Type} {f : α → CoordinatorResponse} {command : CoordinatorCommand}
      {project : CoordinatorResponse → Option DaemonResult} {m : Env → CoreM α},
      (∀ env, c.dispatch env command = f <$> m env) → (∀ a, ∃ result, project (f a) = some result) →
      (Plan.send command project).Expects c := by
    intro α f command project m hdispatch hproject
    refine expects_send fun env s response h => ?_
    rw [hdispatch] at h
    obtain ⟨a, rfl⟩ := wrapped_reply h
    exact hproject a
  cases call with
  | extensionRegister value =>
    refine expects_decode fun v => ?_
    cases d.policy.acceptsExtension v.params.extensionId with
    | none => exact fun _ _ he => nomatch he
    | some config => exact hwrapped (fun _ => rfl) fun _ => ⟨_, rfl⟩
  | backendRegister value =>
    exact expects_decode fun v => expects_localBackend fun config => expects_decode fun _ =>
      hwrapped (fun _ => rfl) fun _ => ⟨_, rfl⟩
  | backendHeartbeat value =>
    exact expects_decode fun v => expects_localBackend fun _ => hwrapped (fun _ => rfl) fun _ => ⟨_, rfl⟩
  | backendUpdateAccounts value =>
    exact expects_decode fun v => expects_localBackend fun config => expects_decode fun _ =>
      hwrapped (fun _ => rfl) fun _ => ⟨_, rfl⟩
  | requestResolve value =>
    exact expects_decode fun v => expects_decode fun _ => hwrapped (fun _ => rfl) fun _ => ⟨_, rfl⟩
  | other method => exact fun _ _ he => nomatch he
  | systemPing | systemGetInfo | walletStatus | walletListInstances | requestHasAvailable =>
    refine expects_decode fun v => expects_send fun env s response h => ?_
    cases h
    exact ⟨_, rfl⟩
  | _ => exact expects_decode fun v => hwrapped (fun _ => rfl) fun _ => ⟨_, rfl⟩

/-- The command the dispatcher sends to the coordinator for this request. -/
def Daemon.Sends (d : Daemon) (request : JsonRpcRequest) (command : CoordinatorCommand) : Prop :=
  ∃ project, d.plan request.id request.call = .send command project

theorem serves_surroundings_iff {env : Env} {s : Store} {request : JsonRpcRequest} :
    (d.surroundings env s).Serves (d.plan request.id request.call) ↔
      ∀ command, d.Sends request command →
        ∃ response, (d.coordinator.dispatch env command s).1 = .ok response := by
  have hexpects : (d.plan request.id request.call).Expects d.coordinator :=
    expects_plan d.coordinator request.call
  unfold Daemon.Sends
  generalize d.plan request.id request.call = p at hexpects
  cases p with
  | refuse e => exact ⟨fun _ _ ⟨_, he⟩ => (nomatch he), fun _ => trivial⟩
  | answer result => exact ⟨fun _ _ ⟨_, he⟩ => (nomatch he), fun _ => ⟨result, rfl⟩⟩
  | send command project =>
    constructor
    · rintro ⟨response, result, value, hok, -⟩ command' ⟨project', he⟩
      cases he
      exact ⟨response, mapError_eq_ok hok⟩
    · intro h
      obtain ⟨response, hok⟩ := h command ⟨project, rfl⟩
      obtain ⟨result, hresult⟩ := hexpects command project rfl env s response hok
      refine ⟨response, result, result, ?_, hresult, rfl⟩
      show (d.coordinator.dispatch env command s).1.mapError HandleError.core = .ok response
      rw [hok]
      rfl

end Kinds

/-- A reply carries the id of its request exactly when no one the dispatcher asks fails, or the id
is the empty string that stands in every other reply; with the daemon's own coordinator, exactly
when that completes the command it is sent. -/
theorem reply_echoes_id_iff (d : Daemon) (request : JsonRpcRequest) :
    (∀ around : Surroundings, replyId (d.respond around request) = request.id ↔
      request.id = "" ∨ around.Serves (d.plan request.id request.call)) ∧
    ∀ env s, replyId (d.dispatchRequest env request s).1 = request.id ↔
      request.id = "" ∨ ∀ command, d.Sends request command →
        ∃ response, (d.coordinator.dispatch env command s).1 = .ok response := by
  refine ⟨fun around => respond_id_iff request, fun env s => ?_⟩
  rw [dispatchRequest_eq_respond, respond_id_iff, serves_surroundings_iff]

open Session in
/-- `request.getStatus` for a request the daemon does not know is answered under the empty id. -/
theorem unknown_request_answered_without_id :
    ¬ ∀ (d : Daemon) (request : JsonRpcRequest) (env : Env) (s : Store),
      replyId (d.dispatchRequest env request s).1 = request.id := by
  intro h
  have hstatus := h ⟨coordinator, ⟨[]⟩, fun _ => ""⟩ ⟨"7", .requestGetStatus (.ok ⟨2, request⟩)⟩
    (env 0 lease₁) Store.empty
  revert hstatus
  decide +kernel

end StarcoinMcp.Starmask
