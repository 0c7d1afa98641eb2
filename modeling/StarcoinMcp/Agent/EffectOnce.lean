import StarcoinMcp.Agent.Phases
import StarcoinMcp.NativeHost.ResultCodec
import StarcoinMcp.Starmask.Awaiting

/-! The effect of a request on the wallet: when it is performed once at most, and only for a
request that does not end otherwise than approved. Nothing in the agent asks the daemon again
between the prompt and the effect, or remembers an effect in another process; so it takes a run in
which the daemon, the clients and the clock leave the request alone from the effect to its result. -/

namespace StarcoinMcp.Agent

open Starmask Prog Coordinator

/-! ## The daemon's side of a call -/

/-- The command that a call of the agent leads to. -/
inductive Commands : AgentOp → CoordinatorCommand → Prop
  | register {params : BackendRegisterParams} {command : RegisterBackendCommand} :
      Commands (.backendRegister params) (.registerBackend command)
  | update {params : BackendUpdateAccountsParams} {command : UpdateBackendAccountsCommand} :
      Commands (.backendUpdateAccounts params) (.updateBackendAccounts command)
  | pull {w : WalletInstanceId} : Commands (.requestPullNext w) (.pullNextRequest w)
  | present {m : MarkRequestPresentedCommand} : Commands (.requestPresented m) (.markRequestPresented m)
  | resolve {params : RequestResolveParams} {result : RequestResult} :
      Commands (.requestResolve params)
        (.resolveRequest ⟨params.requestId, params.walletInstanceId, params.presentationId, result⟩)
  | reject {m : RejectRequestCommand} : Commands (.requestReject m) (.rejectRequest m)

/-- The request that a reply delivers. -/
def deliveredBy : Reply → Option PulledRequest
  | .ok (.response (.pullNextRequest result)) => result.request
  | _ => none

section Handled

variable {d : Daemon} {env : Env} {s : Store}

/-- A call is refused, or its one command is carried out; only a pull delivers a request. -/
structure Handled (d : Daemon) (env : Env) (s : Store) (o : AgentOp) (reply : Reply) (s' : Store) :
    Prop where
  store : s' = s ∨ ∃ command, Commands o command ∧ s' = d.coordinator.step s ⟨env, command⟩
  delivered : ∀ request, deliveredBy reply = some request → ∃ w result,
    o = .requestPullNext w ∧ result.request = some request ∧
      d.coordinator.dispatch env (.pullNextRequest w) s = (.ok (.pullNextRequest result), s')

theorem handled_refused {o : AgentOp} {e : JsonRpcErrorResponse} : Handled d env s o (.error e) s :=
  ⟨.inl rfl, fun _ h => nomatch h⟩

/-- A command whose response is acknowledged. -/
theorem handled_expect {o : AgentOp} {command : CoordinatorCommand}
    {project : CoordinatorResponse → Option DaemonResult} (hcommand : Commands o command)
    (hproject : ∀ response result, project response = some result → deliveredBy (.ok result) = none) :
    Handled d env s o (d.expectResponse env command project s).1
      (d.expectResponse env command project s).2 := by
  refine ⟨.inr ⟨command, hcommand, expectResponse_state command project⟩, ?_⟩
  intro request h
  exfalso
  unfold Daemon.expectResponse at h
  split at h
  · cases h
  · split at h
    next result hresult =>
      rw [hproject _ _ hresult] at h
      cases h
    next => cases h

theorem deliveredBy_acknowledge {p : CoordinatorResponse → Bool} (response : CoordinatorResponse)
    (result : DaemonResult) (h : Daemon.acknowledge p response = some result) :
    deliveredBy (.ok result) = none := by
  unfold Daemon.acknowledge at h
  split at h
  · cases h
    rfl
  · cases h

theorem deliveredBy_onAck {registered : DaemonResult} (hregistered : deliveredBy (.ok registered) = none)
    (response : CoordinatorResponse) (result : DaemonResult)
    (h : Daemon.onAck registered response = some result) :
    deliveredBy (.ok result) = none := by
  unfold Daemon.onAck at h
  split at h
  · cases h
    exact hregistered
  · cases h

theorem handled_pull {w : WalletInstanceId} {p : CoordinatorResponse → Bool} :
    Handled d env s (.requestPullNext w) (d.expectResponse env (.pullNextRequest w) (Daemon.forward p) s).1
      (d.expectResponse env (.pullNextRequest w) (Daemon.forward p) s).2 := by
  refine ⟨.inr ⟨_, .pull, expectResponse_state _ _⟩, ?_⟩
  intro request h
  unfold Daemon.expectResponse at *
  split at h
  · cases h
  next response s' hrun =>
    split at h
    next result hresult =>
      unfold Daemon.forward at hresult
      split at hresult
      next hp =>
        cases hresult
        unfold deliveredBy at h
        split at h
        next pulled heq =>
          cases heq
          refine ⟨w, pulled, rfl, h, ?_⟩
          rw [hrun]
        next => cases h
      next => cases hresult
    next => cases h

theorem handled_lift_bind {α : Type} {o : AgentOp} {x : Except JsonRpcErrorResponse α}
    {k : α → ServerM DaemonResult} (h : ∀ a, x = .ok a → Handled d env s o (k a s).1 (k a s).2) :
    Handled d env s o ((FailState.lift x >>= k) s).1 ((FailState.lift x >>= k) s).2 := by
  cases x with
  | error e => exact handled_refused
  | ok a => exact h a rfl

theorem handled_localBackend {o : AgentOp} {w : WalletInstanceId}
    {k : LocalAccountDirBackendConfig → ServerM DaemonResult}
    (h : ∀ config, Handled d env s o (k config s).1 (k config s).2) :
    Handled d env s o
      ((match d.policy.configuredLocalBackend w with
        | none => FailState.throw ⟨clientId, backendNotAllowed⟩
        | some config => k config : ServerM DaemonResult) s).1
      ((match d.policy.configuredLocalBackend w with
        | none => FailState.throw ⟨clientId, backendNotAllowed⟩
        | some config => k config : ServerM DaemonResult) s).2 := by
  cases d.policy.configuredLocalBackend w with
  | none => exact handled_refused
  | some config => exact h config

theorem handled_dispatchCall {o : AgentOp} {call : DaemonCall} (h : o.call? = some call) :
    Handled d env s o (d.dispatchCall env clientId call s).1 (d.dispatchCall env clientId call s).2 := by
  cases o with
  | backendRegister params =>
    cases h
    apply handled_lift_bind
    intro v hv
    apply handled_localBackend
    intro config
    apply handled_lift_bind
    intro u _
    exact handled_expect .register (deliveredBy_onAck rfl)
  | backendUpdateAccounts params =>
    cases h
    apply handled_lift_bind
    intro v hv
    apply handled_localBackend
    intro config
    apply handled_lift_bind
    intro u _
    exact handled_expect .update deliveredBy_acknowledge
  | requestPullNext w =>
    cases h
    exact handled_pull
  | requestPresented m =>
    cases h
    exact handled_expect .present deliveredBy_acknowledge
  | requestResolve params =>
    cases h
    apply handled_lift_bind
    intro v hv
    obtain ⟨hsent, -⟩ := decodeProtocolOneOf_ok hv
    cases hsent
    apply handled_lift_bind
    intro result _
    exact handled_expect .resolve deliveredBy_acknowledge
  | requestReject m =>
    cases h
    exact handled_expect .reject deliveredBy_acknowledge
  | _ => cases h

/-- The call that sends a result carries the result out. -/
theorem dispatch_resolve (agent : LocalAccountAgent) (id : RequestId) (presentationId : PresentationId)
    (result : RequestResult) :
    (d.dispatchCall env clientId (.requestResolve (sent (agent.resolveParams id presentationId result)))
      s).2 = d.coordinator.step s
        ⟨env, .resolveRequest ⟨id, agent.walletInstanceId, presentationId, result⟩⟩ := by
  have hresult : requestResultFromParams (agent.resolveParams id presentationId result) = .ok result :=
    NativeHost.requestResultFromParams_resolveParams id presentationId result
  have hcommand : (⟨(agent.resolveParams id presentationId result).requestId,
      (agent.resolveParams id presentationId result).walletInstanceId,
      (agent.resolveParams id presentationId result).presentationId, result⟩ : ResolveRequestCommand) =
        ⟨id, agent.walletInstanceId, presentationId, result⟩ := by
    cases result <;> rfl
  rw [← hcommand]
  change (d.requestResolve env clientId (sent (agent.resolveParams id presentationId result)) s).2 = _
  unfold Daemon.requestResolve
  have hdecode : decodeProtocolOneOf clientId (sent (agent.resolveParams id presentationId result))
      Daemon.eitherVersion = .ok ⟨genericBackendProtocolVersion,
        agent.resolveParams id presentationId result⟩ := rfl
  rw [hdecode, FailState.lift_ok_bind]
  dsimp only
  rw [hresult]
  exact expectResponse_state _ _

end Handled

/-! ## Leaving a request alone -/

/-- The call asks the daemon to resolve the request. -/
def resolves (id : RequestId) : DaemonCall → Bool
  | .requestResolve (.ok versioned) => versioned.params.requestId = id
  | _ => false

/-- The call rejects the request, and the daemon accepts that. -/
def refuses (env : Env) (r : RequestRecord) : DaemonCall → Bool
  | .requestReject (.ok versioned) =>
    versioned.params.requestId = r.requestId && (validateReject env versioned.params r).isOk
  | _ => false

/-- The command cancels the request, or finds it due. -/
def ends (env : Env) (r : RequestRecord) : CoordinatorCommand → Bool
  | .cancelRequest id => id = r.requestId
  | .tickMaintenance => r.expiresAt ≤ env.now 0 || presentationExpired (env.now 0) r
  | _ => false

/-- Of the answers about an account, only one with the account in it. -/
def foundAgain : Answered AgentOp.Answer → Bool
  | ⟨.accountInfo _, .ok (some _)⟩ => true
  | ⟨.accountInfo _, _⟩ => false
  | _ => true

def Phase.shown? : Phase → Option (PulledRequest × PresentationId)
  | .shown request presentationId => some (request, presentationId)
  | _ => none

def Process.asks (process : Process) : Option AgentOp :=
  match process.program with
  | .op o _ => some o
  | _ => none

namespace World

/-- The daemon holds the request under this presentation, and no result of it is under way. -/
def StillShown (s : World) (id : RequestId) (presentationId : PresentationId) : Prop :=
  (∃ r ∈ s.store.getRequest id, r.status = .pendingUserApproval ∧
      r.presentation.map PresentationLease.presentationId = some presentationId) ∧
    ∀ connection ∈ s.connections, connection.reply = none → resolves id connection.call = false

/-- The condition holds of each record whose effect was performed and whose result is not in. -/
def Spares (s : World) (P : RequestRecord → Prop) : Prop :=
  ∀ id ∈ s.performed, ∀ r ∈ s.store.getRequest id, r.status = .pendingUserApproval → P r

/-- An effect finds its request still shown, and the account is found again after an effect. -/
def Answerable (s : World) (told : Told) (x : Answered AgentOp.Answer) : Prop :=
  (performs x = true → ∀ shown ∈ (phaseOf told).shown?, s.StillShown shown.1.requestId shown.2) ∧
    ((phaseOf told).isActed = true → foundAgain x = true)

/-- Nothing comes between an effect and the daemon's approval: the request is still shown when the
effect takes place, the process lives on until it has sent the result, and the daemon gets the
result in time and before a cancellation, an accepted rejection or a tick that finds it due. -/
def Undisturbed (s : World) : Event → Prop
  | .answer reply => ∀ process ∈ s.process, ∀ o ∈ process.asks,
    s.Answerable process.told ⟨o, reply o⟩
  | .stop => ∀ process ∈ s.process, process.waitsOn = none → (phaseOf process.told).isActed = false
  | .handle i env => ∀ connection ∈ s.connections[i]?, connection.reply = none →
    s.Spares fun r => refuses env r connection.call = false ∧
      (resolves r.requestId connection.call = true → presentationExpired (env.now 0) r = false)
  | .other x => s.Spares fun r => ends x.env r x.command = false
  | _ => True

/-! ## The invariant -/

/-- The record of a request that the agent was given. -/
def Knows (s : World) (agent : LocalAccountAgent) (request : PulledRequest) : Prop :=
  ∃ r, s.store.getRequest request.requestId = some r ∧ r.kind = request.kind ∧
    r.walletInstanceId = agent.walletInstanceId

/-- The process is about to send the result of the request. -/
def Concluding (s : World) (id : RequestId) (presentationId : PresentationId) (kind : RequestKind) :
    Prop :=
  ∃ process request, s.process = some process ∧ process.waitsOn = none ∧
    phaseOf process.told = .acted request presentationId ∧ request.requestId = id ∧ request.kind = kind

/-- The result of the request is on its way. -/
def Sending (s : World) (agent : LocalAccountAgent) (id : RequestId) (presentationId : PresentationId)
    (kind : RequestKind) : Prop :=
  ∃ (i : ℕ) (result : RequestResult), s.connections[i]? =
      some ⟨.requestResolve (sent (agent.resolveParams id presentationId result)), none⟩ ∧
    result.resultKind = kind.expectedResultKind

/-- The request is approved, or its result is to come and the daemon waits for it. -/
def Settled (s : World) (agent : LocalAccountAgent) (id : RequestId) : Prop :=
  ∃ r, s.store.getRequest id = some r ∧ r.walletInstanceId = agent.walletInstanceId ∧
    (r.status = .approved ∨ ∃ presentationId, r.Awaits presentationId ∧
      (s.Concluding id presentationId r.kind ∨ s.Sending agent id presentationId r.kind))

/-- What a process does, and what it waits for. -/
structure Runs (s : World) (agent : LocalAccountAgent) (process : Process) : Prop where
  proceeds : Meets agent.Proceeds (fun _ _ => True) process.told process.program
  waits : ∀ i ∈ process.waitsOn, ∃ (o : AgentOp) (k : o.Answer → AgentProg Unit) (call : DaemonCall)
    (reply : Option Reply), process.program = .op o k ∧ o.call? = some call ∧
    s.connections[i]? = some ⟨call, reply⟩
  knows : ∀ request, (phaseOf process.told).request? = some request → s.Knows agent request

/-- A connection carries a call of the agent, and delivers a request the daemon knows. -/
structure Carries (s : World) (agent : LocalAccountAgent) (connection : Connection) : Prop where
  call : ∃ o : AgentOp, o.call? = some connection.call ∧
    ∀ w, o = .requestPullNext w → w = agent.walletInstanceId
  delivers : ∀ reply ∈ connection.reply, ∀ request, deliveredBy reply = some request →
    s.Knows agent request

structure Sound (s : World) (agent : LocalAccountAgent) : Prop where
  wellFormed : s.store.WellFormed
  runs : ∀ process ∈ s.process, s.Runs agent process
  carries : ∀ connection ∈ s.connections, s.Carries agent connection
  once : s.performed.Nodup
  settled : ∀ id ∈ s.performed, s.Settled agent id

/-! ### What the daemon does -/

section Preserved

variable {d : Daemon} {agent : LocalAccountAgent} {s s' : World} {id : RequestId}
  {presentationId : PresentationId} {kind : RequestKind}

theorem knows_step {request : PulledRequest} {x : Step} (hs : s.store.WellFormed)
    (h : s.Knows agent request) (hstore : s'.store = d.coordinator.step s.store x) :
    s'.Knows agent request := by
  obtain ⟨r, hr, hkind, hwallet⟩ := h
  obtain ⟨r', hr', hidentity⟩ := step_identity (c := d.coordinator) hs hr x
  refine ⟨r', ?_, (kind_of_identity hidentity).trans hkind,
    (walletInstanceId_of_identity hidentity).trans hwallet⟩
  rw [hstore]
  exact hr'

theorem knows_of_store {request : PulledRequest} (h : s.Knows agent request)
    (hstore : s'.store = s.store) : s'.Knows agent request := by
  unfold Knows at *
  rw [hstore]
  exact h

/-- A command that does not give the request up leaves it settled, as long as its result is still to
come. -/
theorem settled_step {x : Step} (hs : s.store.WellFormed) (h : s.Settled agent id)
    (hstore : s'.store = d.coordinator.step s.store x)
    (hgives : ∀ r, s.store.getRequest id = some r → r.walletInstanceId = agent.walletInstanceId →
      r.status = .pendingUserApproval → ¬ GivesUp x.env r x.command)
    (hcome : ∀ r presentationId, s.store.getRequest id = some r → r.Awaits presentationId →
      s.Concluding id presentationId r.kind ∨ s.Sending agent id presentationId r.kind →
        s'.Concluding id presentationId r.kind ∨ s'.Sending agent id presentationId r.kind) :
    s'.Settled agent id := by
  obtain ⟨r, hr, hwallet, hstate⟩ := h
  unfold Settled
  rw [hstore]
  rcases hstate with happroved | ⟨presentationId, hawaits, hanswer⟩
  · obtain ⟨r', hr', hidentity, happroved'⟩ := step_approved (c := d.coordinator) hs hr happroved x
    exact ⟨r', hr', (walletInstanceId_of_identity hidentity).trans hwallet, .inl happroved'⟩
  · obtain ⟨r', hr', hidentity, hnext⟩ :=
      step_awaits (c := d.coordinator) hs hr hawaits x (hgives r hr hwallet hawaits.status)
    refine ⟨r', hr', (walletInstanceId_of_identity hidentity).trans hwallet, ?_⟩
    rcases hnext with hawaits' | happroved'
    · right
      refine ⟨presentationId, hawaits', ?_⟩
      rw [kind_of_identity hidentity]
      exact hcome _ _ hr hawaits hanswer
    · exact .inl happroved'

theorem settled_of_store (h : s.Settled agent id) (hstore : s'.store = s.store)
    (hcome : ∀ r presentationId, s.store.getRequest id = some r → r.Awaits presentationId →
      s.Concluding id presentationId r.kind ∨ s.Sending agent id presentationId r.kind →
        s'.Concluding id presentationId r.kind ∨ s'.Sending agent id presentationId r.kind) :
    s'.Settled agent id := by
  obtain ⟨r, hr, hwallet, hstate⟩ := h
  unfold Settled
  rw [hstore]
  refine ⟨r, hr, hwallet, ?_⟩
  rcases hstate with happroved | ⟨presentationId, hawaits, hanswer⟩
  · exact .inl happroved
  · exact .inr ⟨presentationId, hawaits, hcome _ _ hr hawaits hanswer⟩

theorem runs_of_knows {process : Process} (h : s.Runs agent process)
    (hconnections : ∀ (i : ℕ) call reply, s.connections[i]? = some ⟨call, reply⟩ →
      ∃ reply', s'.connections[i]? = some ⟨call, reply'⟩)
    (hknows : ∀ request, s.Knows agent request → s'.Knows agent request) : s'.Runs agent process := by
  refine ⟨h.proceeds, ?_, fun request hrequest => hknows request (h.knows request hrequest)⟩
  intro i hi
  obtain ⟨o, k, call, reply, hprogram, hcall, hconnection⟩ := h.waits i hi
  obtain ⟨reply', hconnection'⟩ := hconnections i call reply hconnection
  exact ⟨o, k, call, reply', hprogram, hcall, hconnection'⟩

theorem carries_of_knows {connection : Connection} (h : s.Carries agent connection)
    (hknows : ∀ request, s.Knows agent request → s'.Knows agent request) :
    s'.Carries agent connection :=
  ⟨h.call, fun reply hreply request hrequest => hknows request (h.delivers reply hreply request hrequest)⟩

/-- A command of somebody else. -/
theorem sound_other {x : Step} (h : s.Sound agent)
    (hother : speaksFor agent.walletInstanceId x.command = false)
    (hspares : s.Spares fun r => ends x.env r x.command = false) :
    Sound { s with store := d.coordinator.step s.store x } agent := by
  have hknows : ∀ request, s.Knows agent request →
      Knows { s with store := d.coordinator.step s.store x } agent request :=
    fun request hrequest => knows_step h.wellFormed hrequest rfl
  refine ⟨step_wellFormed x h.wellFormed, ?_, ?_, h.once, ?_⟩
  · intro process hprocess
    exact runs_of_knows (h.runs process hprocess) (fun i call reply hi => ⟨reply, hi⟩) hknows
  · intro connection hconnection
    exact carries_of_knows (h.carries connection hconnection) hknows
  · intro id hid
    apply settled_step h.wellFormed (h.settled id hid) rfl
    · intro r hr hwallet hstatus hgives
      have hspared := hspares id hid r hr hstatus
      generalize hcommand : x.command = command at hgives hspared hother
      cases hgives with
      | cancel => simp [ends] at hspared
      | reject hrejected hw hcheck =>
        simp only [speaksFor, decide_eq_false_iff_not] at hother
        exact hother (hw.trans hwallet)
      | expire hdue => simp [ends, hdue] at hspared
      | release hdue => simp [ends, hdue] at hspared
    · exact fun _ _ _ _ hanswer => hanswer

theorem getElem?_set_of_ne {l : List Connection} {i j : ℕ} {c : Connection} (h : j ≠ i) :
    (l.set i c)[j]? = l[j]? := by
  rw [List.getElem?_set, if_neg (Ne.symm h)]

theorem resolves_resolveParams (agent : LocalAccountAgent) (id : RequestId)
    (presentationId : PresentationId) (result : RequestResult) :
    resolves id (.requestResolve (sent (agent.resolveParams id presentationId result))) = true := by
  cases result <;> exact decide_eq_true rfl

/-- No call of the agent but an accepted rejection gives a request up. -/
theorem not_givesUp_of_commands {o : AgentOp} {call : DaemonCall} {command : CoordinatorCommand}
    {env : Env} {r : RequestRecord} (hcall : o.call? = some call) (hcommand : Commands o command)
    (hrefuses : refuses env r call = false) : ¬ GivesUp env r command := by
  intro hgives
  cases hcommand with
  | reject =>
    cases hgives with
    | reject hid hwallet hcheck =>
      cases hcall
      simp [refuses, sent, hid, hcheck, Except.isOk, Except.toBool] at hrefuses
  | register | update | pull | present | resolve => cases hgives

/-- One of the agent's own calls. -/
theorem sound_handle {i : ℕ} {env : Env} {call : DaemonCall} (h : s.Sound agent)
    (hopen : s.connections[i]? = some ⟨call, none⟩)
    (hspares : s.Spares fun r => refuses env r call = false ∧
      (resolves r.requestId call = true → presentationExpired (env.now 0) r = false)) :
    Sound { s with
      store := (d.dispatchCall env clientId call s.store).2
      connections := s.connections.set i ⟨call, some (d.dispatchCall env clientId call s.store).1⟩ }
      agent := by
  obtain ⟨o, hcall, hpull⟩ := (h.carries _ (List.mem_of_getElem? hopen)).call
  have hhandled : Handled d env s.store o (d.dispatchCall env clientId call s.store).1
      (d.dispatchCall env clientId call s.store).2 := handled_dispatchCall hcall
  generalize hreply : (d.dispatchCall env clientId call s.store).1 = reply at *
  generalize hstore : (d.dispatchCall env clientId call s.store).2 = store' at *
  generalize hafter : ({ s with store := store', connections := s.connections.set i ⟨call, some reply⟩ } :
    World) = s'
  have hstore' : s'.store = store' := by rw [← hafter]
  have hprocess : s'.process = s.process := by rw [← hafter]
  have hconnections : s'.connections = s.connections.set i ⟨call, some reply⟩ := by rw [← hafter]
  have hperformed : s'.performed = s.performed := by rw [← hafter]
  have hlength : i < s.connections.length := (List.getElem?_eq_some_iff.mp hopen).1
  have hknows : ∀ request, s.Knows agent request → s'.Knows agent request := by
    intro request hrequest
    rcases hhandled.store with hsame | ⟨command, -, hstep⟩
    · exact knows_of_store hrequest (hstore'.trans hsame)
    · exact knows_step h.wellFormed hrequest (hstore'.trans hstep)
  have hothers : ∀ j, j ≠ i → s'.connections[j]? = s.connections[j]? := by
    intro j hj
    rw [hconnections, getElem?_set_of_ne hj]
  refine ⟨?_, ?_, ?_, ?_, ?_⟩
  · rw [hstore']
    rcases hhandled.store with hsame | ⟨command, -, hstep⟩
    · rw [hsame]
      exact h.wellFormed
    · rw [hstep]
      exact step_wellFormed _ h.wellFormed
  · intro process hp
    rw [hprocess] at hp
    apply runs_of_knows (h.runs process hp) _ hknows
    intro j call' reply' hj
    by_cases hij : j = i
    · subst hij
      rw [hopen] at hj
      cases hj
      refine ⟨some reply, ?_⟩
      rw [hconnections, List.getElem?_set_self hlength]
    · exact ⟨reply', by rw [hothers j hij, hj]⟩
  · intro connection hmem
    rw [hconnections] at hmem
    rcases List.mem_or_eq_of_mem_set hmem with hmem | rfl
    · exact carries_of_knows (h.carries connection hmem) hknows
    · refine ⟨⟨o, hcall, hpull⟩, ?_⟩
      intro reply' hreply' request hrequest
      cases hreply'
      obtain ⟨w, result, ho, hresult, hdispatch⟩ := hhandled.delivered request hrequest
      obtain ⟨r, hr, hkind, hwallet⟩ := record_of_pull hdispatch hresult
      exact hknows request ⟨r, hr, hkind, hwallet.trans (hpull w ho)⟩
  · rw [hperformed]
    exact h.once
  · intro id hid
    rw [hperformed] at hid
    -- either this is the call that brings the result, or the result is still to come
    by_cases hbrings : ∃ r presentationId result, s.store.getRequest id = some r ∧
        r.Awaits presentationId ∧ result.resultKind = r.kind.expectedResultKind ∧
        call = .requestResolve (sent (agent.resolveParams id presentationId result))
    · obtain ⟨r, presentationId, result, hr, hawaits, hkind, rfl⟩ := hbrings
      obtain ⟨r₀, hr₀, hwallet, -⟩ := h.settled id hid
      cases hr.symm.trans hr₀
      have hid' := Store.getRequest_requestId hr
      have hresolves := resolves_resolveParams agent id presentationId result
      have hlive := (hspares id hid r hr hawaits.status).2 (by rw [hid']; exact hresolves)
      obtain ⟨r', hr', hidentity, happroved⟩ := step_resolve_awaiting (c := d.coordinator)
        (m := ⟨id, agent.walletInstanceId, presentationId, result⟩) hr rfl hwallet.symm hawaits hkind hlive
      refine ⟨r', ?_, (walletInstanceId_of_identity hidentity).trans hwallet, .inl happroved⟩
      rw [hstore', ← hstore, dispatch_resolve]
      exact hr'
    · have hcome : ∀ r presentationId, s.store.getRequest id = some r → r.Awaits presentationId →
          s.Concluding id presentationId r.kind ∨ s.Sending agent id presentationId r.kind →
            s'.Concluding id presentationId r.kind ∨ s'.Sending agent id presentationId r.kind := by
        rintro r presentationId hr hawaits (⟨process, request, hp, hrest⟩ | ⟨j, result, hj, hkind⟩)
        · exact .inl ⟨process, request, hprocess.trans hp, hrest⟩
        · right
          refine ⟨j, result, ?_, hkind⟩
          rw [hothers j ?_, hj]
          rintro rfl
          rw [hopen] at hj
          cases hj
          exact hbrings ⟨r, presentationId, result, hr, hawaits, hkind, rfl⟩
      rcases hhandled.store with hsame | ⟨command, hcommand, hstep⟩
      · exact settled_of_store (h.settled id hid) (hstore'.trans hsame) hcome
      · apply settled_step h.wellFormed (h.settled id hid) (hstore'.trans hstep) _ hcome
        intro r hr hwallet hstatus
        exact not_givesUp_of_commands hcall hcommand (hspares id hid r hr hstatus).1

/-! ### What a process does -/

theorem sound_start {rounds : ℕ} (h : s.Sound agent) (hprocess : s.process = none) :
    Sound { s with process := some ⟨[], agent.run rounds, none⟩ } agent := by
  refine ⟨h.wellFormed, ?_, ?_, h.once, ?_⟩
  · rintro process ⟨⟩
    refine ⟨(meets_run_phase agent rounds).imp_post fun _ _ _ => trivial, ?_, ?_⟩
    · rintro i ⟨⟩
    · rintro request ⟨⟩
  · intro connection hconnection
    exact carries_of_knows (h.carries connection hconnection) fun _ hrequest => hrequest
  · intro id hid
    apply settled_of_store (h.settled id hid)
    · rfl
    rintro r presentationId - - (⟨process, request, hp, -⟩ | hsending)
    · rw [hprocess] at hp
      cases hp
    · exact .inr hsending

theorem sound_stop (h : s.Sound agent)
    (hidle : ∀ process ∈ s.process, process.waitsOn = none → (phaseOf process.told).isActed = false) :
    Sound { s with process := none } agent := by
  refine ⟨h.wellFormed, ?_, ?_, h.once, ?_⟩
  · rintro process ⟨⟩
  · intro connection hconnection
    exact carries_of_knows (h.carries connection hconnection) fun _ hrequest => hrequest
  · intro id hid
    apply settled_of_store (h.settled id hid)
    · rfl
    rintro r presentationId - - (⟨process, request, hp, hwaits, hacted, -⟩ | hsending)
    · have hquiet := hidle process hp hwaits
      rw [hacted] at hquiet
      cases hquiet
    · exact .inr hsending

section Told

variable {told : Told} {o : AgentOp} {k : o.Answer → AgentProg Unit} {waitsOn : Option ℕ}

/-- The process goes on after an answer that delivers no request the daemon does not know. -/
theorem runs_resume {x : o.Answer} (hruns : s.Runs agent ⟨told, .op o k, waitsOn⟩)
    (hpulled : ∀ w request, (⟨o, x⟩ : Answered AgentOp.Answer) =
      ⟨.requestPullNext w, .ok (some request)⟩ → s.Knows agent request)
    (hstore : s'.store = s.store) : s'.Runs agent ⟨told ++ [⟨o, x⟩], k x, none⟩ := by
  refine ⟨hruns.proceeds.2 x, ?_, ?_⟩
  · rintro i ⟨⟩
  · intro request hrequest
    rw [phaseOf_snoc] at hrequest
    apply knows_of_store _ hstore
    rcases request_of_next hrequest with ⟨w, hx⟩ | ⟨hbefore, -⟩
    · exact hpulled w request hx
    · exact hruns.knows request hbefore

theorem sound_call {call : DaemonCall} (h : s.Sound agent)
    (hprocess : s.process = some ⟨told, .op o k, none⟩) (hcall : o.call? = some call) :
    Sound { s with
      process := some ⟨told, .op o k, some s.connections.length⟩
      connections := s.connections ++ [⟨call, none⟩] } agent := by
  have hruns := h.runs _ hprocess
  have hkept : ∀ {i : ℕ} {c : Connection}, s.connections[i]? = some c →
      (s.connections ++ [⟨call, none⟩])[i]? = some c := by
    intro i c hi
    rw [List.getElem?_append_left (List.getElem?_eq_some_iff.mp hi).1, hi]
  have hnew : (s.connections ++ [⟨call, none⟩])[s.connections.length]? = some ⟨call, none⟩ :=
    List.getElem?_concat_length
  refine ⟨h.wellFormed, ?_, ?_, h.once, ?_⟩
  · rintro process ⟨⟩
    refine ⟨hruns.proceeds, ?_, hruns.knows⟩
    rintro i ⟨⟩
    exact ⟨o, k, call, none, rfl, hcall, hnew⟩
  · intro connection hconnection
    rcases List.mem_append.mp hconnection with hold | hlast
    · exact carries_of_knows (h.carries connection hold) fun _ hrequest => hrequest
    · rw [List.mem_singleton.mp hlast]
      refine ⟨⟨o, hcall, hruns.proceeds.1.pull⟩, ?_⟩
      rintro reply ⟨⟩
  · intro id hid
    apply settled_of_store (h.settled id hid)
    · rfl
    rintro r presentationId - - (⟨process, request, hp, -, hacted, rfl, hkind⟩ | ⟨i, result, hi, hresult⟩)
    · right
      rw [hprocess] at hp
      cases hp
      -- the call of a process that has acted is the one that sends the result
      rcases hruns.proceeds.1.acted request presentationId hacted with hafter | ⟨result, rfl, hresult⟩
      · cases o with
        | accountInfo | popPresentedRequest => cases hcall
        | _ => cases hafter
      · cases hcall
        rw [← hkind]
        exact ⟨s.connections.length, result, hnew, hresult⟩
    · exact .inr ⟨i, result, hkept hi, hresult⟩

/-- An answer of the daemon, or none: the process was not about to send, for it waited. -/
theorem sound_resume {i : ℕ} {x : o.Answer} (h : s.Sound agent)
    (hprocess : s.process = some ⟨told, .op o k, some i⟩)
    (hpulled : ∀ w request, (⟨o, x⟩ : Answered AgentOp.Answer) =
      ⟨.requestPullNext w, .ok (some request)⟩ → s.Knows agent request) :
    Sound (s.resume told k x) agent := by
  have hruns := h.runs _ hprocess
  refine ⟨h.wellFormed, ?_, ?_, h.once, ?_⟩
  · rintro process ⟨⟩
    exact runs_resume hruns hpulled rfl
  · intro connection hconnection
    exact carries_of_knows (h.carries connection hconnection) fun _ hrequest => hrequest
  · intro id hid
    apply settled_of_store (h.settled id hid)
    · rfl
    rintro r presentationId - - (⟨process, request, hp, hwaits, -⟩ | hsending)
    · rw [hprocess] at hp
      cases hp
      cases hwaits
    · exact .inr hsending

theorem next_of_aftermath {request : PulledRequest} {x : o.Answer} (ho : isAftermath o = true)
    (hfound : foundAgain ⟨o, x⟩ = true) :
    (Phase.acted request presentationId).next ⟨o, x⟩ = .acted request presentationId := by
  cases o with
  | accountInfo address =>
    match x with
    | .ok (some account) => rfl
    | .ok none => cases hfound
    | .error e => cases hfound
  | popPresentedRequest requestId => rfl
  | _ => cases ho

/-- A request that is still shown was not acted upon before. -/
theorem fresh_of_stillShown {request : PulledRequest} (h : s.Sound agent)
    (hprocess : s.process = some ⟨told, .op o k, waitsOn⟩)
    (hshown : phaseOf told = .shown request presentationId)
    (hstill : s.StillShown request.requestId presentationId) : request.requestId ∉ s.performed := by
  intro hmem
  obtain ⟨⟨r, hr, hstatus, -⟩, hunsent⟩ := hstill
  obtain ⟨r', hr', -, hstate⟩ := h.settled _ hmem
  cases Option.mem_def.mp hr ▸ hr'
  rcases hstate with happroved | ⟨presentationId', -,
    ⟨process, request', hp, -, hacted, -⟩ | ⟨i, result, hi, -⟩⟩
  · rw [hstatus] at happroved
    cases happroved
  · rw [hprocess] at hp
    cases hp
    rw [hshown] at hacted
    cases hacted
  · have hresolves := hunsent _ (List.mem_of_getElem? hi) rfl
    rw [resolves_resolveParams] at hresolves
    cases hresolves

/-- The user, the account manager or the file system. -/
theorem sound_answer {x : o.Answer} (h : s.Sound agent)
    (hprocess : s.process = some ⟨told, .op o k, none⟩) (hlocal : o.call? = none)
    (hanswerable : s.Answerable told ⟨o, x⟩) :
    Sound { s.resume told k x with performed := s.logged told ⟨o, x⟩ } agent := by
  have hruns := h.runs _ hprocess
  generalize hafter : ({ s.resume told k x with performed := s.logged told ⟨o, x⟩ } : World) = s'
  have hstore : s'.store = s.store := by rw [← hafter]; rfl
  have hconnections : s'.connections = s.connections := by rw [← hafter]; rfl
  have hprocess' : s'.process = some ⟨told ++ [⟨o, x⟩], k x, none⟩ := by rw [← hafter]; rfl
  have hperformed : s'.performed = s.logged told ⟨o, x⟩ := by rw [← hafter]
  have hsending : ∀ {id presentationId kind}, s.Sending agent id presentationId kind →
      s'.Sending agent id presentationId kind := by
    intro id presentationId kind hsend
    unfold Sending
    rw [hconnections]
    exact hsend
  have hruns' : ∀ process ∈ s'.process, s'.Runs agent process := by
    intro process hp
    rw [hprocess'] at hp
    cases hp
    apply runs_resume hruns _ hstore
    intro w request hx
    cases hx
    cases hlocal
  have hcarries : ∀ connection ∈ s'.connections, s'.Carries agent connection := by
    intro connection hconnection
    rw [hconnections] at hconnection
    exact carries_of_knows (h.carries connection hconnection) fun _ hrequest =>
      knows_of_store hrequest hstore
  have hwellFormed : s'.store.WellFormed := by
    rw [hstore]
    exact h.wellFormed
  by_cases hperforms : performs ⟨o, x⟩ = true
  · have heffect := isEffect_of_performs hperforms
    obtain ⟨request, presentationId, hshown⟩ := hruns.proceeds.1.effect heffect
    have hphase : (phaseOf told).request? = some request := by
      rw [hshown]
      rfl
    have hstill : s.StillShown request.requestId presentationId :=
      hanswerable.1 hperforms (request, presentationId) (by rw [hshown]; rfl)
    have hfresh := fresh_of_stillShown h hprocess hshown hstill
    have hlogged : s'.performed = s.performed ++ [request.requestId] := by
      rw [hperformed]
      unfold logged
      rw [if_pos hperforms, lastPulled_of_phase hphase]
      rfl
    have hacted : phaseOf (told ++ [⟨o, x⟩]) = .acted request presentationId := by
      rw [phaseOf_snoc, hshown, next_of_effect x heffect, if_pos hperforms]
      rfl
    refine ⟨hwellFormed, hruns', hcarries, ?_, ?_⟩
    · rw [hlogged]
      exact List.Nodup.append h.once (List.nodup_singleton _) (List.disjoint_singleton.mpr hfresh)
    · intro id hid
      rw [hlogged] at hid
      rcases List.mem_append.mp hid with hold | hnew
      · apply settled_of_store (h.settled id hold) hstore
        rintro r presentationId' - - (⟨process, request', hp, -, hacted', -⟩ | hsend)
        · rw [hprocess] at hp
          cases hp
          rw [hshown] at hacted'
          cases hacted'
        · exact .inr (hsending hsend)
      · rw [List.mem_singleton.mp hnew]
        obtain ⟨⟨r, hr, hstatus, hpresentation⟩, -⟩ := hstill
        obtain ⟨r₀, hr₀, hkind, hwallet⟩ := hruns.knows request hphase
        cases Option.mem_def.mp hr ▸ hr₀
        refine ⟨r, by rw [hstore]; exact hr, hwallet, .inr ⟨presentationId, ⟨hstatus, hpresentation⟩, ?_⟩⟩
        exact .inl ⟨_, request, hprocess', rfl, hacted, rfl, hkind.symm⟩
  · have hlogged : s'.performed = s.performed := by
      rw [hperformed]
      unfold logged
      rw [if_neg hperforms]
    refine ⟨hwellFormed, hruns', hcarries, ?_, ?_⟩
    · rw [hlogged]
      exact h.once
    · intro id hid
      rw [hlogged] at hid
      apply settled_of_store (h.settled id hid) hstore
      rintro r presentationId - - (⟨process, request, hp, -, hacted, hrest⟩ | hsend)
      · left
        rw [hprocess] at hp
        cases hp
        have hfound := hanswerable.2 (by rw [hacted]; rfl)
        rcases hruns.proceeds.1.acted request presentationId hacted with hafter | ⟨result, rfl, -⟩
        · refine ⟨_, request, hprocess', rfl, ?_, hrest⟩
          rw [phaseOf_snoc, hacted]
          exact next_of_aftermath hafter hfound
        · cases hlocal
      · exact .inr (hsending hsend)

theorem deliveredBy_of_read {w : WalletInstanceId} {reply : Reply} {request : PulledRequest}
    (h : (AgentOp.requestPullNext w).read reply = some (.ok (some request))) :
    deliveredBy reply = some request := by
  change reply.decode pulled = _ at h
  unfold Reply.decode at h
  cases reply with
  | error response => cases h
  | ok result =>
    obtain ⟨next, hnext, heq⟩ := Option.map_eq_some_iff.mp h
    cases heq
    unfold pulled at hnext
    split at hnext
    · exact Option.some.inj hnext
    · cases hnext

end Told

/-! ### Runs -/

theorem sound_initial (agent : LocalAccountAgent) : initial.Sound agent := by
  refine ⟨?_, ?_, ?_, List.nodup_nil, ?_⟩
  · intro id r hr
    cases hr
  · rintro process ⟨⟩
  · intro connection hconnection
    cases hconnection
  · intro id hid
    cases hid

theorem sound_step {e : Event} (h : s.Sound agent) (hundisturbed : s.Undisturbed e) :
    (s.step d agent e).Sound agent := by
  have hmoves := step_moves d agent s e
  generalize s.step d agent e = s' at hmoves
  cases hmoves with
  | idle => exact h
  | start hprocess => exact sound_start h hprocess
  | stop => exact sound_stop h hundisturbed
  | answer hprocess hlocal =>
    exact sound_answer h hprocess hlocal (hundisturbed _ hprocess _ rfl)
  | call hprocess hcall => exact sound_call h hprocess hcall
  | handle hopen => exact sound_handle h hopen (hundisturbed _ hopen rfl)
  | receive hprocess hreply hread =>
    apply sound_resume h hprocess
    intro w request hx
    cases hx
    have hcarries := h.carries _ (List.mem_of_getElem? hreply)
    exact hcarries.delivers _ rfl request (deliveredBy_of_read hread)
  | giveUp hprocess hread =>
    apply sound_resume h hprocess
    intro w request hx
    cases hx
    cases deliveredBy_of_read hread
  | other hother => exact sound_other h hother hundisturbed

theorem sound_run {events before : List Event}
    (h : Trace.Along (step d agent) Undisturbed initial events) (hbefore : before <+: events) :
    (run d agent before).Sound agent :=
  h.invariant (sound_initial agent) (fun _ _ => sound_step) before hbefore

end Preserved

/-- No effect is performed twice, and none of a request that ended otherwise than approved. -/
structure EffectsOnce (s : World) : Prop where
  once : ∀ id, s.performed.count id ≤ 1
  onlyApproved : ∀ id r, s.store.getRequest id = some r →
    r.status ∈ [RequestStatus.cancelled, .expired, .rejected, .failed] → id ∉ s.performed

theorem Sound.effectsOnce {agent : LocalAccountAgent} {s : World} (h : s.Sound agent) : s.EffectsOnce := by
  refine ⟨List.nodup_iff_count_le_one.mp h.once, ?_⟩
  intro id r hr hended hmem
  obtain ⟨r', hr', -, hstate⟩ := h.settled id hmem
  cases hr.symm.trans hr'
  rcases hstate with happroved | ⟨presentationId, hawaits, -⟩
  · rw [happroved] at hended
    revert hended
    decide
  · rw [hawaits.status] at hended
    revert hended
    decide

/-- As long as nothing comes between an effect and its approval, every request has its effect once at
most, and only if it does not end otherwise than approved. -/
theorem effects_once_of_undisturbed (d : Daemon) (agent : LocalAccountAgent) (events : List Event)
    (h : Trace.Along (step d agent) Undisturbed initial events) :
    ∀ before, before <+: events → (run d agent before).EffectsOnce :=
  fun _ hbefore => (sound_run h hbefore).effectsOnce

instance (s : World) (id : RequestId) (presentationId : PresentationId) :
    Decidable (s.StillShown id presentationId) :=
  inferInstanceAs (Decidable ((∃ r ∈ s.store.getRequest id, _) ∧ ∀ connection ∈ s.connections, _))

instance (s : World) (P : RequestRecord → Prop) [DecidablePred P] : Decidable (s.Spares P) :=
  inferInstanceAs (Decidable (∀ id ∈ s.performed, ∀ r ∈ s.store.getRequest id, _))

instance (s : World) (told : Told) (x : Answered AgentOp.Answer) : Decidable (s.Answerable told x) :=
  inferInstanceAs (Decidable (_ ∧ _))

instance Undisturbed.decidable (s : World) : ∀ e, Decidable (s.Undisturbed e)
  | .answer reply => inferInstanceAs (Decidable (∀ process ∈ s.process, ∀ o ∈ process.asks,
      s.Answerable process.told ⟨o, reply o⟩))
  | .stop => inferInstanceAs (Decidable (∀ process ∈ s.process, _ → _))
  | .handle i _ => inferInstanceAs (Decidable (∀ connection ∈ s.connections[i]?, _ → s.Spares _))
  | .other x => inferInstanceAs (Decidable (s.Spares fun r => ends x.env r x.command = false))
  | .start _ | .call | .receive | .giveUp _ => isTrue trivial

end World

/-! ## One account to create -/

namespace Sample

/-- A user who approves, and an account manager that creates the account. -/
def approves : (o : AgentOp) → o.Answer
  | .listAccountInfos => .ok []
  | .accountInfo _ => .ok (some ⟨coreCodeAddress, [1], true, false, false⟩)
  | .unlockAccount .. => .ok ()
  | .signTxn .. => .error "not supported"
  | .signMessage .. => .error "not supported"
  | .createAccount _ => .ok coreCodeAddress
  | .importAccount .. => .error "not supported"
  | .exportAccount .. => .error "not supported"
  | .readToString _ => .error "not supported"
  | .writePrivateKeyFile .. => .ok ()
  | .promptForRequest .. => .ok ⟨true, some "password"⟩
  | .promptForCreateAccount .. => .ok ⟨true, some "password"⟩
  | .promptForImportAccount .. => .ok ⟨true, some "password"⟩
  | .newPresentationId => Session.presentation
  | .setLockState _ => ()
  | .pushPresentedRequest _ => ()
  | .popPresentedRequest _ => ()
  | .backendRegister _ => .ok true
  | .backendUpdateAccounts _ => .ok ()
  | .requestPullNext _ => .ok none
  | .requestPresented _ => .ok ()
  | .requestResolve _ => .ok ()
  | .requestReject _ => .ok ()
  | .sleep => ()

def answers (n : ℕ) : List Event := List.replicate n (.answer approves)

/-- A call that the daemon handles at once, over the next connection. -/
def exchange (i : ℕ) (t : TimestampMs) : List Event :=
  [.call, .handle i (Session.env t Session.lease₁), .receive]

/-- The agent registers, pulls and presents the request, and the user approves. -/
def approvedByUser : List Event :=
  .start 3 :: answers 2 ++ exchange 0 0 ++ answers 2 ++ [.other (Session.create 0)] ++ exchange 1 1000 ++
    answers 1 ++ exchange 2 2000 ++ answers 2

/-- The account is created and found again, and the result sent. -/
def created : List Event := answers 3 ++ exchange 3 3000

def cancelled : Event := .other ⟨Session.env 2500 Session.lease₁, .cancelRequest Session.request⟩

/-- The process ends after the account was created; the next one is given the request once more. -/
def restarted : List Event :=
  answers 1 ++ [.stop, .start 3] ++ answers 2 ++ exchange 3 3000 ++ answers 2 ++ exchange 4 4000 ++
    answers 1 ++ exchange 5 5000 ++ answers 3

end Sample

open Sample in
theorem effects_once_of_created :
    (World.run Session.daemon agent (approvedByUser ++ created)).performed = [Session.request] ∧
      ∀ before, before <+: approvedByUser ++ created →
        (World.run Session.daemon agent before).EffectsOnce :=
  ⟨by decide +kernel, World.effects_once_of_undisturbed Session.daemon agent _ (by decide +kernel)⟩

open Sample in
/-- An account is created for a request that was cancelled while the user was asked, and a second one
by a process that cannot know of the first. -/
theorem effect_despite_cancellation_or_repeated :
    ¬ (World.run Session.daemon agent (approvedByUser ++ cancelled :: created)).EffectsOnce ∧
      ¬ (World.run Session.daemon agent (approvedByUser ++ restarted)).EffectsOnce := by
  refine ⟨fun h => ?_, fun h => ?_⟩
  · generalize hrun : World.run Session.daemon agent (approvedByUser ++ cancelled :: created) = s at h
    have hstatus : (s.store.getRequest Session.request).map RequestRecord.status = some .cancelled := by
      rw [← hrun]
      decide +kernel
    have hperformed : Session.request ∈ s.performed := by
      rw [← hrun]
      decide +kernel
    obtain ⟨r, hr, hcancelled⟩ := Option.map_eq_some_iff.mp hstatus
    apply h.onlyApproved Session.request r hr _ hperformed
    rw [hcancelled]
    decide
  · have hcount : (World.run Session.daemon agent (approvedByUser ++ restarted)).performed.count
        Session.request = 2 := by decide +kernel
    have honce := h.once Session.request
    omega

end StarcoinMcp.Agent
