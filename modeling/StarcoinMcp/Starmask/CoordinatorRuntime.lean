import StarcoinMcp.Lib.Mailbox
import StarcoinMcp.Starmask.Protection
import StarcoinMcp.Starmask.Replies

/-! The daemon while it runs. One thread owns the coordinator and serves the commands of a channel
in the order in which they were sent. Every connection is a task of its own: it decodes its request,
sends at most one command and waits for the reply; the maintenance task sends ticks. The tasks take
their turns in any order, and yet every client gets the answer it would have got had the requests
been handled one at a time, each as a whole. -/

namespace StarcoinMcp.Starmask

open Coordinator FailState

/-! ## A request up to its command -/

/-- What the task of a connection does with its request: it answers right away, or sends one command
and makes its answer of the response. -/
inductive Turn
  | answer (reply : Except JsonRpcErrorResponse JsonRpcSuccess)
  | send (command : CoordinatorCommand) (project : CoordinatorResponse → Option JsonRpcSuccess)

namespace Turn

def ofPlan (id : String) : Plan → Turn
  | .refuse error => .answer (.error error)
  | .answer result => .answer (.ok ⟨id, result⟩)
  | .send command project => .send command fun response => (project response).map (JsonRpcSuccess.mk id)

/-- The command a request sends, if it sends one. -/
def command : Turn → Option CoordinatorCommand
  | .answer _ => none
  | .send command _ => some command

end Turn

namespace Daemon

/-- `dispatch_request` as far as the `await` of each method. -/
def turnOf (d : Daemon) (request : JsonRpcRequest) : Turn :=
  .ofPlan request.id (d.plan request.id request.call)

/-- `expect_response`, applied to what came back. -/
def receive {α : Type} (d : Daemon) (project : CoordinatorResponse → Option α) :
    CoreResult CoordinatorResponse → Except JsonRpcErrorResponse α
  | .error e => .error (mapRuntimeError e)
  | .ok response =>
    match project response with
    | some result => .ok result
    | none => .error (d.unexpectedResponse response)

/-- Without a pause between the command and its reply. -/
def carryOut (d : Daemon) (env : Env) : Turn → ServerM JsonRpcSuccess
  | .answer reply => FailState.lift reply
  | .send command project => fun s =>
    (d.receive project (d.coordinator.dispatch env command s).1, (d.coordinator.dispatch env command s).2)

end Daemon

section Turns

variable {d : Daemon} {env : Env} {id : String}

theorem receive_map {α β : Type} (f : α → β) (project : CoordinatorResponse → Option α)
    (reply : CoreResult CoordinatorResponse) :
    d.receive (fun response => (project response).map f) reply = (d.receive project reply).map f := by
  cases reply with
  | error e => rfl
  | ok response =>
    unfold Daemon.receive
    dsimp only
    cases project response <;> rfl

theorem carryOut_send {command : CoordinatorCommand} {s s' : Store} {reply : CoreResult CoordinatorResponse}
    (project : CoordinatorResponse → Option JsonRpcSuccess)
    (h : d.coordinator.dispatch env command s = (reply, s')) :
    d.carryOut env (.send command project) s = (d.receive project reply, s') := by
  unfold Daemon.carryOut
  dsimp only
  rw [h]

/-- A method that makes its answer as its plan says. -/
def Carried (d : Daemon) (env : Env) (id : String) (m : ServerM DaemonResult) (plan : Plan) : Prop :=
  (m >>= fun result => pure (JsonRpcSuccess.mk id result)) = d.carryOut env (.ofPlan id plan)

theorem carried_lift_bind {α : Type} {x : Except JsonRpcErrorResponse α} {k : α → ServerM DaemonResult}
    {k' : α → Plan} (h : ∀ a, Carried d env id (k a) (k' a)) :
    Carried d env id (FailState.lift x >>= k) (.decode x k') := by
  unfold Carried
  rw [FailState.bind_assoc]
  cases x with
  | error e => rfl
  | ok a => exact h a

theorem carried_expectResponse (command : CoordinatorCommand)
    (project : CoordinatorResponse → Option DaemonResult) :
    Carried d env id (d.expectResponse env command project) (.send command project) := by
  funext s
  cases hrun : d.coordinator.dispatch env command s with
  | mk reply s' =>
    have hexpect : d.expectResponse env command project s = (d.receive project reply, s') := by
      unfold Daemon.expectResponse Daemon.receive
      rw [hrun]
      cases reply with
      | error e => rfl
      | ok response =>
        dsimp only
        cases project response <;> rfl
    unfold Turn.ofPlan
    rw [carryOut_send _ hrun, receive_map]
    cases hreceive : d.receive project reply with
    | error e => exact bind_error (hexpect.trans (by rw [hreceive]))
    | ok result => exact bind_ok (hexpect.trans (by rw [hreceive]))

theorem carried_localBackend {w : WalletInstanceId}
    {k : LocalAccountDirBackendConfig → ServerM DaemonResult}
    {k' : LocalAccountDirBackendConfig → Plan} (h : ∀ config, Carried d env id (k config) (k' config)) :
    Carried d env id
      (match d.policy.configuredLocalBackend w with
        | none => FailState.throw ⟨id, backendNotAllowed⟩
        | some config => k config) (d.localBackendPlan id w k') := by
  unfold Daemon.localBackendPlan
  cases d.policy.configuredLocalBackend w with
  | none => rfl
  | some config => exact h config

theorem carried_dispatchCall (call : DaemonCall) :
    Carried d env id (d.dispatchCall env id call) (d.plan id call) := by
  cases call with
  | extensionRegister value =>
    refine carried_lift_bind fun v => ?_
    cases d.policy.acceptsExtension v.params.extensionId with
    | none => rfl
    | some config => exact carried_expectResponse _ _
  | backendRegister value =>
    exact carried_lift_bind fun v => carried_localBackend fun config =>
      carried_lift_bind fun _ => carried_expectResponse _ _
  | backendHeartbeat value =>
    exact carried_lift_bind fun v => carried_localBackend fun _ => carried_expectResponse _ _
  | backendUpdateAccounts value =>
    exact carried_lift_bind fun v => carried_localBackend fun config =>
      carried_lift_bind fun _ => carried_expectResponse _ _
  | requestResolve value =>
    exact carried_lift_bind fun v => carried_lift_bind fun _ => carried_expectResponse _ _
  | other method => rfl
  | _ => exact carried_lift_bind fun _ => carried_expectResponse _ _

theorem dispatchRequest_eq_carryOut (request : JsonRpcRequest) :
    d.dispatchRequest env request = d.carryOut env (d.turnOf request) :=
  carried_dispatchCall request.call

end Turns

/-! ## The tasks and the coordinator's thread -/

/-- A command on its way, with the connection that waits for the reply. The maintenance task sends
its commands in nobody's name. -/
structure CoordinatorEnvelope where
  command : CoordinatorCommand
  replyTo : Option ℕ

inductive ConnectionPhase
  | accepted
  | awaiting (ticket : ℕ) (project : CoordinatorResponse → Option JsonRpcSuccess)
  | answered (reply : Except JsonRpcErrorResponse JsonRpcSuccess)

/-- A connection whose request has been read and parsed. -/
structure Connection where
  request : JsonRpcRequest
  phase : ConnectionPhase

/-- Connections are known by the order in which they were accepted, commands by the order in which
they were sent. -/
structure Runtime where
  channel : Mailbox Store Env CoordinatorEnvelope (CoreResult CoordinatorResponse)
  connections : List Connection
  maintenance : Option ℕ

inductive RuntimeEvent
  | accept (request : JsonRpcRequest)
  | dispatch (i : ℕ)
  | tick
  | serve (env : Env)
  | receive (i : ℕ)
  | ticked

namespace Runtime

/-- What the thread of `spawn_coordinator` does with one envelope. -/
def handle (d : Daemon) (env : Env) (envelope : CoordinatorEnvelope) (s : Store) :
    CoreResult CoordinatorResponse × Store :=
  d.coordinator.dispatch env envelope.command s

def start (s : Store) : Runtime := ⟨.initial s, [], none⟩

/-- The task of connection `i` moves on. -/
def setPhase (w : Runtime) (i : ℕ) (phase : ConnectionPhase) : Runtime :=
  { w with connections := w.connections.modify i fun c => { c with phase := phase } }

def send (w : Runtime) (envelope : CoordinatorEnvelope) : Runtime :=
  { w with channel := w.channel.send envelope }

/-- The number of the command sent next. -/
def ticket (w : Runtime) : ℕ := w.channel.sent.length

/-- The task decodes its request, and either is done or sends its command. -/
def dispatch (d : Daemon) (w : Runtime) (i : ℕ) : Runtime :=
  match w.connections[i]? with
  | some ⟨request, .accepted⟩ =>
    match d.turnOf request with
    | .answer reply => w.setPhase i (.answered reply)
    | .send command project => (w.setPhase i (.awaiting w.ticket project)).send ⟨command, some i⟩
  | _ => w

/-- The task is woken by the reply to its command. -/
def receive (d : Daemon) (w : Runtime) (i : ℕ) : Runtime :=
  match w.connections[i]? with
  | some ⟨_, .awaiting ticket project⟩ =>
    match w.channel.replies[ticket]? with
    | some reply => w.setPhase i (.answered (d.receive project reply))
    | none => w
  | _ => w

/-- The maintenance task sends a tick, unless it still waits for the last one. -/
def tick (w : Runtime) : Runtime :=
  match w.maintenance with
  | none => { w.send ⟨.tickMaintenance, none⟩ with maintenance := some w.ticket }
  | some _ => w

def ticked (w : Runtime) : Runtime :=
  match w.maintenance with
  | some ticket => if ticket < w.channel.replies.length then { w with maintenance := none } else w
  | none => w

def step (d : Daemon) (w : Runtime) : RuntimeEvent → Runtime
  | .accept request => { w with connections := w.connections ++ [⟨request, .accepted⟩] }
  | .dispatch i => w.dispatch d i
  | .tick => w.tick
  | .serve env => { w with channel := w.channel.serve (handle d) env }
  | .receive i => w.receive d i
  | .ticked => w.ticked

def run (d : Daemon) (s : Store) (events : List RuntimeEvent) : Runtime :=
  Trace.run (step d) (start s) events

/-! ### What was served, told as whole requests -/

/-- The connection whose command was served at place `t`. -/
def servedFor (w : Runtime) (t : ℕ) : Option ℕ := w.channel.served[t]?.bind fun x => x.2.replyTo

/-- The step of the sequential daemon that a served command belongs to. -/
def stepOf (w : Runtime) (x : Env × CoordinatorEnvelope) : DaemonStep :=
  match x.2.replyTo.bind fun i => w.connections[i]? with
  | some connection => .request x.1 connection.request
  | none => .tick x.1

def history (w : Runtime) : List DaemonStep := w.channel.served.map w.stepOf

end Runtime

/-- The clients cannot tell the daemon from one that handles whole requests one after another, in
the order of `history`. -/
structure Linearized (d : Daemon) (s : Store) (w : Runtime) : Prop where
  store : w.channel.state = Trace.run d.step s w.history
  /-- An answer is the one at its place in the order, or one the store has no part in. -/
  answers : ∀ i request reply, w.connections[i]? = some ⟨request, .answered reply⟩ →
    (∃ t env, w.servedFor t = some i ∧ w.history[t]? = some (.request env request) ∧
      reply = (d.dispatchRequest env request (Trace.run d.step s (w.history.take t))).1) ∨
    ((∀ t, w.servedFor t ≠ some i) ∧ ∀ env s, d.dispatchRequest env request s = (reply, s))
  once : ∀ i t t', w.servedFor t = some i → w.servedFor t' = some i → t = t'

/-! ## What holds between the turns of the tasks -/

section Consistent

abbrev CommandChannel := Mailbox Store Env CoordinatorEnvelope (CoreResult CoordinatorResponse)

/-- No command was ever sent for connection `i`. -/
def Unsent (channel : CommandChannel) (i : ℕ) : Prop := ∀ e ∈ channel.sent, e.replyTo ≠ some i

/-- How far connection `i` has come, and what this says about the channel. -/
def Standing (d : Daemon) (channel : CommandChannel) (i : ℕ) (request : JsonRpcRequest) :
    ConnectionPhase → Prop
  | .accepted => Unsent channel i
  | .awaiting ticket project => ∃ command, d.turnOf request = .send command project ∧
      channel.sent[ticket]? = some (CoordinatorEnvelope.mk command (some i))
  | .answered reply => (d.turnOf request = .answer reply ∧ Unsent channel i) ∨
      ∃ (ticket : ℕ) (command : CoordinatorCommand) (project : CoordinatorResponse → Option JsonRpcSuccess)
        (r : CoreResult CoordinatorResponse), d.turnOf request = .send command project ∧
        channel.sent[ticket]? = some (CoordinatorEnvelope.mk command (some i)) ∧
          channel.replies[ticket]? = some r ∧
        reply = d.receive project r

/-- A command was sent by the task it says, and is the one of its request. -/
def SentBy (d : Daemon) (connections : List Connection) (e : CoordinatorEnvelope) : Prop :=
  match e.replyTo with
  | none => e.command = .tickMaintenance
  | some i => ∃ c, connections[i]? = some c ∧ (d.turnOf c.request).command = some e.command

structure Consistent (d : Daemon) (s : Store) (w : Runtime) : Prop where
  faithful : w.channel.Faithful (Runtime.handle d) s
  standing : ∀ i request phase, w.connections[i]? = some ⟨request, phase⟩ →
    Standing d w.channel i request phase
  sentBy : ∀ e ∈ w.channel.sent, SentBy d w.connections e
  once : ∀ (t t' : ℕ) (e e' : CoordinatorEnvelope) (i : ℕ), w.channel.sent[t]? = some e →
    w.channel.sent[t']? = some e' → e.replyTo = some i → e'.replyTo = some i → t = t'

variable {d : Daemon} {s : Store} {w : Runtime} {channel : CommandChannel} {i : ℕ}
  {request : JsonRpcRequest} {phase : ConnectionPhase} {e : CoordinatorEnvelope}

theorem Unsent.send (h : Unsent channel i) (he : e.replyTo ≠ some i) : Unsent (channel.send e) i := by
  intro e' he'
  rw [Mailbox.sent_send] at he'
  rcases List.mem_append.mp he' with hold | hnew
  · exact h e' hold
  · rw [List.mem_singleton.mp hnew]
    exact he

theorem Standing.send (h : Standing d channel i request phase) (he : e.replyTo ≠ some i) :
    Standing d (channel.send e) i request phase := by
  cases phase with
  | accepted => exact Unsent.send h he
  | awaiting ticket project =>
    obtain ⟨command, hplan, hsent⟩ := h
    exact ⟨command, hplan, Mailbox.sent_send_of_sent hsent⟩
  | answered reply =>
    rcases h with ⟨hplan, hunsent⟩ | ⟨ticket, command, project, r, hplan, hsent, hr, hreply⟩
    · exact .inl ⟨hplan, hunsent.send he⟩
    · exact .inr ⟨ticket, command, project, r, hplan, Mailbox.sent_send_of_sent hsent, hr, hreply⟩

theorem Standing.serve (h : Standing d channel i request phase) (env : Env) :
    Standing d (channel.serve (Runtime.handle d) env) i request phase := by
  cases phase with
  | accepted =>
    intro e he
    rw [Mailbox.sent_serve] at he
    exact h e he
  | awaiting ticket project =>
    obtain ⟨command, hplan, hsent⟩ := h
    refine ⟨command, hplan, ?_⟩
    rw [Mailbox.sent_serve, hsent]
  | answered reply =>
    rcases h with ⟨hplan, hunsent⟩ | ⟨ticket, command, project, r, hplan, hsent, hr, hreply⟩
    · refine .inl ⟨hplan, fun e he => ?_⟩
      rw [Mailbox.sent_serve] at he
      exact hunsent e he
    · refine .inr ⟨ticket, command, project, r, hplan, ?_, ?_, hreply⟩
      · rw [Mailbox.sent_serve, hsent]
      · exact Mailbox.getElem?_of_prefix Mailbox.replies_prefix_serve hr

theorem SentBy.mono {connections connections' : List Connection} (h : SentBy d connections e)
    (hc : ∀ (i : ℕ) (c : Connection), connections[i]? = some c →
      ∃ c', connections'[i]? = some c' ∧ c'.request = c.request) : SentBy d connections' e := by
  unfold SentBy at h ⊢
  cases hto : e.replyTo with
  | none => simpa [hto] using h
  | some i =>
    rw [hto] at h
    obtain ⟨c, hfound, hcommand⟩ := h
    obtain ⟨c', hfound', hrequest⟩ := hc i c hfound
    refine ⟨c', hfound', ?_⟩
    rw [hrequest, hcommand]

/-- A command that goes where the last one does not was sent before it. -/
theorem getElem?_of_replyTo_ne {sent : List CoordinatorEnvelope} {last : CoordinatorEnvelope} {t : ℕ}
    (hne : e.replyTo ≠ last.replyTo) (ht : (sent ++ [last])[t]? = some e) : sent[t]? = some e := by
  by_cases hlt : t < sent.length
  · rwa [List.getElem?_append_left hlt] at ht
  · rw [List.getElem?_append_right (by omega)] at ht
    obtain rfl := List.mem_singleton.mp (List.mem_of_getElem? ht)
    exact absurd rfl hne

theorem unsent_of_new (h : Consistent d s w) : Unsent w.channel w.connections.length := by
  intro e he hto
  have hby := h.sentBy e he
  unfold SentBy at hby
  rw [hto] at hby
  obtain ⟨c, hfound, -⟩ := hby
  rw [List.getElem?_eq_none (Nat.le_refl _)] at hfound
  cases hfound

theorem setPhase_getElem? {j : ℕ} (phase : ConnectionPhase) : (w.setPhase i phase).connections[j]? =
    (w.connections[j]?).map fun c => if i = j then { c with phase := phase } else c := by
  unfold Runtime.setPhase
  rw [List.getElem?_modify]
  split <;> simp

theorem SentBy.setPhase (h : SentBy d w.connections e) : SentBy d (w.setPhase i phase).connections e := by
  refine h.mono fun j c hc => ⟨if i = j then { c with phase := phase } else c, ?_, ?_⟩
  · rw [setPhase_getElem?, hc]
    rfl
  · split <;> rfl

theorem Consistent.setPhase (h : Consistent d s w)
    (hphase : ∀ request old, w.connections[i]? = some ⟨request, old⟩ →
      Standing d w.channel i request phase) : Consistent d s (w.setPhase i phase) := by
  refine ⟨h.faithful, ?_, fun e he => (h.sentBy e he).setPhase, h.once⟩
  intro j request' phase' hj
  rw [setPhase_getElem?] at hj
  obtain ⟨⟨request₀, phase₀⟩, hfound, heq⟩ := Option.map_eq_some_iff.mp hj
  split at heq
  next hij =>
    subst hij
    cases heq
    exact hphase _ _ hfound
  next =>
    cases heq
    exact h.standing j _ _ hfound

theorem consistent_start (d : Daemon) (s : Store) : Consistent d s (Runtime.start s) := by
  refine ⟨Mailbox.faithful_initial, ?_, ?_, ?_⟩
  · intro i request phase h
    simp [Runtime.start] at h
  · intro e he
    simp [Runtime.start] at he
  · intro t t' e e' i h
    simp [Runtime.start] at h

theorem Consistent.accept (h : Consistent d s w) (request : JsonRpcRequest) :
    Consistent d s (w.step d (.accept request)) := by
  have hold : ∀ (i : ℕ) (c : Connection), w.connections[i]? = some c →
      (w.connections ++ [⟨request, .accepted⟩])[i]? = some c := by
    intro i c hc
    rw [List.getElem?_append_left (List.getElem?_eq_some_iff.mp hc).1, hc]
  refine ⟨h.faithful, ?_, fun e he => (h.sentBy e he).mono fun i c hc => ⟨c, hold i c hc, rfl⟩, h.once⟩
  intro i request' phase' hi
  change (w.connections ++ [⟨request, .accepted⟩])[i]? = _ at hi
  by_cases hlt : i < w.connections.length
  · rw [List.getElem?_append_left hlt] at hi
    exact h.standing i request' phase' hi
  · have hlast : i = w.connections.length := by
      have hbound := (List.getElem?_eq_some_iff.mp hi).1
      rw [List.length_append, List.length_singleton] at hbound
      omega
    subst hlast
    rw [List.getElem?_concat_length] at hi
    cases hi
    exact unsent_of_new h

/-- A tick is sent in nobody's name. -/
theorem Consistent.sendTick (h : Consistent d s w) :
    Consistent d s (w.send ⟨.tickMaintenance, none⟩) := by
  refine ⟨h.faithful.send, ?_, ?_, ?_⟩
  · intro i request phase hi
    exact (h.standing i request phase hi).send (by simp)
  · intro e he
    rw [Runtime.send, Mailbox.sent_send] at he
    rcases List.mem_append.mp he with hold | hnew
    · exact h.sentBy e hold
    · rw [List.mem_singleton.mp hnew]
      rfl
  · intro t t' e e' i ht ht' hto hto'
    rw [Runtime.send, Mailbox.sent_send] at ht ht'
    have hold := getElem?_of_replyTo_ne (by simp [hto]) ht
    have hold' := getElem?_of_replyTo_ne (by simp [hto']) ht'
    exact h.once t t' e e' i hold hold' hto hto'

theorem Consistent.dispatch (h : Consistent d s w) (i : ℕ) : Consistent d s (w.dispatch d i) := by
  unfold Runtime.dispatch
  split
  next request hfound =>
    have hunsent : Unsent w.channel i := h.standing i request _ hfound
    split
    next reply hplan =>
      refine h.setPhase fun request' old hold => .inl ⟨?_, hunsent⟩
      cases hfound.symm.trans hold
      exact hplan
    next command project hplan =>
      refine ⟨h.faithful.send, ?_, ?_, ?_⟩
      · intro j request' phase' hj
        change (w.setPhase i _).connections[j]? = _ at hj
        rw [setPhase_getElem?] at hj
        obtain ⟨c, hc, heq⟩ := Option.map_eq_some_iff.mp hj
        split at heq
        next hij =>
          subst hij
          cases hfound.symm.trans hc
          cases heq
          refine ⟨command, hplan, ?_⟩
          change (w.channel.send _).sent[w.channel.sent.length]? = _
          rw [Mailbox.sent_send, List.getElem?_concat_length]
        next hij =>
          subst heq
          exact (h.standing j _ _ hc).send (by simpa using hij)
      · intro e he
        change e ∈ (w.channel.send _).sent at he
        rw [Mailbox.sent_send] at he
        rcases List.mem_append.mp he with hold | hnew
        · exact (h.sentBy e hold).setPhase
        · rw [List.mem_singleton.mp hnew]
          refine ⟨⟨request, .awaiting w.ticket project⟩, ?_, ?_⟩
          · change (w.setPhase i _).connections[i]? = _
            rw [setPhase_getElem?, hfound]
            simp
          · rw [hplan]
            rfl
      · intro t t' e e' j ht ht' hto hto'
        change (w.channel.send _).sent[t]? = _ at ht
        change (w.channel.send _).sent[t']? = _ at ht'
        rw [Mailbox.sent_send] at ht ht'
        -- a command of `i` can only be the new one
        have hnew : ∀ (t : ℕ) (e : CoordinatorEnvelope), e.replyTo = some i →
            (w.channel.sent ++ [⟨command, some i⟩])[t]? = some e → t = w.channel.sent.length := by
          intro t e hto ht
          by_cases hlt : t < w.channel.sent.length
          · rw [List.getElem?_append_left hlt] at ht
            exact absurd hto (hunsent e (List.mem_of_getElem? ht))
          · have hbound := (List.getElem?_eq_some_iff.mp ht).1
            rw [List.length_append, List.length_singleton] at hbound
            omega
        by_cases hji : j = i
        · subst hji
          rw [hnew t e hto ht, hnew t' e' hto' ht']
        · have hne : some j ≠ some i := by simpa using hji
          have hold := getElem?_of_replyTo_ne (hto ▸ hne) ht
          have hold' := getElem?_of_replyTo_ne (hto' ▸ hne) ht'
          exact h.once t t' e e' j hold hold' hto hto'
  next => exact h

theorem Consistent.serve (h : Consistent d s w) (env : Env) : Consistent d s (w.step d (.serve env)) := by
  refine ⟨h.faithful.serve, ?_, ?_, ?_⟩
  · intro i request phase hi
    exact (h.standing i request phase hi).serve env
  · intro e he
    change e ∈ (w.channel.serve (Runtime.handle d) env).sent at he
    rw [Mailbox.sent_serve] at he
    exact h.sentBy e he
  · intro t t' e e' i ht ht'
    change (w.channel.serve (Runtime.handle d) env).sent[t]? = _ at ht
    change (w.channel.serve (Runtime.handle d) env).sent[t']? = _ at ht'
    rw [Mailbox.sent_serve] at ht ht'
    exact h.once t t' e e' i ht ht'

theorem Consistent.receive (h : Consistent d s w) (i : ℕ) : Consistent d s (w.receive d i) := by
  unfold Runtime.receive
  split
  next request ticket project hfound =>
    obtain ⟨command, hplan, hsent⟩ := h.standing i request _ hfound
    split
    next reply hreply =>
      refine h.setPhase fun request' old hold =>
        .inr ⟨ticket, command, project, reply, ?_, hsent, hreply, rfl⟩
      cases hfound.symm.trans hold
      exact hplan
    next => exact h
  next => exact h

theorem Consistent.tick (h : Consistent d s w) : Consistent d s w.tick := by
  unfold Runtime.tick
  split
  next =>
    obtain ⟨hfaithful, hstanding, hsentBy, honce⟩ := h.sendTick
    exact ⟨hfaithful, hstanding, hsentBy, honce⟩
  next => exact h

theorem Consistent.ticked (h : Consistent d s w) : Consistent d s w.ticked := by
  unfold Runtime.ticked
  split
  next =>
    split
    · exact ⟨h.faithful, h.standing, h.sentBy, h.once⟩
    · exact h
  next => exact h

theorem Consistent.step (h : Consistent d s w) (event : RuntimeEvent) :
    Consistent d s (w.step d event) := by
  cases event with
  | accept request => exact h.accept request
  | dispatch i => exact h.dispatch i
  | tick => exact h.tick
  | serve env => exact h.serve env
  | receive i => exact h.receive i
  | ticked => exact h.ticked

theorem consistent_run (d : Daemon) (s : Store) (events : List RuntimeEvent) :
    Consistent d s (Runtime.run d s events) :=
  Trace.run_invariant (fun _ event h => h.step event) (consistent_start d s) events

end Consistent

/-! ## The order of service -/

section Order

variable {d : Daemon} {s : Store} {w : Runtime} {i t : ℕ}

theorem servedFor_eq_some : w.servedFor t = some i ↔
    ∃ env e, w.channel.served[t]? = some (env, e) ∧ e.replyTo = some i := by
  unfold Runtime.servedFor
  rw [Option.bind_eq_some_iff]
  constructor
  · rintro ⟨⟨env, e⟩, hserved, hto⟩
    exact ⟨env, e, hserved, hto⟩
  · rintro ⟨env, e, hserved, hto⟩
    exact ⟨(env, e), hserved, hto⟩

theorem stepOf_of_connection {env : Env} {e : CoordinatorEnvelope} {c : Connection}
    (hto : e.replyTo = some i) (hc : w.connections[i]? = some c) :
    w.stepOf (env, e) = .request env c.request := by
  unfold Runtime.stepOf
  simp only [hto, Option.bind_some, hc]

/-- A plan with a command, carried out, is that command. -/
theorem dispatchRequest_of_send {env : Env} {request : JsonRpcRequest} {command : CoordinatorCommand}
    {project : CoordinatorResponse → Option JsonRpcSuccess} (h : d.turnOf request = .send command project)
    (s : Store) : d.dispatchRequest env request s =
    (d.receive project (d.coordinator.dispatch env command s).1,
      (d.coordinator.dispatch env command s).2) := by
  rw [dispatchRequest_eq_carryOut, h]
  rfl

/-- Serving a command is the step of the sequential daemon it belongs to. -/
theorem step_stepOf {env : Env} {e : CoordinatorEnvelope} (h : SentBy d w.connections e) (s : Store) :
    d.step s (w.stepOf (env, e)) = (Runtime.handle d env e s).2 := by
  unfold SentBy at h
  cases hto : e.replyTo with
  | none =>
    rw [hto] at h
    have htick : w.stepOf (env, e) = .tick env := by
      unfold Runtime.stepOf
      simp [hto]
    rw [htick]
    unfold Runtime.handle
    rw [h]
    rfl
  | some i =>
    rw [hto] at h
    obtain ⟨c, hc, hcommand⟩ := h
    rw [stepOf_of_connection hto hc]
    change (d.dispatchRequest env c.request s).2 = _
    cases hplan : d.turnOf c.request with
    | answer reply =>
      rw [hplan] at hcommand
      cases hcommand
    | send command project =>
      rw [hplan] at hcommand
      cases hcommand
      rw [dispatchRequest_of_send hplan]
      rfl

theorem after_eq_run (h : Consistent d s w) (t : ℕ) :
    Mailbox.after (Runtime.handle d) s (w.channel.served.take t) =
      Trace.run d.step s (w.history.take t) := by
  unfold Mailbox.after Trace.run Runtime.history
  rw [← List.map_take, List.foldl_map]
  refine List.foldl_ext _ _ _ fun s' x hx => ?_
  obtain ⟨env, e⟩ := x
  have hmem : e ∈ w.channel.sent := by
    have hserved : e ∈ w.channel.served.map Prod.snd :=
      List.mem_map.mpr ⟨(env, e), List.mem_of_mem_take hx, rfl⟩
    exact List.mem_append_left _ hserved
  exact (step_stepOf (h.sentBy e hmem) s').symm

theorem Unsent.servedFor (h : Unsent w.channel i) (t : ℕ) : w.servedFor t ≠ some i := by
  intro hserved
  obtain ⟨env, e, ht, hto⟩ := servedFor_eq_some.mp hserved
  exact h e (List.mem_of_getElem? (Mailbox.sent_of_served ht)) hto

theorem Consistent.linearized (h : Consistent d s w) : Linearized d s w := by
  refine ⟨?_, ?_, ?_⟩
  · have hall := after_eq_run h w.channel.served.length
    rw [List.take_length] at hall
    rw [h.faithful.state, hall, List.take_of_length_le (by simp [Runtime.history])]
  · intro i request reply hi
    rcases h.standing i request _ hi with ⟨hplan, hunsent⟩ | ⟨t, command, project, r, hplan, hsent, hr, rfl⟩
    -- answered by the task itself: no command was sent, and the store had no part in it
    · refine .inr ⟨hunsent.servedFor, fun env s => ?_⟩
      rw [dispatchRequest_eq_carryOut, hplan]
      rfl
    -- the reply under the ticket is the one its own command got, at its place in the order
    · obtain ⟨env, e, hserved, hreply⟩ := h.faithful.replies t r hr
      have he : e = ⟨command, some i⟩ :=
        Option.some.inj ((Mailbox.sent_of_served hserved).symm.trans hsent)
      subst he
      refine .inl ⟨t, env, servedFor_eq_some.mpr ⟨env, _, hserved, rfl⟩, ?_, ?_⟩
      · unfold Runtime.history
        rw [List.getElem?_map, hserved, Option.map_some, stepOf_of_connection rfl hi]
      · rw [← after_eq_run h, dispatchRequest_of_send hplan, hreply]
        rfl
  · intro i t t' ht ht'
    obtain ⟨env, e, hserved, hto⟩ := servedFor_eq_some.mp ht
    obtain ⟨env', e', hserved', hto'⟩ := servedFor_eq_some.mp ht'
    exact h.once t t' e e' i (Mailbox.sent_of_served hserved) (Mailbox.sent_of_served hserved') hto hto'

/-- What was served stays served, at its place. -/
theorem served_prefix_step (event : RuntimeEvent) :
    w.channel.served <+: (w.step d event).channel.served := by
  cases event with
  | accept request => exact List.prefix_refl _
  | dispatch i =>
    change _ <+: (w.dispatch d i).channel.served
    unfold Runtime.dispatch
    split
    · split <;> exact List.prefix_refl _
    · exact List.prefix_refl _
  | tick =>
    change _ <+: w.tick.channel.served
    unfold Runtime.tick
    split <;> exact List.prefix_refl _
  | serve env => exact Mailbox.served_prefix_serve
  | receive i =>
    change _ <+: (w.receive d i).channel.served
    unfold Runtime.receive
    split
    · split <;> exact List.prefix_refl _
    · exact List.prefix_refl _
  | ticked =>
    change _ <+: w.ticked.channel.served
    unfold Runtime.ticked
    split
    · split <;> exact List.prefix_refl _
    · exact List.prefix_refl _

theorem served_prefix_run (w : Runtime) (later : List RuntimeEvent) :
    w.channel.served <+: (Trace.run (Runtime.step d) w later).channel.served := by
  induction later generalizing w with
  | nil => exact List.prefix_refl _
  | cons event later ih => exact (served_prefix_step event).trans (ih _)

theorem servedFor_run (later : List RuntimeEvent) (h : w.servedFor t = some i) :
    (Trace.run (Runtime.step d) w later).servedFor t = some i := by
  obtain ⟨env, e, hserved, hto⟩ := servedFor_eq_some.mp h
  exact servedFor_eq_some.mpr ⟨env, e, Mailbox.getElem?_of_prefix (served_prefix_run w later) hserved, hto⟩

end Order

/-- Whatever the interleaving, the clients see the requests handled whole and one at a time; and a
request that was served before another connection was accepted comes first in that order. -/
theorem runtime_linearized (d : Daemon) (s : Store) (events later : List RuntimeEvent) :
    Linearized d s (Runtime.run d s (events ++ later)) ∧
    ∀ i j t t', (Runtime.run d s events).servedFor t = some i →
      (Runtime.run d s events).connections.length ≤ j →
      (Runtime.run d s (events ++ later)).servedFor t' = some j →
      (Runtime.run d s (events ++ later)).servedFor t = some i ∧ t < t' := by
  refine ⟨(consistent_run d s _).linearized, ?_⟩
  intro i j t t' hi hj hj'
  unfold Runtime.run at hj' ⊢
  rw [Trace.run_append] at hj' ⊢
  refine ⟨servedFor_run later hi, ?_⟩
  -- a place taken by then would belong to a connection accepted by then
  by_contra hle
  obtain ⟨env, e, hserved, hto⟩ := servedFor_eq_some.mp hj'
  obtain ⟨env₁, e₁, hserved₁, -⟩ := servedFor_eq_some.mp hi
  have hlt : t' < (Runtime.run d s events).channel.served.length := by
    have hbound := (List.getElem?_eq_some_iff.mp hserved₁).1
    omega
  have hearly : (Runtime.run d s events).channel.served[t']? = some (env, e) := by
    obtain ⟨rest, hrest⟩ := served_prefix_run (d := d) (Runtime.run d s events) later
    unfold Runtime.run at hrest hlt ⊢
    rw [← hrest, List.getElem?_append_left hlt] at hserved
    exact hserved
  have hby := (consistent_run d s events).sentBy e (List.mem_of_getElem? (Mailbox.sent_of_served hearly))
  unfold SentBy at hby
  rw [hto] at hby
  obtain ⟨c, hc, -⟩ := hby
  have hbound := (List.getElem?_eq_some_iff.mp hc).1
  omega

/-! ## Every request is answered -/

def RuntimeEvent.isServe : RuntimeEvent → Bool
  | .serve _ => true
  | _ => false

section Answers

variable {d : Daemon} {s : Store} {w : Runtime} {i : ℕ} {request : JsonRpcRequest}

/-- Connection `i` waits for the reply to command `ticket`, or is through. -/
def Underway (w : Runtime) (i : ℕ) (request : JsonRpcRequest) (ticket : ℕ)
    (project : CoordinatorResponse → Option JsonRpcSuccess) : Prop :=
  w.connections[i]? = some ⟨request, .awaiting ticket project⟩ ∨
    ∃ reply, w.connections[i]? = some ⟨request, .answered reply⟩

theorem setPhase_other {j : ℕ} {phase : ConnectionPhase} (h : j ≠ i) :
    (w.setPhase j phase).connections[i]? = w.connections[i]? := by
  rw [setPhase_getElem?]
  simp [h]

theorem setPhase_self {phase old : ConnectionPhase} (h : w.connections[i]? = some ⟨request, old⟩) :
    (w.setPhase i phase).connections[i]? = some ⟨request, phase⟩ := by
  rw [setPhase_getElem?, h]
  simp

/-- The turns of the others leave a connection alone, and its own turns carry it on. -/
theorem connection_step {phase : ConnectionPhase} (event : RuntimeEvent)
    (h : w.connections[i]? = some ⟨request, phase⟩) (hphase : phase ≠ .accepted) :
    (w.step d event).connections[i]? = some ⟨request, phase⟩ ∨
      ∃ ticket project reply, phase = .awaiting ticket project ∧
        (w.step d event).connections[i]? = some ⟨request, .answered reply⟩ := by
  cases event with
  | accept request' =>
    refine .inl ?_
    change (w.connections ++ _)[i]? = _
    rw [List.getElem?_append_left (List.getElem?_eq_some_iff.mp h).1, h]
  | dispatch j =>
    refine .inl ?_
    change (w.dispatch d j).connections[i]? = _
    unfold Runtime.dispatch
    split
    next request' hj =>
      have hne : j ≠ i := by
        rintro rfl
        exact hphase (congrArg Connection.phase (Option.some.inj (h.symm.trans hj)))
      split
      next => rw [setPhase_other hne, h]
      next =>
        change (w.setPhase j _).connections[i]? = _
        rw [setPhase_other hne, h]
    next => exact h
  | tick =>
    refine .inl ?_
    change w.tick.connections[i]? = _
    unfold Runtime.tick
    split <;> exact h
  | serve env => exact .inl h
  | receive j =>
    change (w.receive d j).connections[i]? = _ ∨ ∃ _ _ _, _ ∧ (w.receive d j).connections[i]? = _
    unfold Runtime.receive
    split
    next request' ticket project hj =>
      split
      next reply hreply =>
        by_cases hne : j = i
        · subst hne
          obtain ⟨-, rfl⟩ := Connection.mk.inj (Option.some.inj (h.symm.trans hj))
          exact .inr ⟨ticket, project, _, rfl, setPhase_self h⟩
        · rw [setPhase_other hne]
          exact .inl h
      next => exact .inl h
    next => exact .inl h
  | ticked =>
    refine .inl ?_
    change w.ticked.connections[i]? = _
    unfold Runtime.ticked
    split
    · split <;> exact h
    · exact h

/-- An answer is final. -/
theorem answered_run {reply : Except JsonRpcErrorResponse JsonRpcSuccess} (later : List RuntimeEvent)
    (h : w.connections[i]? = some ⟨request, .answered reply⟩) :
    (Trace.run (Runtime.step d) w later).connections[i]? = some ⟨request, .answered reply⟩ := by
  induction later generalizing w with
  | nil => exact h
  | cons event later ih =>
    rcases connection_step (d := d) event h (by simp) with hsame | ⟨_, _, _, hawaiting, -⟩
    · exact ih hsame
    · cases hawaiting

theorem underway_run {ticket : ℕ} {project : CoordinatorResponse → Option JsonRpcSuccess}
    (later : List RuntimeEvent) (h : Underway w i request ticket project) :
    Underway (Trace.run (Runtime.step d) w later) i request ticket project := by
  induction later generalizing w with
  | nil => exact h
  | cons event later ih =>
    rcases h with hawaiting | ⟨reply, hanswered⟩
    · rcases connection_step (d := d) event hawaiting (by simp) with hsame | ⟨_, _, reply, -, hdone⟩
      · exact ih (.inl hsame)
      · exact ih (.inr ⟨reply, hdone⟩)
    · exact .inr ⟨reply, answered_run (event :: later) hanswered⟩

/-- Commands are only ever added. -/
theorem length_sent_step (event : RuntimeEvent) :
    w.channel.sent.length ≤ (w.step d event).channel.sent.length := by
  have hsend : ∀ e, w.channel.sent.length ≤ (w.channel.send e).sent.length := by
    intro e
    rw [Mailbox.sent_send, List.length_append]
    exact Nat.le_add_right _ _
  cases event with
  | accept request => exact Nat.le_refl _
  | dispatch i =>
    change _ ≤ (w.dispatch d i).channel.sent.length
    unfold Runtime.dispatch
    split
    · split
      · exact Nat.le_refl _
      · exact hsend _
    · exact Nat.le_refl _
  | tick =>
    change _ ≤ w.tick.channel.sent.length
    unfold Runtime.tick
    split
    · exact hsend _
    · exact Nat.le_refl _
  | serve env =>
    change _ ≤ (w.channel.serve (Runtime.handle d) env).sent.length
    rw [Mailbox.sent_serve]
  | receive i =>
    change _ ≤ (w.receive d i).channel.sent.length
    unfold Runtime.receive
    split
    · split <;> exact Nat.le_refl _
    · exact Nat.le_refl _
  | ticked =>
    change _ ≤ w.ticked.channel.sent.length
    unfold Runtime.ticked
    split
    · split <;> exact Nat.le_refl _
    · exact Nat.le_refl _

/-- The thread serves a command at every turn of its own, as long as one is waiting. -/
theorem length_served_run (n : ℕ) (later : List RuntimeEvent) (hn : n ≤ w.channel.sent.length)
    (h : n ≤ w.channel.served.length + later.countP RuntimeEvent.isServe) :
    n ≤ (Trace.run (Runtime.step d) w later).channel.served.length := by
  induction later generalizing w with
  | nil => simpa using h
  | cons event later ih =>
    have hgrows : w.channel.served.length ≤ (w.step d event).channel.served.length :=
      (served_prefix_step event).length_le
    refine ih (hn.trans (length_sent_step event)) ?_
    cases hserve : event.isServe with
    | false =>
      rw [List.countP_cons_of_neg (by simp [hserve])] at h
      omega
    | true =>
      rw [List.countP_cons_of_pos hserve] at h
      obtain ⟨env, rfl⟩ : ∃ env, event = .serve env := by
        cases event <;> simp_all [RuntimeEvent.isServe]
      by_cases hwaiting : w.channel.served.length < w.channel.sent.length
      · have hone : (w.channel.serve (Runtime.handle d) env).served.length = w.channel.served.length + 1 :=
          Mailbox.length_served_serve hwaiting
        change n ≤ (w.channel.serve (Runtime.handle d) env).served.length + _
        omega
      · omega

/-- After the task's first turn the connection has its answer, or waits for one. -/
theorem dispatch_underway {phase : ConnectionPhase} (h : w.connections[i]? = some ⟨request, phase⟩) :
    (∃ reply, (w.dispatch d i).connections[i]? = some ⟨request, .answered reply⟩) ∨
      ∃ ticket project, (w.dispatch d i).connections[i]? = some ⟨request, .awaiting ticket project⟩ := by
  unfold Runtime.dispatch
  cases phase with
  | accepted =>
    rw [h]
    dsimp only
    split
    next reply hplan => exact .inl ⟨reply, setPhase_self h⟩
    next command project hplan => exact .inr ⟨w.ticket, project, setPhase_self h⟩
  | awaiting ticket project =>
    rw [h]
    exact .inr ⟨ticket, project, h⟩
  | answered reply =>
    rw [h]
    exact .inl ⟨reply, h⟩

end Answers

/-- No request is lost. Once the task of a connection had its first turn, and the thread as many
turns as commands were waiting then, the next turn of the task ends with the answer, whatever the
others do in between. -/
theorem runtime_answers (d : Daemon) (s : Store) (events later : List RuntimeEvent) (i : ℕ)
    (hi : i < (Runtime.run d s events).connections.length)
    (hserves : (Runtime.run d s (events ++ [.dispatch i])).channel.waiting.length ≤
      later.countP RuntimeEvent.isServe) :
    ∃ request reply, (Runtime.run d s (events ++ [.dispatch i] ++ later ++ [.receive i])).connections[i]? =
      some ⟨request, .answered reply⟩ := by
  obtain ⟨request, phase, hfound⟩ : ∃ request phase,
      (Runtime.run d s events).connections[i]? = some ⟨request, phase⟩ :=
    ⟨_, _, List.getElem?_eq_getElem hi⟩
  refine ⟨request, ?_⟩
  have hlast : Runtime.run d s (events ++ [.dispatch i] ++ later ++ [.receive i]) =
      (Runtime.run d s (events ++ [.dispatch i] ++ later)).receive d i := Trace.run_snoc
  have hfirst : Runtime.run d s (events ++ [.dispatch i]) = (Runtime.run d s events).dispatch d i :=
    Trace.run_snoc
  have hmiddle : Runtime.run d s (events ++ [.dispatch i] ++ later) =
      Trace.run (Runtime.step d) (Runtime.run d s (events ++ [.dispatch i])) later := Trace.run_append
  rcases dispatch_underway (d := d) hfound with ⟨reply, hdone⟩ | ⟨ticket, project, hawaiting⟩
  · rw [← hfirst] at hdone
    refine ⟨reply, ?_⟩
    have hrest := answered_run (d := d) (later ++ [.receive i]) hdone
    unfold Runtime.run at hrest ⊢
    rwa [← Trace.run_append, ← List.append_assoc] at hrest
  · rw [← hfirst] at hawaiting
    rw [hlast]
    rcases underway_run (d := d) later (.inl hawaiting) with hstill | ⟨reply, hdone⟩
    · -- the command was sent by then, so it has been served by now
      obtain ⟨command, -, hsent⟩ := (consistent_run d s (events ++ [.dispatch i])).standing i _ _ hawaiting
      have hticket := (List.getElem?_eq_some_iff.mp hsent).1
      have htotal : (Runtime.run d s (events ++ [.dispatch i])).channel.sent.length =
          (Runtime.run d s (events ++ [.dispatch i])).channel.served.length +
            (Runtime.run d s (events ++ [.dispatch i])).channel.waiting.length := by
        simp [Mailbox.sent]
      have hserved := length_served_run (d := d) (w := Runtime.run d s (events ++ [.dispatch i]))
        _ later (Nat.le_refl _) (by omega)
      rw [← hmiddle] at hserved hstill
      have hreplies := (consistent_run d s (events ++ [.dispatch i] ++ later)).faithful.length
      obtain ⟨reply, hreply⟩ : ∃ reply,
          (Runtime.run d s (events ++ [.dispatch i] ++ later)).channel.replies[ticket]? = some reply :=
        ⟨_, List.getElem?_eq_getElem (by omega)⟩
      refine ⟨d.receive project reply, ?_⟩
      unfold Runtime.receive
      rw [hstill]
      dsimp only
      rw [hreply]
      exact setPhase_self hstill
    · rw [← hmiddle] at hdone
      refine ⟨reply, ?_⟩
      have hrest := answered_run (d := d) [.receive i] hdone
      exact hrest

namespace Session

/-- A ping is sent while a tick waits, and both are served. -/
theorem runtime_answers_ping : ∃ request reply,
    (Runtime.run daemon Store.empty ([.tick, .accept ⟨"1", .systemPing (.ok ⟨2, ()⟩)⟩] ++ [.dispatch 0] ++
      [.serve (env 0 lease₁), .ticked, .serve (env 1 lease₁)] ++ [.receive 0])).connections[0]? =
      some ⟨request, .answered reply⟩ :=
  runtime_answers daemon Store.empty _ _ 0 (by decide) (by decide +kernel)

end Session

end StarcoinMcp.Starmask
