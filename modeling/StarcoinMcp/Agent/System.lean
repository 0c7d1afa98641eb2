import StarcoinMcp.Agent.LocalAgent
import StarcoinMcp.Starmask.Protection

/-! The agent and the daemon as one system. A process of the agent runs its program until it is
stopped, and a new one may be started. Each of its calls goes over a connection of its own: the
daemon handles the call at any later time or never, and the process reads the reply or gives up
waiting for it. In between come the commands of everybody else: clients, other wallets, the
heartbeat thread and the maintenance tick. -/

namespace StarcoinMcp.Agent

open Starmask

/-! ## Calls -/

/-- `LocalDaemonClient::call` sends its parameters under the version of the generic protocol. -/
def sent {α : Type} (params : α) : Decoded α := .ok ⟨genericBackendProtocolVersion, params⟩

/-- The id of every JSON-RPC request of the client. -/
def clientId : String := "local-account-agent"

/-- The request the client sends; the other operations are answered on the spot. -/
def AgentOp.call? : AgentOp → Option DaemonCall
  | .backendRegister params => some (.backendRegister (sent params))
  | .backendUpdateAccounts params => some (.backendUpdateAccounts (sent params))
  | .requestPullNext walletInstanceId => some (.requestPullNext (sent walletInstanceId))
  | .requestPresented params => some (.requestPresented (sent params))
  | .requestResolve params => some (.requestResolve (sent params))
  | .requestReject params => some (.requestReject (sent params))
  | _ => none

/-- What the daemon writes back. -/
abbrev Reply := Except JsonRpcErrorResponse DaemonResult

/-- The client decodes the result it expects, or passes the error on. -/
def Reply.decode {α : Type} (expected : DaemonResult → Option α) (reply : Reply) :
    Option (Except SharedError α) :=
  match reply with
  | .ok result => (expected result).map .ok
  | .error response => some (.error response.error)

def accepted : DaemonResult → Option Bool
  | .backendRegistered _ _ accepted => some accepted
  | _ => none

def acknowledged : DaemonResult → Option Unit
  | .ack _ => some ()
  | _ => none

def pulled : DaemonResult → Option (Option PulledRequest)
  | .response (.pullNextRequest result) => some result.request
  | _ => none

/-- The answer a reply is to the operation. -/
def AgentOp.read : (o : AgentOp) → Reply → Option o.Answer
  | .backendRegister _, reply => reply.decode accepted
  | .backendUpdateAccounts _, reply => reply.decode acknowledged
  | .requestPullNext _, reply => reply.decode pulled
  | .requestPresented _, reply => reply.decode acknowledged
  | .requestResolve _, reply => reply.decode acknowledged
  | .requestReject _, reply => reply.decode acknowledged
  | _, _ => none

/-! ## Effects -/

/-- The answer says that the wallet was changed, or a key written. -/
def performs : Answered AgentOp.Answer → Bool
  | ⟨.createAccount _, .ok _⟩ => true
  | ⟨.importAccount .., .ok _⟩ => true
  | ⟨.writePrivateKeyFile .., .ok _⟩ => true
  | _ => false

/-- The request a process is at work on: the last one it pulled. -/
def lastPulled (told : List (Answered AgentOp.Answer)) : Option PulledRequest :=
  told.foldl (fun request x =>
    match x with
    | ⟨.requestPullNext _, .ok (some next)⟩ => some next
    | _ => request) none

/-! ## The system -/

/-- A connection to the daemon, with the reply once there is one. -/
structure Connection where
  call : DaemonCall
  reply : Option Reply

/-- A process of the agent: what it was told, what it goes on with, and the connection it waits on. -/
structure Process where
  told : List (Answered AgentOp.Answer)
  program : AgentProg Unit
  waitsOn : Option ℕ

structure World where
  store : Store
  process : Option Process
  connections : List Connection
  /-- The requests whose effect was performed, in order and with repetitions. -/
  performed : List RequestId

def World.initial : World := ⟨Store.empty, none, [], []⟩

inductive Event
  /-- A new process, followed for so many rounds of its loop. -/
  | start (rounds : ℕ)
  | stop
  /-- The user, the account manager or the file system answers. -/
  | answer (reply : (o : AgentOp) → o.Answer)
  | call
  | handle (connection : ℕ) (env : Env)
  | receive
  | giveUp (error : SharedError)
  /-- A command of somebody else. -/
  | other (x : Step)

/-- Only the agent speaks of the requests of its wallet. -/
def speaksFor (w : WalletInstanceId) : CoordinatorCommand → Bool
  | .pullNextRequest walletInstanceId => walletInstanceId = w
  | .markRequestPresented command => command.walletInstanceId = w
  | .resolveRequest command => command.walletInstanceId = w
  | .rejectRequest command => command.walletInstanceId = w
  | _ => false

namespace World

variable (d : Daemon) (agent : LocalAccountAgent)

/-- The log after the answer `x`: an effect is one of the request last pulled. -/
def logged (s : World) (told : List (Answered AgentOp.Answer)) (x : Answered AgentOp.Answer) :
    List RequestId :=
  if performs x then s.performed ++ (lastPulled told).toList.map PulledRequest.requestId
  else s.performed

/-- The process goes on with the answer `x`. -/
def resume (s : World) (told : List (Answered AgentOp.Answer)) {o : AgentOp}
    (k : o.Answer → AgentProg Unit) (x : o.Answer) : World :=
  { s with process := some ⟨told ++ [⟨o, x⟩], k x, none⟩ }

/-- An event that cannot happen now changes nothing. -/
def step (s : World) : Event → World
  | .start rounds =>
    match s.process with
    | none => { s with process := some ⟨[], agent.run rounds, none⟩ }
    | some _ => s
  | .stop => { s with process := none }
  | .answer reply =>
    match s.process with
    | some ⟨told, .op o k, none⟩ =>
      if o.call?.isSome then s
      else { s.resume told k (reply o) with performed := s.logged told ⟨o, reply o⟩ }
    | _ => s
  | .call =>
    match s.process with
    | some ⟨told, .op o k, none⟩ =>
      match o.call? with
      | some call => { s with
          process := some ⟨told, .op o k, some s.connections.length⟩
          connections := s.connections ++ [⟨call, none⟩] }
      | none => s
    | _ => s
  | .handle i env =>
    match s.connections[i]? with
    | some ⟨call, none⟩ =>
      { s with
        store := (d.dispatchCall env clientId call s.store).2
        connections := s.connections.set i ⟨call, some (d.dispatchCall env clientId call s.store).1⟩ }
    | _ => s
  | .receive =>
    match s.process with
    | some ⟨told, .op o k, some i⟩ =>
      match (s.connections[i]?.bind Connection.reply).bind o.read with
      | some x => s.resume told k x
      | none => s
    | _ => s
  | .giveUp error =>
    match s.process with
    | some ⟨told, .op o k, some _⟩ =>
      match o.read (.error ⟨"", error⟩) with
      | some x => s.resume told k x
      | none => s
    | _ => s
  | .other x =>
    if speaksFor agent.walletInstanceId x.command then s
    else { s with store := d.coordinator.step s.store x }

def run (events : List Event) : World := Trace.run (step d agent) initial events

end World

/-! ## What an event can do -/

/-- Everything an event can do to the world. -/
inductive Moves (d : Daemon) (agent : LocalAccountAgent) (s : World) : Event → World → Prop
  | idle (e : Event) : Moves d agent s e s
  | start {rounds : ℕ} (hprocess : s.process = none) :
      Moves d agent s (.start rounds) { s with process := some ⟨[], agent.run rounds, none⟩ }
  | stop : Moves d agent s .stop { s with process := none }
  | answer {reply : (o : AgentOp) → o.Answer} {told : List (Answered AgentOp.Answer)} {o : AgentOp}
      {k : o.Answer → AgentProg Unit} (hprocess : s.process = some ⟨told, .op o k, none⟩)
      (hlocal : o.call? = none) :
      Moves d agent s (.answer reply)
        { s.resume told k (reply o) with performed := s.logged told ⟨o, reply o⟩ }
  | call {told : List (Answered AgentOp.Answer)} {o : AgentOp} {k : o.Answer → AgentProg Unit}
      {call : DaemonCall} (hprocess : s.process = some ⟨told, .op o k, none⟩)
      (hcall : o.call? = some call) :
      Moves d agent s .call { s with
        process := some ⟨told, .op o k, some s.connections.length⟩
        connections := s.connections ++ [⟨call, none⟩] }
  | handle {i : ℕ} {env : Env} {call : DaemonCall} (hopen : s.connections[i]? = some ⟨call, none⟩) :
      Moves d agent s (.handle i env) { s with
        store := (d.dispatchCall env clientId call s.store).2
        connections := s.connections.set i ⟨call, some (d.dispatchCall env clientId call s.store).1⟩ }
  | receive {told : List (Answered AgentOp.Answer)} {o : AgentOp} {k : o.Answer → AgentProg Unit}
      {i : ℕ} {call : DaemonCall} {reply : Reply} {x : o.Answer}
      (hprocess : s.process = some ⟨told, .op o k, some i⟩)
      (hreply : s.connections[i]? = some ⟨call, some reply⟩) (hread : o.read reply = some x) :
      Moves d agent s .receive (s.resume told k x)
  | giveUp {error : SharedError} {told : List (Answered AgentOp.Answer)} {o : AgentOp}
      {k : o.Answer → AgentProg Unit} {i : ℕ} {x : o.Answer}
      (hprocess : s.process = some ⟨told, .op o k, some i⟩)
      (hread : o.read (.error ⟨"", error⟩) = some x) :
      Moves d agent s (.giveUp error) (s.resume told k x)
  | other {x : Step} (hother : speaksFor agent.walletInstanceId x.command = false) :
      Moves d agent s (.other x) { s with store := d.coordinator.step s.store x }

theorem step_moves (d : Daemon) (agent : LocalAccountAgent) (s : World) (e : Event) :
    Moves d agent s e (s.step d agent e) := by
  cases e with
  | start rounds =>
    cases hprocess : s.process with
    | none => simpa only [World.step, hprocess] using .start hprocess
    | some process => simpa only [World.step, hprocess] using .idle _
  | stop => exact .stop
  | answer reply =>
    dsimp only [World.step]
    split
    next told o k hprocess =>
      split_ifs with hcall
      · exact .idle _
      · exact .answer hprocess (Option.not_isSome_iff_eq_none.mp hcall)
    next => exact .idle _
  | call =>
    dsimp only [World.step]
    split
    next told o k hprocess =>
      split
      next call hcall => exact .call hprocess hcall
      next => exact .idle _
    next => exact .idle _
  | handle i env =>
    dsimp only [World.step]
    split
    next call hopen => exact .handle hopen
    next => exact .idle _
  | receive =>
    dsimp only [World.step]
    split
    next told o k i hprocess =>
      split
      next x hx =>
        obtain ⟨reply, hreply, hread⟩ := Option.bind_eq_some_iff.mp hx
        obtain ⟨⟨call, written⟩, hconnection, hwritten⟩ := Option.bind_eq_some_iff.mp hreply
        obtain rfl : written = some reply := hwritten
        exact .receive hprocess hconnection hread
      next => exact .idle _
    next => exact .idle _
  | giveUp error =>
    dsimp only [World.step]
    split
    next told o k i hprocess =>
      split
      next x hread => exact .giveUp hprocess hread
      next => exact .idle _
    next => exact .idle _
  | other x =>
    dsimp only [World.step]
    split_ifs with hspeaks
    · exact .idle _
    · exact .other (Bool.eq_false_iff.mpr hspeaks)

end StarcoinMcp.Agent
