import Mathlib.Data.List.Sort
import StarcoinMcp.NativeHost.Outbound

/-! The two threads of the native host (`main.rs`, `notify.rs`). The main thread answers the messages
of the extension; the notifier polls the daemon and tells the extension that requests are waiting
or were cancelled. They share what they know about the wallets and the standard output, each behind
a mutex. A turn of a thread ends where it may have to wait, so that every interleaving of the two,
and of the daemon's other clients, is a list of turns. -/

namespace StarcoinMcp.NativeHost

open Starmask

/-! ## The client of the daemon -/

/-- How one exchange over the socket goes. -/
inductive Exchange
  | complete
  | notReached (error : SharedError)
  | replyLost (error : SharedError)

/-- The daemon and the bytes it answers with. -/
structure LocalDaemonClient where
  daemon : Daemon
  encode : Except JsonRpcErrorResponse JsonRpcSuccess → List UInt8

namespace LocalDaemonClient

variable {α : Type}

/-- What the client makes of a reply within its limit. -/
def parseReply (project : DaemonResult → Option α) :
    Except JsonRpcErrorResponse JsonRpcSuccess → Except SharedError α
  | .error response => .error response.error
  | .ok success =>
    match project success.result with
    | some a => .ok a
    | none => .error (sharedInternalError "data did not match any variant of untagged enum JsonRpcResponse")

/-- `LocalDaemonClient::call`. -/
def call (client : LocalDaemonClient) (env : Env) (exchange : Exchange) (method : DaemonCall)
    (project : DaemonResult → Option α) : FailState Store SharedError α := fun s =>
  match exchange with
  | .notReached error => (.error error, s)
  | .replyLost error => (.error error, (client.daemon.dispatchRequest env ⟨"native-host", method⟩ s).2)
  | .complete =>
    let (reply, s') := client.daemon.dispatchRequest env ⟨"native-host", method⟩ s
    (received (client.encode reply) (parseReply project reply), s')

def ackResult : DaemonResult → Option Unit
  | .ack _ => some ()
  | _ => none

def registeredResult : DaemonResult → Option ExtensionRegisteredResult
  | .extensionRegistered walletInstanceId protocolVersion accepted =>
    some ⟨walletInstanceId, protocolVersion, accepted⟩
  | _ => none

def pullNextResult : DaemonResult → Option PullNextRequestResult
  | .response (.pullNextRequest result) => some result
  | _ => none

def hasAvailableResult : DaemonResult → Option RequestHasAvailableResult
  | .response (.requestHasAvailable result) => some result
  | _ => none

def statusResult : DaemonResult → Option GetRequestStatusResult
  | .response (.requestStatus result) => some result
  | _ => none

/-- The calls `handle_request` makes. -/
def rpc (client : LocalDaemonClient) (env : Env) (exchange : Exchange) : DaemonRpc Store where
  extensionRegister params := client.call env exchange (.extensionRegister (.ok params)) registeredResult
  extensionHeartbeat params := client.call env exchange (.extensionHeartbeat (.ok params)) ackResult
  extensionUpdateAccounts params :=
    client.call env exchange (.extensionUpdateAccounts (.ok params)) ackResult
  requestPullNext params := client.call env exchange (.requestPullNext (.ok params)) pullNextResult
  requestPresented params := client.call env exchange (.requestPresented (.ok params)) ackResult
  requestResolve params := client.call env exchange (.requestResolve (.ok params)) ackResult
  requestReject params := client.call env exchange (.requestReject (.ok params)) ackResult

def requestHasAvailable (client : LocalDaemonClient) (env : Env) (exchange : Exchange)
    (walletInstanceId : WalletInstanceId) : FailState Store SharedError RequestHasAvailableResult :=
  client.call env exchange (.requestHasAvailable (.ok ⟨daemonProtocolVersion, walletInstanceId⟩))
    hasAvailableResult

def getRequestStatus (client : LocalDaemonClient) (env : Env) (exchange : Exchange)
    (requestId : RequestId) : FailState Store SharedError GetRequestStatusResult :=
  client.call env exchange (.requestGetStatus (.ok ⟨daemonProtocolVersion, requestId⟩)) statusResult

end LocalDaemonClient

/-! ## What the threads know -/

structure WalletWatchState where
  walletInstanceId : WalletInstanceId
  lastAvailableNotified : Bool
deriving DecidableEq, Repr

structure NotificationState where
  wallets : Table WalletWatchState.walletInstanceId
  activeRequests : Table (Prod.fst : RequestId × WalletInstanceId → RequestId)

namespace NotificationState

def default : NotificationState := ⟨.empty, .empty⟩

def ensureWallet (state : NotificationState) (walletInstanceId : WalletInstanceId) : NotificationState :=
  { state with wallets := (state.wallets.insert ⟨walletInstanceId, false⟩).getD state.wallets }

/-- A wallet that is watched; another is left alone. -/
def setNotified (state : NotificationState) (walletInstanceId : WalletInstanceId) (notified : Bool) :
    NotificationState :=
  { state with wallets := state.wallets.update ⟨walletInstanceId, notified⟩ }

def track (state : NotificationState) (requestId : RequestId) (walletInstanceId : WalletInstanceId) :
    NotificationState :=
  { state with activeRequests := state.activeRequests.upsert (requestId, walletInstanceId) }

def untrack (state : NotificationState) (requestId : RequestId) : NotificationState :=
  { state with activeRequests := state.activeRequests.filter fun entry => entry.1 ≠ requestId }

/-- The request a message has put before the user, by what the daemon answered to it. -/
def tracked : NativeBridgeRequest → NativeBridgeResponse → Option (RequestId × WalletInstanceId)
  | .requestPullNext _ walletInstanceId, .requestNext _ request =>
    if request.resumeRequired then some (request.requestId, walletInstanceId) else none
  | .requestPresented _ params, .extensionAck _ => some (params.requestId, params.walletInstanceId)
  | _, _ => none

def observe (state : NotificationState) (request : NativeBridgeRequest) (response : NativeBridgeResponse) :
    NotificationState :=
  match request with
  | .extensionRegister _ _ params =>
    match response with
    | .extensionRegistered _ _ _ true => state.ensureWallet params.walletInstanceId
    | _ => state
  | .extensionHeartbeat _ params => state.ensureWallet params.walletInstanceId
  | .extensionUpdateAccounts _ params => state.ensureWallet params.walletInstanceId
  | .requestPullNext _ walletInstanceId =>
    let state := (state.ensureWallet walletInstanceId).setNotified walletInstanceId false
    match tracked request response with
    | some entry => state.track entry.1 entry.2
    | none => state
  | .requestPresented _ _ =>
    match tracked request response with
    | some entry => state.track entry.1 entry.2
    | none => state
  | .requestResolve _ params =>
    match response with
    | .extensionAck _ => state.untrack params.requestId
    | _ => state
  | .requestReject _ params =>
    match response with
    | .extensionAck _ => state.untrack params.requestId
    | _ => state

/-- The values of a `BTreeMap`, in the order of its keys. -/
def watchedWallets (state : NotificationState) : List WalletInstanceId :=
  (state.wallets.rows.map (·.walletInstanceId)).insertionSort fun a b => a.value ≤ b.value

def watchedRequests (state : NotificationState) : List (RequestId × WalletInstanceId) :=
  state.activeRequests.rows.insertionSort fun a b => a.1.value ≤ b.1.value

end NotificationState

/-! ## Messages to the extension -/

/-- An answer, or one of the two notifications. -/
inductive Outgoing
  | response (response : NativeBridgeResponse)
  | requestAvailable (walletInstanceId : WalletInstanceId)
  | requestCancelled (requestId : RequestId) (walletInstanceId : WalletInstanceId)

namespace Outgoing

open JsonText

/-- `serde_json::to_vec`. -/
def toVec : Outgoing → List UInt8
  | .response answer => answer.toVec
  | .requestAvailable walletInstanceId =>
    bytes (object [textMember "type" "request.available",
      textMember "wallet_instance_id" walletInstanceId.value])
  | .requestCancelled requestId walletInstanceId =>
    bytes (object [textMember "type" "request.cancelled",
      textMember "wallet_instance_id" walletInstanceId.value, textMember "request_id" requestId.value])

/-- `write_frame` takes the message. -/
def Fits (message : Outgoing) : Prop := message.toVec.length ≤ nativeBridgeMaxOutboundBytes

instance (message : Outgoing) : Decidable message.Fits := Nat.decLe _ _

end Outgoing

/-! ## The threads -/

/-- How far a thread has come with the writing of a message: it waits for the writer, or has it
and writes the length first and then the payload. -/
inductive Stage
  | waiting | header | payload
deriving DecidableEq, Repr

inductive MainPhase
  | reading
  | handled (request : NativeBridgeRequest) (response : NativeBridgeResponse)
  | observing (request : NativeBridgeRequest) (response : NativeBridgeResponse)
  | writing (response : NativeBridgeResponse) (stage : Stage)
  | joining
  | ended

/-- The lists are what is left of a round. -/
inductive NotifierPhase
  | sleeping
  | listingWallets
  | wallets (rest : List WalletInstanceId)
  | availability (result : RequestHasAvailableResult) (rest : List WalletInstanceId)
  | marking (result : RequestHasAvailableResult) (rest : List WalletInstanceId)
  | available (walletInstanceId : WalletInstanceId) (rest : List WalletInstanceId) (stage : Stage)
  | pollingRequests
  | listingRequests
  | requests (rest : List (RequestId × WalletInstanceId))
  | cancelled (requestId : RequestId) (walletInstanceId : WalletInstanceId)
      (rest : List (RequestId × WalletInstanceId)) (stage : Stage)
  | terminal (requestId : RequestId) (rest : List (RequestId × WalletInstanceId))
  | removing (requestId : RequestId) (rest : List (RequestId × WalletInstanceId))
  | stopped

namespace MainPhase

def holdsState : MainPhase → Bool
  | .observing _ _ => true
  | _ => false

def holdsWriter : MainPhase → Bool
  | .writing _ stage => stage ≠ .waiting
  | _ => false

end MainPhase

namespace NotifierPhase

def holdsState : NotifierPhase → Bool
  | .listingWallets | .marking _ _ | .available _ _ _ | .listingRequests | .removing _ _ => true
  | _ => false

def holdsWriter : NotifierPhase → Bool
  | .available _ _ stage => stage ≠ .waiting
  | .cancelled _ _ _ stage => stage ≠ .waiting
  | _ => false

end NotifierPhase

/-- What happened, as far as the notices depend on it. -/
inductive LogEntry
  | observed (request : NativeBridgeRequest) (response : NativeBridgeResponse)
  | polled (result : RequestHasAvailableResult)
  | wrote (message : Outgoing)

/-- The process, with the store of the daemon it talks to. -/
structure Host where
  store : Store
  state : NotificationState
  stdout : List UInt8
  running : Bool
  main : MainPhase
  notifier : NotifierPhase
  log : List LogEntry

inductive HostEvent
  | daemon (step : DaemonStep)
  | frame (request : NativeBridgeRequest) (env : Env) (exchange : Exchange)
  | endOfInput
  | badInput
  | main
  | poll (env : Env) (exchange : Exchange)
  | notifier

namespace Host

def start (s : Store) : Host := ⟨s, .default, [], true, .reading, .sleeping, []⟩

/-- The main thread has returned, and with it the process ended. -/
def isOver (h : Host) : Bool :=
  match h.main with
  | .ended => true
  | _ => false

/-- The two calls of `write_all`; the first refuses a message that is too long. -/
def writeLength (order : ByteOrder) (h : Host) (message : Outgoing) : Host :=
  { h with stdout := h.stdout ++ toNeBytes order message.toVec.length }

def writePayload (h : Host) (message : Outgoing) : Host :=
  { h with stdout := h.stdout ++ message.toVec, log := h.log ++ [.wrote message] }

/-- A turn of the main thread after a message was read. -/
def mainTurn (order : ByteOrder) (h : Host) : Host :=
  match h.main with
  | .handled request response =>
    if h.notifier.holdsState then h else { h with main := .observing request response }
  | .observing request response =>
    { h with
      state := h.state.observe request response
      log := h.log ++ [.observed request response]
      main := .writing response .waiting }
  | .writing response .waiting =>
    if h.notifier.holdsWriter then h else { h with main := .writing response .header }
  | .writing response .header =>
    if (Outgoing.response response).Fits then
      { h.writeLength order (.response response) with main := .writing response .payload }
    else { h with main := .ended }
  | .writing response .payload => { h.writePayload (.response response) with main := .reading }
  | .joining =>
    match h.notifier with
    | .stopped => { h with main := .ended }
    | _ => h
  | .reading | .ended => h

/-- What `poll_available` does with an answer once it has the state. -/
def mark (h : Host) (result : RequestHasAvailableResult) (rest : List WalletInstanceId) : Host :=
  match h.state.wallets.find result.walletInstanceId with
  | none => { h with notifier := .wallets rest }
  | some entry =>
    let h : Host := { h with log := h.log ++ [.polled result] }
    if result.available ∧ ¬ entry.lastAvailableNotified then
      { h with notifier := .available result.walletInstanceId rest .waiting }
    else if ¬ result.available then
      { h with
        state := h.state.setNotified result.walletInstanceId false
        notifier := .wallets rest }
    else { h with notifier := .wallets rest }

/-- A turn of the notifier, other than a call of the daemon. -/
def notifierTurn (order : ByteOrder) (h : Host) : Host :=
  match h.notifier with
  | .sleeping =>
    if ¬ h.running then { h with notifier := .stopped }
    else if h.main.holdsState then h
    else { h with notifier := .listingWallets }
  | .listingWallets => { h with notifier := .wallets h.state.watchedWallets }
  | .wallets [] => { h with notifier := .pollingRequests }
  | .wallets (_ :: _) => h
  | .availability result rest => if h.main.holdsState then h else
      { h with notifier := .marking result rest }
  | .marking result rest => h.mark result rest
  | .available w rest .waiting =>
    if h.main.holdsWriter then h else { h with notifier := .available w rest .header }
  | .available w rest .header =>
    if (Outgoing.requestAvailable w).Fits then
      { h.writeLength order (.requestAvailable w) with notifier := .available w rest .payload }
    -- the frame is refused before anything of it is written, and the wallet stays unmarked
    else { h with notifier := .wallets rest }
  | .available w rest .payload =>
    { h.writePayload (.requestAvailable w) with
      state := h.state.setNotified w true
      notifier := .wallets rest }
  | .pollingRequests => if h.main.holdsState then h else { h with notifier := .listingRequests }
  | .listingRequests => { h with notifier := .requests h.state.watchedRequests }
  | .requests [] => { h with notifier := .sleeping }
  | .requests (_ :: _) => h
  | .cancelled id w rest .waiting =>
    if h.main.holdsWriter then h else { h with notifier := .cancelled id w rest .header }
  | .cancelled id w rest .header =>
    if (Outgoing.requestCancelled id w).Fits then
      { h.writeLength order (.requestCancelled id w) with notifier := .cancelled id w rest .payload }
    -- a notice that fails is logged only: the request is forgotten all the same
    else { h with notifier := .terminal id rest }
  | .cancelled id w rest .payload =>
    { h.writePayload (.requestCancelled id w) with notifier := .terminal id rest }
  | .terminal id rest => if h.main.holdsState then h else { h with notifier := .removing id rest }
  | .removing id rest => { h with state := h.state.untrack id, notifier := .requests rest }
  | .stopped => h

/-- What `poll_active_requests` does with the status of a request. -/
def settle (requestId : RequestId) (w : WalletInstanceId) (status : RequestStatus)
    (rest : List (RequestId × WalletInstanceId)) : NotifierPhase :=
  if status = .cancelled then .cancelled requestId w rest .waiting
  else if status.isTerminal then .terminal requestId rest
  else .requests rest

/-- A call of the daemon by the notifier. -/
def poll (client : LocalDaemonClient) (env : Env) (exchange : Exchange) (h : Host) : Host :=
  match h.notifier with
  | .wallets (w :: rest) =>
    match client.requestHasAvailable env exchange w h.store with
    | (.ok result, s') => { h with store := s', notifier := .availability result rest }
    | (.error _, s') => { h with store := s', notifier := .wallets rest }
  | .requests (entry :: rest) =>
    match client.getRequestStatus env exchange entry.1 h.store with
    | (.ok result, s') => { h with store := s', notifier := settle entry.1 entry.2 result.status rest }
    | (.error _, s') => { h with store := s', notifier := .requests rest }
  | _ => h

/-- The main thread reads a message and hands it to the daemon. -/
def handle (client : LocalDaemonClient) (request : NativeBridgeRequest) (env : Env) (exchange : Exchange)
    (h : Host) : Host :=
  match h.main with
  | .reading =>
    let (response, s') := handleRequest (client.rpc env exchange) request h.store
    { h with store := s', main := .handled request response }
  | _ => h

def step (client : LocalDaemonClient) (order : ByteOrder) (h : Host) (event : HostEvent) : Host :=
  match event with
  | .daemon step => { h with store := client.daemon.step h.store step }
  | event =>
    if h.isOver then h
    else
      match event with
      | .daemon _ => h
      | .frame request env exchange => h.handle client request env exchange
      | .endOfInput =>
        match h.main with
        | .reading => { h with running := false, main := .joining }
        | _ => h
      | .badInput =>
        match h.main with
        -- the `?` of `main` returns at once, without waiting for the notifier
        | .reading => { h with main := .ended }
        | _ => h
      | .main => h.mainTurn order
      | .poll env exchange => h.poll client env exchange
      | .notifier => h.notifierTurn order

def run (client : LocalDaemonClient) (order : ByteOrder) (s : Store) (events : List HostEvent) : Host :=
  Trace.run (step client order) (start s) events

end Host

/-! ## What one turn can do -/

/-- The store after a call of the client: that of the daemon, if the call reached it. -/
def Reaches (client : LocalDaemonClient) (s s' : Store) : Prop :=
  s' = s ∨ ∃ step, s' = client.daemon.step s step

/-- The turns, with the conditions under which they are taken. -/
inductive Moves (client : LocalDaemonClient) (order : ByteOrder) (h : Host) : Host → Prop
  | stay : Moves client order h h
  | daemon (step : DaemonStep) : Moves client order h { h with store := client.daemon.step h.store step }
  | handled {request : NativeBridgeRequest} {response : NativeBridgeResponse} {s' : Store}
      (hmain : h.main = .reading) (hstore : Reaches client h.store s') :
      Moves client order h { h with store := s', main := .handled request response }
  | endOfInput (hmain : h.main = .reading) :
      Moves client order h { h with running := false, main := .joining }
  | ended (hmain : ∀ r, h.main ≠ .writing r .payload) : Moves client order h { h with main := .ended }
  | lockState {request : NativeBridgeRequest} {response : NativeBridgeResponse}
      (hmain : h.main = .handled request response) (hfree : h.notifier.holdsState = false) :
      Moves client order h { h with main := .observing request response }
  | observe {request : NativeBridgeRequest} {response : NativeBridgeResponse}
      (hmain : h.main = .observing request response) :
      Moves client order h
        { h with
          state := h.state.observe request response
          log := h.log ++ [.observed request response]
          main := .writing response .waiting }
  | lockWriter {response : NativeBridgeResponse} (hmain : h.main = .writing response .waiting)
      (hfree : h.notifier.holdsWriter = false) :
      Moves client order h { h with main := .writing response .header }
  | writeLength {response : NativeBridgeResponse} (hmain : h.main = .writing response .header)
      (hfits : (Outgoing.response response).Fits) :
      Moves client order h
        { h.writeLength order (.response response) with main := .writing response .payload }
  | writePayload {response : NativeBridgeResponse} (hmain : h.main = .writing response .payload) :
      Moves client order h { h.writePayload (.response response) with main := .reading }
  | stopped (hnow : h.notifier = .sleeping) : Moves client order h { h with notifier := .stopped }
  | listWallets (hnow : h.notifier = .sleeping) (hfree : h.main.holdsState = false) :
      Moves client order h { h with notifier := .listingWallets }
  | wallets (hnow : h.notifier = .listingWallets) :
      Moves client order h { h with notifier := .wallets h.state.watchedWallets }
  | walletsDone (hnow : h.notifier = .wallets []) : Moves client order h
      { h with notifier := .pollingRequests }
  | polledWallet {w : WalletInstanceId} {rest : List WalletInstanceId} {result : RequestHasAvailableResult}
      {s' : Store} (hnow : h.notifier = .wallets (w :: rest)) (hstore : Reaches client h.store s') :
      Moves client order h { h with store := s', notifier := .availability result rest }
  | walletFailed {w : WalletInstanceId} {rest : List WalletInstanceId} {s' : Store}
      (hnow : h.notifier = .wallets (w :: rest)) (hstore : Reaches client h.store s') :
      Moves client order h { h with store := s', notifier := .wallets rest }
  | lockMark {result : RequestHasAvailableResult} {rest : List WalletInstanceId}
      (hnow : h.notifier = .availability result rest) (hfree : h.main.holdsState = false) :
      Moves client order h { h with notifier := .marking result rest }
  | unknown {result : RequestHasAvailableResult} {rest : List WalletInstanceId}
      (hnow : h.notifier = .marking result rest)
      (hentry : h.state.wallets.find result.walletInstanceId = none) :
      Moves client order h { h with notifier := .wallets rest }
  | mark {result : RequestHasAvailableResult} {rest : List WalletInstanceId} {entry : WalletWatchState}
      (hnow : h.notifier = .marking result rest)
      (hentry : h.state.wallets.find result.walletInstanceId = some entry)
      (havailable : result.available = true) (hfresh : entry.lastAvailableNotified = false) :
      Moves client order h
        { h with
          log := h.log ++ [.polled result]
          notifier := .available result.walletInstanceId rest .waiting }
  | clear {result : RequestHasAvailableResult} {rest : List WalletInstanceId} {entry : WalletWatchState}
      (hnow : h.notifier = .marking result rest)
      (hentry : h.state.wallets.find result.walletInstanceId = some entry)
      (havailable : result.available = false) :
      Moves client order h
        { h with
          log := h.log ++ [.polled result]
          state := h.state.setNotified result.walletInstanceId false
          notifier := .wallets rest }
  | unchanged {result : RequestHasAvailableResult} {rest : List WalletInstanceId} {entry : WalletWatchState}
      (hnow : h.notifier = .marking result rest)
      (hentry : h.state.wallets.find result.walletInstanceId = some entry)
      (havailable : result.available = true) (hnotified : entry.lastAvailableNotified = true) :
      Moves client order h { h with log := h.log ++ [.polled result], notifier := .wallets rest }
  | lockAvailable {w : WalletInstanceId} {rest : List WalletInstanceId}
      (hnow : h.notifier = .available w rest .waiting) (hfree : h.main.holdsWriter = false) :
      Moves client order h { h with notifier := .available w rest .header }
  | availableLength {w : WalletInstanceId} {rest : List WalletInstanceId}
      (hnow : h.notifier = .available w rest .header) (hfits : (Outgoing.requestAvailable w).Fits) :
      Moves client order h
        { h.writeLength order (.requestAvailable w) with notifier := .available w rest .payload }
  | availableTooLong {w : WalletInstanceId} {rest : List WalletInstanceId}
      (hnow : h.notifier = .available w rest .header) (hlong : ¬ (Outgoing.requestAvailable w).Fits) :
      Moves client order h { h with notifier := .wallets rest }
  | availablePayload {w : WalletInstanceId} {rest : List WalletInstanceId}
      (hnow : h.notifier = .available w rest .payload) :
      Moves client order h
        { h.writePayload (.requestAvailable w) with
          state := h.state.setNotified w true
          notifier := .wallets rest }
  | listRequests (hnow : h.notifier = .pollingRequests) (hfree : h.main.holdsState = false) :
      Moves client order h { h with notifier := .listingRequests }
  | requests (hnow : h.notifier = .listingRequests) :
      Moves client order h { h with notifier := .requests h.state.watchedRequests }
  | requestsDone (hnow : h.notifier = .requests []) : Moves client order h { h with notifier := .sleeping }
  | polledRequest {id : RequestId} {w : WalletInstanceId} {rest : List (RequestId × WalletInstanceId)}
      {r : RequestRecord} (hnow : h.notifier = .requests ((id, w) :: rest))
      (hr : h.store.getRequest id = some r) :
      Moves client order h { h with notifier := Host.settle id w r.status rest }
  | requestFailed {entry : RequestId × WalletInstanceId} {rest : List (RequestId × WalletInstanceId)}
      {s' : Store} (hnow : h.notifier = .requests (entry :: rest)) (hstore : Reaches client h.store s') :
      Moves client order h { h with store := s', notifier := .requests rest }
  | lockCancelled {id : RequestId} {w : WalletInstanceId} {rest : List (RequestId × WalletInstanceId)}
      (hnow : h.notifier = .cancelled id w rest .waiting) (hfree : h.main.holdsWriter = false) :
      Moves client order h { h with notifier := .cancelled id w rest .header }
  | cancelledLength {id : RequestId} {w : WalletInstanceId} {rest : List (RequestId × WalletInstanceId)}
      (hnow : h.notifier = .cancelled id w rest .header) (hfits : (Outgoing.requestCancelled id w).Fits) :
      Moves client order h
        { h.writeLength order (.requestCancelled id w) with notifier := .cancelled id w rest .payload }
  | cancelledTooLong {id : RequestId} {w : WalletInstanceId} {rest : List (RequestId × WalletInstanceId)}
      (hnow : h.notifier = .cancelled id w rest .header) :
      Moves client order h { h with notifier := .terminal id rest }
  | cancelledPayload {id : RequestId} {w : WalletInstanceId} {rest : List (RequestId × WalletInstanceId)}
      (hnow : h.notifier = .cancelled id w rest .payload) :
      Moves client order h { h.writePayload (.requestCancelled id w) with notifier := .terminal id rest }
  | lockTerminal {id : RequestId} {rest : List (RequestId × WalletInstanceId)}
      (hnow : h.notifier = .terminal id rest) (hfree : h.main.holdsState = false) :
      Moves client order h { h with notifier := .removing id rest }
  | remove {id : RequestId} {rest : List (RequestId × WalletInstanceId)}
      (hnow : h.notifier = .removing id rest) :
      Moves client order h { h with state := h.state.untrack id, notifier := .requests rest }

section Calls

variable {client : LocalDaemonClient} {env : Env} {exchange : Exchange} {s s' : Store} {α : Type}

theorem reaches_self (client : LocalDaemonClient) (s : Store) : Reaches client s s := .inl rfl

theorem reaches_call (method : DaemonCall) (project : DaemonResult → Option α) :
    Reaches client s (client.call env exchange method project s).2 := by
  cases exchange with
  | notReached error => exact .inl rfl
  | replyLost error => exact .inr ⟨.request env ⟨"native-host", method⟩, rfl⟩
  | complete => exact .inr ⟨.request env ⟨"native-host", method⟩, rfl⟩

theorem reaches_map {m : FailState Store SharedError α} {f : α → NativeBridgeResponse}
    (h : Reaches client s (m s).2) :
    Reaches client s
      ((m >>= fun a => pure (f a) : FailState Store SharedError NativeBridgeResponse) s).2 := by
  cases hrun : m s with
  | mk x s' =>
    rw [hrun] at h
    cases x with
    | ok a =>
      rw [FailState.bind_ok hrun]
      exact h
    | error e =>
      rw [FailState.bind_error hrun]
      exact h

theorem reaches_callDaemon (request : NativeBridgeRequest) :
    Reaches client s (callDaemon (client.rpc env exchange) request s).2 := by
  cases request with
  | requestResolve replyTo params =>
    change Reaches client s ((FailState.lift (validateRequestResolveParams params) >>= _) s).2
    cases validateRequestResolveParams params with
    | error e => exact .inl rfl
    | ok params => exact reaches_map (reaches_call _ _)
  | _ => exact reaches_map (reaches_call _ _)

theorem reaches_handleRequest (request : NativeBridgeRequest) :
    Reaches client s (handleRequest (client.rpc env exchange) request s).2 := by
  have hcall : Reaches client s (callDaemon (client.rpc env exchange) request s).2 :=
    reaches_callDaemon request
  unfold handleRequest
  split
  next => exact .inl rfl
  next =>
    split
    next hrun =>
      rw [hrun] at hcall
      exact hcall
    next hrun =>
      rw [hrun] at hcall
      exact hcall

/-- A status comes from the store, and reading it changes nothing. -/
theorem getRequestStatus_ok {id : RequestId} {result : GetRequestStatusResult}
    (h : client.getRequestStatus env exchange id s = (.ok result, s')) :
    s' = s ∧ ∃ r, s.getRequest id = some r ∧ result.status = r.status := by
  have hdispatch : client.daemon.coordinator.dispatch env (.getRequestStatus id) s =
      (CoordinatorResponse.requestStatus <$> Coordinator.getRequestStatus id s, s) := by
    simp only [Coordinator.dispatch, FailState.map_apply]
    unfold reading
    cases Coordinator.getRequestStatus id s <;> rfl
  have hreply : client.daemon.dispatchCall env "native-host"
      (.requestGetStatus (.ok ⟨daemonProtocolVersion, id⟩)) s =
      (s.getRequest id).elim
        (.error (mapRuntimeError (sharedError .requestNotFound "Request not found")), s)
        fun r => (.ok (.response (.requestStatus (projectRequestStatus r))), s) := by
    change client.daemon.expectResponse env (.getRequestStatus id) _ s = _
    unfold Daemon.expectResponse
    rw [hdispatch]
    unfold Coordinator.getRequestStatus
    cases s.getRequest id <;> rfl
  unfold LocalDaemonClient.getRequestStatus LocalDaemonClient.call at h
  cases exchange with
  | notReached error => cases h
  | replyLost error => cases h
  | complete =>
    unfold Daemon.dispatchRequest at h
    cases hr : s.getRequest id with
    | none =>
      rw [hr] at hreply
      rw [FailState.bind_error hreply] at h
      dsimp only at h
      unfold received at h
      split_ifs at h <;> cases h
    | some r =>
      rw [hr] at hreply
      rw [FailState.bind_ok hreply] at h
      dsimp only [FailState.pure_apply] at h
      unfold received at h
      split_ifs at h
      · cases h
      · cases h
        exact ⟨rfl, r, rfl, rfl⟩

end Calls

section Turns

variable {client : LocalDaemonClient} {order : ByteOrder} {h : Host}

theorem moves_mainTurn : Moves client order h (h.mainTurn order) := by
  unfold Host.mainTurn
  split
  next request response hmain =>
    split
    · exact .stay
    · next hfree => exact .lockState hmain (by simpa using hfree)
  next request response hmain => exact .observe hmain
  next response hmain =>
    split
    · exact .stay
    · next hfree => exact .lockWriter hmain (by simpa using hfree)
  next response hmain =>
    split
    · next hfits => exact .writeLength hmain hfits
    · exact .ended fun r hr => by simp [hmain] at hr
  next response hmain => exact .writePayload hmain
  next hmain =>
    split
    · exact .ended fun r hr => by simp [hmain] at hr
    · exact .stay
  next => exact .stay
  next => exact .stay

theorem moves_mark {result : RequestHasAvailableResult} {rest : List WalletInstanceId}
    (hnow : h.notifier = .marking result rest) : Moves client order h (h.mark result rest) := by
  unfold Host.mark
  cases hentry : h.state.wallets.find result.walletInstanceId with
  | none => exact .unknown hnow hentry
  | some entry =>
    dsimp only
    cases havailable : result.available with
    | false => simpa using Moves.clear hnow hentry havailable
    | true =>
      cases hnotified : entry.lastAvailableNotified with
      | false => simpa using Moves.mark hnow hentry havailable hnotified
      | true => simpa using Moves.unchanged hnow hentry havailable hnotified

theorem moves_notifierTurn : Moves client order h (h.notifierTurn order) := by
  unfold Host.notifierTurn
  split
  next hnow =>
    split_ifs with hrunning hheld
    · exact .stay
    · exact .listWallets hnow (by simpa using hheld)
    · exact .stopped hnow
  next hnow => exact .wallets hnow
  next hnow => exact .walletsDone hnow
  next => exact .stay
  next result rest hnow =>
    split
    · exact .stay
    · next hfree => exact .lockMark hnow (by simpa using hfree)
  next result rest hnow => exact moves_mark hnow
  next w rest hnow =>
    split
    · exact .stay
    · next hfree => exact .lockAvailable hnow (by simpa using hfree)
  next w rest hnow =>
    split
    · next hfits => exact .availableLength hnow hfits
    · next hlong => exact .availableTooLong hnow hlong
  next w rest hnow => exact .availablePayload hnow
  next hnow =>
    split
    · exact .stay
    · next hfree => exact .listRequests hnow (by simpa using hfree)
  next hnow => exact .requests hnow
  next hnow => exact .requestsDone hnow
  next => exact .stay
  next id w rest hnow =>
    split
    · exact .stay
    · next hfree => exact .lockCancelled hnow (by simpa using hfree)
  next id w rest hnow =>
    split
    · next hfits => exact .cancelledLength hnow hfits
    · exact .cancelledTooLong hnow
  next id w rest hnow => exact .cancelledPayload hnow
  next id rest hnow =>
    split
    · exact .stay
    · next hfree => exact .lockTerminal hnow (by simpa using hfree)
  next id rest hnow => exact .remove hnow
  next => exact .stay

theorem moves_poll (env : Env) (exchange : Exchange) :
    Moves client order h (h.poll client env exchange) := by
  unfold Host.poll
  split
  next w rest hnow =>
    have hstore : Reaches client h.store (client.requestHasAvailable env exchange w h.store).2 :=
      reaches_call _ _
    split
    next result s' hrun =>
      rw [hrun] at hstore
      exact .polledWallet hnow hstore
    next e s' hrun =>
      rw [hrun] at hstore
      exact .walletFailed hnow hstore
  next entry rest hnow =>
    have hstore : Reaches client h.store (client.getRequestStatus env exchange entry.1 h.store).2 :=
      reaches_call _ _
    split
    next result s' hrun =>
      obtain ⟨rfl, r, hr, hstatus⟩ := getRequestStatus_ok hrun
      rw [hstatus]
      exact .polledRequest hnow hr
    next e s' hrun =>
      rw [hrun] at hstore
      exact .requestFailed hnow hstore
  next => exact .stay

theorem moves_handle (request : NativeBridgeRequest) (env : Env) (exchange : Exchange) :
    Moves client order h (h.handle client request env exchange) := by
  unfold Host.handle
  split
  next hmain => exact .handled hmain (reaches_handleRequest request)
  next => exact .stay

theorem step_moves (event : HostEvent) : Moves client order h (h.step client order event) := by
  unfold Host.step
  cases event with
  | daemon step => exact .daemon step
  | frame request env exchange =>
    dsimp only
    split
    · exact .stay
    · exact moves_handle request env exchange
  | endOfInput =>
    dsimp only
    split
    · exact .stay
    · split
      next hmain => exact .endOfInput hmain
      next => exact .stay
  | badInput =>
    dsimp only
    split
    · exact .stay
    · split
      next hmain => exact .ended fun r hr => by simp [hmain] at hr
      next => exact .stay
  | main =>
    dsimp only
    split
    · exact .stay
    · exact moves_mainTurn
  | poll env exchange =>
    dsimp only
    split
    · exact .stay
    · exact moves_poll env exchange
  | notifier =>
    dsimp only
    split
    · exact .stay
    · exact moves_notifierTurn

/-- What every turn keeps holds in every run. -/
theorem run_invariant (Inv : Host → Prop) (hmoves : ∀ h h', Inv h → Moves client order h h' → Inv h')
    {s : Store} (hstart : Inv (Host.start s)) (events : List HostEvent) :
    Inv (Host.run client order s events) :=
  Trace.run_invariant (fun h event hinv => hmoves h _ hinv (step_moves event)) hstart events

end Turns

/-! ## The two mutexes -/

/-- Neither mutex has two owners. -/
structure Exclusive (h : Host) : Prop where
  state : h.main.holdsState = true → h.notifier.holdsState = false
  writer : h.main.holdsWriter = true → h.notifier.holdsWriter = false

section Exclusive

variable {client : LocalDaemonClient} {order : ByteOrder} {h h' : Host}

theorem holdsState_settle {id : RequestId} {w : WalletInstanceId} {status : RequestStatus}
    {rest : List (RequestId × WalletInstanceId)} : (Host.settle id w status rest).holdsState = false := by
  unfold Host.settle
  split_ifs <;> rfl

theorem holdsWriter_settle {id : RequestId} {w : WalletInstanceId} {status : RequestStatus}
    {rest : List (RequestId × WalletInstanceId)} : (Host.settle id w status rest).holdsWriter = false := by
  unfold Host.settle
  split_ifs <;> rfl

theorem Exclusive.moves (hx : Exclusive h) (hm : Moves client order h h') : Exclusive h' := by
  obtain ⟨hstate, hwriter⟩ := hx
  cases hm with
  | stay => exact ⟨hstate, hwriter⟩
  | daemon step => exact ⟨hstate, hwriter⟩
  | polledRequest hnow hr =>
    exact ⟨fun _ => holdsState_settle, fun _ => holdsWriter_settle⟩
  | lockState hmain hfree => exact ⟨fun _ => hfree, nofun⟩
  | lockWriter hmain hfree => exact ⟨nofun, fun _ => hfree⟩
  | writeLength hmain hfits => exact ⟨nofun, fun _ => hwriter (by rw [hmain]; rfl)⟩
  | listWallets hnow hfree | lockMark hnow hfree | listRequests hnow hfree | lockTerminal hnow hfree =>
    exact ⟨fun hheld => absurd hheld (by simp [hfree]), fun _ => rfl⟩
  | mark hnow =>
    refine ⟨fun hheld => ?_, fun _ => rfl⟩
    have hold := hstate hheld
    rw [hnow] at hold
    cases hold
  | lockAvailable hnow hfree =>
    refine ⟨fun hheld => ?_, fun hheld => absurd hheld (by simp [hfree])⟩
    have hold := hstate hheld
    rw [hnow] at hold
    cases hold
  | availableLength hnow =>
    refine ⟨fun hheld => ?_, fun hheld => ?_⟩
    · have hold := hstate hheld
      rw [hnow] at hold
      cases hold
    · have hold := hwriter hheld
      rw [hnow] at hold
      cases hold
  | lockCancelled hnow hfree => exact ⟨fun _ => rfl, fun hheld => absurd hheld (by simp [hfree])⟩
  | cancelledLength hnow =>
    refine ⟨fun _ => rfl, fun hheld => ?_⟩
    have hold := hwriter hheld
    rw [hnow] at hold
    cases hold
  -- what is left gives up what the thread held
  | handled | endOfInput | ended | observe | writePayload => exact ⟨nofun, nofun⟩
  | _ => exact ⟨fun _ => rfl, fun _ => rfl⟩

theorem exclusive_run (client : LocalDaemonClient) (order : ByteOrder) (s : Store)
    (events : List HostEvent) :
    Exclusive (Host.run client order s events) :=
  run_invariant Exclusive (fun _ _ hx hm => hx.moves hm) ⟨nofun, nofun⟩ events

end Exclusive

/-! ## What is on the standard output -/

/-- The messages that were written in full, in order. -/
def written (log : List LogEntry) : List Outgoing :=
  log.filterMap fun
    | .wrote message => some message
    | _ => none

/-- The message whose length is out and whose payload is not. -/
def MainPhase.inHand : MainPhase → Option Outgoing
  | .writing response .payload => some (.response response)
  | _ => none

def NotifierPhase.inHand : NotifierPhase → Option Outgoing
  | .available w _ .payload => some (.requestAvailable w)
  | .cancelled id w _ .payload => some (.requestCancelled id w)
  | _ => none

def Host.inHand (h : Host) : Option Outgoing := h.main.inHand.or h.notifier.inHand

/-- Whole frames, and at most the beginning of one more. -/
structure Framed (order : ByteOrder) (h : Host) : Prop where
  stdout : h.stdout = (written h.log).flatMap (fun m => frame order m.toVec) ++
    h.inHand.elim [] fun m => toNeBytes order m.toVec.length
  fits : ∀ m ∈ written h.log, m.Fits
  current : ∀ m, h.inHand = some m → m.Fits

section Framed

variable {client : LocalDaemonClient} {order : ByteOrder} {h h' : Host} {m : Outgoing}

theorem written_wrote (log : List LogEntry) (m : Outgoing) :
    written (log ++ [.wrote m]) = written log ++ [m] := by
  simp [written, List.filterMap_append]

theorem mainHolds_of_inHand (hin : h.main.inHand = some m) : h.main.holdsWriter = true := by
  unfold MainPhase.inHand at hin
  split at hin
  next hmain => rw [hmain]; rfl
  next => cases hin

theorem notifierHolds_of_inHand (hin : h.notifier.inHand = some m) : h.notifier.holdsWriter = true := by
  unfold NotifierPhase.inHand at hin
  split at hin
  next hnow => rw [hnow]; rfl
  next hnow => rw [hnow]; rfl
  next => cases hin

theorem notifier_inHand_none (hx : Exclusive h) (hmain : h.main.holdsWriter = true) :
    h.notifier.inHand = none := by
  cases hin : h.notifier.inHand with
  | none => rfl
  | some m => exact absurd (notifierHolds_of_inHand hin) (by simp [hx.writer hmain])

theorem main_inHand_none (hx : Exclusive h) (hnow : h.notifier.holdsWriter = true) :
    h.main.inHand = none := by
  cases hin : h.main.inHand with
  | none => rfl
  | some m => exact absurd (hx.writer (mainHolds_of_inHand hin)) (by simp [hnow])

theorem Framed.same (hf : Framed order h) (hout : h'.stdout = h.stdout)
    (hlog : written h'.log = written h.log) (hin : h'.inHand = h.inHand) : Framed order h' := by
  refine ⟨?_, ?_, ?_⟩
  · rw [hout, hlog, hin]
    exact hf.stdout
  · rw [hlog]
    exact hf.fits
  · rw [hin]
    exact hf.current

/-- The length of a message goes out when no other message is under way. -/
theorem Framed.length (hf : Framed order h) (hfits : m.Fits) (hnone : h.inHand = none)
    (hout : h'.stdout = h.stdout ++ toNeBytes order m.toVec.length) (hlog : h'.log = h.log)
    (hin : h'.inHand = some m) : Framed order h' := by
  refine ⟨?_, ?_, ?_⟩
  · rw [hout, hlog, hin, hf.stdout, hnone]
    simp
  · rw [hlog]
    exact hf.fits
  · rw [hin]
    rintro m' ⟨⟩
    exact hfits

/-- The payload completes the frame. -/
theorem Framed.payload (hf : Framed order h) (hsome : h.inHand = some m)
    (hout : h'.stdout = h.stdout ++ m.toVec) (hlog : h'.log = h.log ++ [.wrote m])
    (hin : h'.inHand = none) : Framed order h' := by
  refine ⟨?_, ?_, ?_⟩
  · rw [hout, hlog, hin, hf.stdout, hsome, written_wrote, List.flatMap_append]
    simp [frame]
  · rw [hlog, written_wrote]
    intro m' hm'
    rcases List.mem_append.mp hm' with hold | hnew
    · exact hf.fits m' hold
    · rw [List.mem_singleton.mp hnew]
      exact hf.current m hsome
  · rw [hin]
    rintro m' ⟨⟩

theorem inHand_settle {id : RequestId} {w : WalletInstanceId} {status : RequestStatus}
    {rest : List (RequestId × WalletInstanceId)} : (Host.settle id w status rest).inHand = none := by
  unfold Host.settle
  split_ifs <;> rfl

theorem Framed.moves (hf : Framed order h) (hx : Exclusive h) (hm : Moves client order h h') :
    Framed order h' := by
  cases hm with
  | stay => exact hf
  | daemon step => exact ⟨hf.stdout, hf.fits, hf.current⟩
  | ended hmain =>
    have hnone : h.main.inHand = none := by
      unfold MainPhase.inHand
      split
      next r hr => exact absurd hr (hmain r)
      next => rfl
    refine hf.same rfl rfl ?_
    unfold Host.inHand
    rw [hnone]
    rfl
  | writeLength hmain hfits =>
    have hnotifier := notifier_inHand_none hx (by rw [hmain]; rfl)
    exact hf.length hfits (by simp [Host.inHand, hnotifier, hmain, MainPhase.inHand]) rfl rfl rfl
  | writePayload hmain =>
    have hnotifier := notifier_inHand_none hx (by rw [hmain]; rfl)
    refine hf.payload (by simp [Host.inHand, hmain, MainPhase.inHand]) rfl rfl ?_
    change none.or h.notifier.inHand = none
    rw [hnotifier]
    rfl
  | availableLength hnow hfits =>
    have hmain := main_inHand_none hx (by rw [hnow]; rfl)
    exact hf.length hfits (by simp [Host.inHand, hmain, hnow, NotifierPhase.inHand]) rfl rfl
      (by simp [Host.inHand, Host.writeLength, hmain, NotifierPhase.inHand])
  | availablePayload hnow =>
    have hmain := main_inHand_none hx (by rw [hnow]; rfl)
    exact hf.payload (by simp [Host.inHand, hmain, hnow, NotifierPhase.inHand]) rfl rfl
      (by simp [Host.inHand, Host.writePayload, hmain, NotifierPhase.inHand])
  | cancelledLength hnow hfits =>
    have hmain := main_inHand_none hx (by rw [hnow]; rfl)
    exact hf.length hfits (by simp [Host.inHand, hmain, hnow, NotifierPhase.inHand]) rfl rfl
      (by simp [Host.inHand, Host.writeLength, hmain, NotifierPhase.inHand])
  | cancelledPayload hnow =>
    have hmain := main_inHand_none hx (by rw [hnow]; rfl)
    exact hf.payload (by simp [Host.inHand, hmain, hnow, NotifierPhase.inHand]) rfl rfl
      (by simp [Host.inHand, Host.writePayload, hmain, NotifierPhase.inHand])
  | polledRequest hnow hr =>
    refine hf.same rfl rfl ?_
    unfold Host.inHand
    dsimp only
    rw [inHand_settle, hnow]
    rfl
  | _ =>
    refine hf.same rfl ?_ ?_
    · simp [written, List.filterMap_append]
    · simp_all [Host.inHand, MainPhase.inHand, NotifierPhase.inHand]

theorem framed_run (client : LocalDaemonClient) (order : ByteOrder) (s : Store) (events : List HostEvent) :
    Framed order (Host.run client order s events) := by
  have hboth : Exclusive (Host.run client order s events) ∧
      Framed order (Host.run client order s events) := by
    refine run_invariant (fun h => Exclusive h ∧ Framed order h) ?_ ?_ events
    · rintro h h' ⟨hx, hf⟩ hm
      exact ⟨hx.moves hm, hf.moves hx hm⟩
    · exact ⟨⟨nofun, nofun⟩, rfl, by simp [Host.start, written], by simp [Host.start, Host.inHand,
        MainPhase.inHand, NotifierPhase.inHand]⟩
  exact hboth.2

end Framed

/-! ## No deadlock -/

section Progress

variable {client : LocalDaemonClient} {order : ByteOrder} {h : Host}

/-- The turns of its own after which the notifier has given up the state. -/
def NotifierPhase.stateTurns : NotifierPhase → ℕ
  | .listingWallets | .listingRequests | .removing _ _ => 1
  | .marking _ _ => 4
  | .available _ _ .waiting => 3
  | .available _ _ .header => 2
  | .available _ _ .payload => 1
  | _ => 0

def NotifierPhase.writerTurns : NotifierPhase → ℕ
  | .available _ _ .header | .cancelled _ _ _ .header => 2
  | .available _ _ .payload | .cancelled _ _ _ .payload => 1
  | _ => 0

def MainPhase.stateTurns : MainPhase → ℕ
  | .observing _ _ => 1
  | _ => 0

def MainPhase.writerTurns : MainPhase → ℕ
  | .writing _ .header => 2
  | .writing _ .payload => 1
  | _ => 0

/-- The main thread waits for what the notifier has. -/
def Host.mainBlocked (h : Host) : Bool :=
  match h.main with
  | .handled _ _ => h.notifier.holdsState
  | .writing _ .waiting => h.notifier.holdsWriter
  | _ => false

/-- The notifier waits for what the main thread has. -/
def Host.notifierBlocked (h : Host) : Bool :=
  match h.notifier with
  | .sleeping | .availability _ _ | .pollingRequests | .terminal _ _ => h.main.holdsState
  | .available _ _ .waiting | .cancelled _ _ _ .waiting => h.main.holdsWriter
  | _ => false

theorem notifier_stateTurns_le (phase : NotifierPhase) : phase.stateTurns ≤ 4 := by
  unfold NotifierPhase.stateTurns
  split <;> omega

theorem notifier_writerTurns_le (phase : NotifierPhase) : phase.writerTurns ≤ 4 := by
  unfold NotifierPhase.writerTurns
  split <;> omega

theorem main_stateTurns_le (phase : MainPhase) : phase.stateTurns ≤ 2 := by
  unfold MainPhase.stateTurns
  split <;> omega

theorem main_writerTurns_le (phase : MainPhase) : phase.writerTurns ≤ 2 := by
  unfold MainPhase.writerTurns
  split <;> omega

theorem step_notifier (hover : h.isOver = false) :
    h.step client order .notifier = h.notifierTurn order := by
  unfold Host.step
  simp [hover]

theorem step_main (hover : h.isOver = false) : h.step client order .main = h.mainTurn order := by
  unfold Host.step
  simp [hover]

theorem notifierTurn_main : (h.notifierTurn order).main = h.main := by
  unfold Host.notifierTurn
  split <;> (try split) <;> (try split) <;> try rfl
  unfold Host.mark
  split
  · rfl
  · dsimp only
    split
    · rfl
    · split <;> rfl

/-- The notifier does not wait for the main thread while it has the state, unless for the writer. -/
theorem stateTurns_decreases (hwriter : h.main.holdsWriter = false) (hpos : 0 < h.notifier.stateTurns) :
    (h.notifierTurn order).notifier.stateTurns < h.notifier.stateTurns := by
  unfold Host.notifierTurn
  cases hnow : h.notifier with
  | marking result rest =>
    dsimp only
    unfold Host.mark
    split
    · simp [NotifierPhase.stateTurns]
    · dsimp only
      split
      · simp [NotifierPhase.stateTurns]
      · split <;> simp [NotifierPhase.stateTurns]
  | available w rest stage =>
    cases stage with
    | waiting => simp [hwriter, NotifierPhase.stateTurns]
    | header =>
      dsimp only
      split <;> simp [NotifierPhase.stateTurns]
    | payload => simp [NotifierPhase.stateTurns]
  | listingWallets | listingRequests | removing => simp [NotifierPhase.stateTurns]
  | _ =>
    rw [hnow] at hpos
    cases hpos

theorem writerTurns_decreases (hpos : 0 < h.notifier.writerTurns) :
    (h.notifierTurn order).notifier.writerTurns < h.notifier.writerTurns := by
  unfold Host.notifierTurn
  cases hnow : h.notifier with
  | available w rest stage =>
    cases stage with
    | waiting =>
      rw [hnow] at hpos
      cases hpos
    | header =>
      dsimp only
      split <;> simp [NotifierPhase.writerTurns]
    | payload => simp [NotifierPhase.writerTurns]
  | cancelled id w rest stage =>
    cases stage with
    | waiting =>
      rw [hnow] at hpos
      cases hpos
    | header =>
      dsimp only
      split <;> simp [NotifierPhase.writerTurns]
    | payload => simp [NotifierPhase.writerTurns]
  | _ =>
    rw [hnow] at hpos
    cases hpos

/-- The main thread never waits while it has a mutex. -/
theorem main_stateTurns_decreases (order : ByteOrder) (hpos : 0 < h.main.stateTurns) :
    h.isOver = false ∧ (h.mainTurn order).notifier = h.notifier ∧
      (h.mainTurn order).main.stateTurns < h.main.stateTurns := by
  cases hmain : h.main with
  | observing request response => simp [Host.isOver, Host.mainTurn, hmain, MainPhase.stateTurns]
  | _ =>
    rw [hmain] at hpos
    cases hpos

theorem main_writerTurns_decreases (order : ByteOrder) (hpos : 0 < h.main.writerTurns) :
    h.isOver = false ∧ (h.mainTurn order).notifier = h.notifier ∧
      (h.mainTurn order).main.writerTurns < h.main.writerTurns := by
  cases hmain : h.main with
  | writing response stage =>
    cases stage with
    | waiting =>
      rw [hmain] at hpos
      cases hpos
    | header =>
      refine ⟨by simp [Host.isOver, hmain], ?_⟩
      unfold Host.mainTurn
      rw [hmain]
      dsimp only
      split <;> simp [Host.writeLength, MainPhase.writerTurns]
    | payload => simp [Host.isOver, Host.mainTurn, Host.writePayload, hmain, MainPhase.writerTurns]
  | _ =>
    rw [hmain] at hpos
    cases hpos

theorem notifier_holdsState_iff (phase : NotifierPhase) :
    phase.holdsState = false ↔ phase.stateTurns = 0 := by
  cases phase with
  | available w rest stage => cases stage <;> simp [NotifierPhase.holdsState, NotifierPhase.stateTurns]
  | _ => simp [NotifierPhase.holdsState, NotifierPhase.stateTurns]

theorem notifier_holdsWriter_iff (phase : NotifierPhase) :
    phase.holdsWriter = false ↔ phase.writerTurns = 0 := by
  cases phase with
  | available w rest stage => cases stage <;> simp [NotifierPhase.holdsWriter, NotifierPhase.writerTurns]
  | cancelled id w rest stage => cases stage <;> simp [NotifierPhase.holdsWriter, NotifierPhase.writerTurns]
  | _ => simp [NotifierPhase.holdsWriter, NotifierPhase.writerTurns]

theorem main_holdsState_iff (phase : MainPhase) : phase.holdsState = false ↔ phase.stateTurns = 0 := by
  cases phase <;> simp [MainPhase.holdsState, MainPhase.stateTurns]

theorem main_holdsWriter_iff (phase : MainPhase) : phase.holdsWriter = false ↔ phase.writerTurns = 0 := by
  cases phase with
  | writing response stage => cases stage <;> simp [MainPhase.holdsWriter, MainPhase.writerTurns]
  | _ => simp [MainPhase.holdsWriter, MainPhase.writerTurns]

theorem main_unblocks (client : LocalDaemonClient) (order : ByteOrder) (h : Host) : ∃ n ≤ 4,
    (Trace.run (Host.step client order) h (List.replicate n .notifier)).main = h.main ∧
    (Trace.run (Host.step client order) h (List.replicate n .notifier)).mainBlocked = false := by
  cases hmain : h.main with
  | handled request response =>
    have hturn : ∀ h' : Host, h'.main = .handled request response → 0 < h'.notifier.stateTurns →
        (h'.step client order .notifier).main = .handled request response ∧
          (h'.step client order .notifier).notifier.stateTurns < h'.notifier.stateTurns := by
      intro h' hmain' hpos
      rw [step_notifier (by simp [Host.isOver, hmain']), notifierTurn_main]
      exact ⟨hmain', stateTurns_decreases (by rw [hmain']; rfl) hpos⟩
    obtain ⟨n, hn, hsame, hzero⟩ := Trace.run_replicate_descends hturn h hmain
    refine ⟨n, hn.trans (notifier_stateTurns_le _), hsame, ?_⟩
    unfold Host.mainBlocked
    rw [hsame]
    exact (notifier_holdsState_iff _).mpr hzero
  | writing response stage =>
    cases stage with
    | waiting =>
      have hturn : ∀ h' : Host, h'.main = .writing response .waiting → 0 < h'.notifier.writerTurns →
          (h'.step client order .notifier).main = .writing response .waiting ∧
            (h'.step client order .notifier).notifier.writerTurns < h'.notifier.writerTurns := by
        intro h' hmain' hpos
        rw [step_notifier (by simp [Host.isOver, hmain']), notifierTurn_main]
        exact ⟨hmain', writerTurns_decreases hpos⟩
      obtain ⟨n, hn, hsame, hzero⟩ := Trace.run_replicate_descends hturn h hmain
      refine ⟨n, hn.trans (notifier_writerTurns_le _), hsame, ?_⟩
      unfold Host.mainBlocked
      rw [hsame]
      exact (notifier_holdsWriter_iff _).mpr hzero
    | header => exact ⟨0, Nat.zero_le _, hmain, by simp [Host.mainBlocked, hmain]⟩
    | payload => exact ⟨0, Nat.zero_le _, hmain, by simp [Host.mainBlocked, hmain]⟩
  | _ => exact ⟨0, Nat.zero_le _, hmain, by simp [Host.mainBlocked, hmain]⟩

theorem notifier_unblocks (client : LocalDaemonClient) (order : ByteOrder) (h : Host) : ∃ n ≤ 2,
    (Trace.run (Host.step client order) h (List.replicate n .main)).notifier = h.notifier ∧
    (Trace.run (Host.step client order) h (List.replicate n .main)).notifierBlocked = false := by
  have hstate : ∃ n ≤ 2, (Trace.run (Host.step client order) h (List.replicate n .main)).notifier =
    h.notifier ∧
      (Trace.run (Host.step client order) h (List.replicate n .main)).main.stateTurns = 0 := by
    have hturn : ∀ h' : Host, h'.notifier = h.notifier → 0 < h'.main.stateTurns →
        (h'.step client order .main).notifier = h.notifier ∧
          (h'.step client order .main).main.stateTurns < h'.main.stateTurns := by
      intro h' hnow hpos
      obtain ⟨hover, hsame, hless⟩ := main_stateTurns_decreases order hpos
      rw [step_main hover]
      exact ⟨hsame.trans hnow, hless⟩
    obtain ⟨n, hn, hsame, hzero⟩ := Trace.run_replicate_descends hturn h rfl
    exact ⟨n, hn.trans (main_stateTurns_le _), hsame, hzero⟩
  have hwriter : ∃ n ≤ 2, (Trace.run (Host.step client order) h (List.replicate n .main)).notifier =
    h.notifier ∧
      (Trace.run (Host.step client order) h (List.replicate n .main)).main.writerTurns = 0 := by
    have hturn : ∀ h' : Host, h'.notifier = h.notifier → 0 < h'.main.writerTurns →
        (h'.step client order .main).notifier = h.notifier ∧
          (h'.step client order .main).main.writerTurns < h'.main.writerTurns := by
      intro h' hnow hpos
      obtain ⟨hover, hsame, hless⟩ := main_writerTurns_decreases order hpos
      rw [step_main hover]
      exact ⟨hsame.trans hnow, hless⟩
    obtain ⟨n, hn, hsame, hzero⟩ := Trace.run_replicate_descends hturn h rfl
    exact ⟨n, hn.trans (main_writerTurns_le _), hsame, hzero⟩
  cases hnow : h.notifier with
  | sleeping | availability | pollingRequests | terminal =>
    obtain ⟨n, hn, hsame, hzero⟩ := hstate
    rw [hnow] at hsame
    refine ⟨n, hn, hsame, ?_⟩
    unfold Host.notifierBlocked
    rw [hsame]
    exact (main_holdsState_iff _).mpr hzero
  | available w rest stage =>
    obtain ⟨n, hn, hsame, hzero⟩ := hwriter
    rw [hnow] at hsame
    refine ⟨n, hn, hsame, ?_⟩
    unfold Host.notifierBlocked
    rw [hsame]
    cases stage with
    | waiting => exact (main_holdsWriter_iff _).mpr hzero
    | header => rfl
    | payload => rfl
  | cancelled id w rest stage =>
    obtain ⟨n, hn, hsame, hzero⟩ := hwriter
    rw [hnow] at hsame
    refine ⟨n, hn, hsame, ?_⟩
    unfold Host.notifierBlocked
    rw [hsame]
    cases stage with
    | waiting => exact (main_holdsWriter_iff _).mpr hzero
    | header => rfl
    | payload => rfl
  | _ => exact ⟨0, Nat.zero_le _, hnow, by simp [Host.notifierBlocked, hnow]⟩

end Progress

/-- The two threads share a stream and two mutexes, and come to no harm by it. At every point of
every run no mutex has two owners, and what is on the standard output reads back, in whatever pieces
it is delivered, as the messages written in full, in their order, with nothing after them unless a
message is under way. A thread that waits for a mutex gets it after at most four turns of the other. -/
theorem threads_share_stdout (client : LocalDaemonClient) (order : ByteOrder) (s : Store)
    (events : List HostEvent) :
    Exclusive (Host.run client order s events) ∧
    (∀ script : List Turn, (∀ t ∈ script, ∃ extra, t = .give extra) →
      readFrames order (written (Host.run client order s events).log).length
          ⟨(Host.run client order s events).stdout, script⟩ =
        (written (Host.run client order s events).log).map (fun m => .ok (some m.toVec)) ∧
      ((Host.run client order s events).inHand = none →
        readFrames order ((written (Host.run client order s events).log).length + 1)
            ⟨(Host.run client order s events).stdout, script⟩ =
          (written (Host.run client order s events).log).map (fun m => .ok (some m.toVec)) ++ [.ok none])) ∧
    (∃ n ≤ 4, (Host.run client order s (events ++ List.replicate n .notifier)).main =
        (Host.run client order s events).main ∧
      (Host.run client order s (events ++ List.replicate n .notifier)).mainBlocked = false) ∧
    (∃ n ≤ 4, (Host.run client order s (events ++ List.replicate n .main)).notifier =
        (Host.run client order s events).notifier ∧
      (Host.run client order s (events ++ List.replicate n .main)).notifierBlocked = false) := by
  have hframed := framed_run client order s events
  refine ⟨exclusive_run client order s events, fun script hscript => ?_, ?_, ?_⟩
  · generalize Host.run client order s events = h at hframed
    have hstdout : h.stdout = ((written h.log).map Outgoing.toVec).flatMap (frame order) ++
        h.inHand.elim [] fun m => toNeBytes order m.toVec.length := by
      rw [hframed.stdout, List.flatMap_map]
    have hle : ∀ p ∈ (written h.log).map Outgoing.toVec, p.length ≤ nativeBridgeMaxOutboundBytes := by
      intro p hp
      obtain ⟨m, hm, rfl⟩ := List.mem_map.mp hp
      exact hframed.fits m hm
    have hread : ∀ n, ∃ r', readFrames order ((written h.log).length + n) ⟨h.stdout, script⟩ =
        (written h.log).map (fun m => .ok (some m.toVec)) ++ readFrames order n r' ∧
        r'.remaining = h.inHand.elim [] (fun m => toNeBytes order m.toVec.length) ∧ r'.Gives := by
      intro n
      obtain ⟨r', hframes, hrest, hgives⟩ := readFrames_of_append order n
        (r := ⟨h.stdout, script⟩) hscript hle hstdout
      rw [List.length_map, List.map_map] at hframes
      exact ⟨r', hframes, hrest, hgives⟩
    constructor
    · obtain ⟨r', hframes, -, -⟩ := hread 0
      rw [Nat.add_zero] at hframes
      rw [hframes]
      exact List.append_nil _
    · intro hnone
      obtain ⟨r', hframes, hrest, hgives⟩ := hread 1
      rw [hnone] at hrest
      rw [hframes]
      change _ ++ [(readFrame order r').1] = _
      rw [readFrame_at_end hgives hrest]
  · obtain ⟨n, hn, hsame, hfree⟩ := main_unblocks client order (Host.run client order s events)
    unfold Host.run at hsame hfree ⊢
    rw [← Trace.run_append] at hsame hfree
    exact ⟨n, hn, hsame, hfree⟩
  · obtain ⟨n, hn, hsame, hfree⟩ := notifier_unblocks client order (Host.run client order s events)
    unfold Host.run at hsame hfree ⊢
    rw [← Trace.run_append] at hsame hfree
    exact ⟨n, hn.trans (by omega), hsame, hfree⟩

end StarcoinMcp.NativeHost
