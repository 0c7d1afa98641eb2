import StarcoinMcp.Host.State
import StarcoinMcp.Lib.FileMachine

/-! The protocol by which the processes of the host share the state file: the requests
that `TransferStateStore` and `LockedState` make of the file system, in their order, and
what they do about those that fail. The file system holds, of every file, what
`json.loads` makes of it. File modes are left out, and so are the failures of what only
changes them. -/

namespace StarcoinMcp.Host

open Py (get)
open Prog (act ensuring)

/-- What `json.loads` makes of a file, if it is JSON. -/
abbrev FileContents := Option Py

abbrev StoreProg := Prog (FileOp FileContents) (FileOp.Ans Exc) Exc

/-! ## Reading and writing -/

namespace TransferStateStore

/-- `read`. A path that names no file is `FileNotFoundError`. -/
def read : StoreProg (List (String × Py)) := do
  match ← act .openPath with
  | none => pure stateDefault
  | some file =>
    let payload ← act (.readAll file)
    pure (readState payload)

/-- The `try` block of `_write_unlocked`, once there is a temporary file, up to the replacement. -/
def replaceBy (tempPath : ℕ) (state : List (String × Py)) : StoreProg Unit := do
  ensuring (do
    act (.write tempPath (writeState state))
    act (.sync tempPath)) (act (.closeDraft tempPath))
  act (.replace tempPath)

def writeUnlocked (state : List (String × Py)) : StoreProg Unit := do
  act .mkdir
  let tempPath ← act .createDraft
  match ← (replaceBy tempPath state).attempt with
  | .ok _ => act .syncDirectory
  | .error e =>
    -- `temp_path.unlink`, whose own failure is passed over
    let _ ← (act (.unlink tempPath)).attempt
    throw e

def createIfMissing : StoreProg Unit := do
  let there : Bool ← act .pathExists
  if there then pure () else writeUnlocked stateDefault

/-- `_initialize_state_file`. -/
def initializeStateFile : StoreProg Unit := do
  act .openLock
  ensuring (do
    act .lock
    ensuring createIfMissing (act .unlock)) (act .closeLock)

/-- `with self._locked_state() as state`. When `__enter__` raises there is no `__exit__`, and the
lock stays taken until the handle is collected. -/
def lockedState (body : List (String × Py) → Except Exc (List (String × Py))) : StoreProg Unit := do
  act .openLock
  act .lock
  let state ← read
  ensuring (do
    let state ← Prog.lift (body state)
    writeUnlocked state) (do
    act .unlock
    act .closeLock)

end TransferStateStore

/-! ## Operations -/

/-- What a process does with the store. `now` is what `utc_now_rfc3339` gives it. -/
inductive StoreOperation
  | construct
  | recordPrepared (session : TransferSession) (now : String)
  | recordUnresolvedSubmission (session : TransferSession) (submitResult : List (String × Py))
      (now : String)
  | clearUnresolvedSubmission (session : TransferSession)
  | read
  | requirePreparedForSubmit (session : TransferSession)
  | unresolvedForSession (session : TransferSession)

inductive StoreAnswer
  | done
  | state (state : List (String × Py))
  | unresolved (record : Option UnresolvedSubmissionRecord)

/-- What a body makes of the file. -/
def written (body : List (String × Py) → Except Exc (List (String × Py)))
    (file : Option FileContents) : Option FileContents :=
  match body (readState file.join) with
  | .ok state => some (writeState state)
  | .error _ => file

namespace StoreOperation

variable (py : Interpreter) (limits : StoreLimits)

/-- What the operation does to the state under the lock, if it takes it. -/
def body : StoreOperation →
    Except Exc (Option (List (String × Py) → Except Exc (List (String × Py))))
  | .recordPrepared session now => do
    let payloadHash ← sessionPayloadSha256 py session
    pure (some fun state => do
      let prepared ← pruneRecords py limits.maxPreparedRecords
        (Py.setItem payloadHash (preparedRecord payloadHash now session) (preparedRecords state))
      pure (Py.setItem "prepared_transactions" (.dict prepared) state))
  | .recordUnresolvedSubmission session submitResult now => do
    let payloadHash ← sessionPayloadSha256 py session
    pure ((nonBlank (get submitResult "txn_hash")).map fun txnHash state => do
      let unresolved ← pruneRecords py limits.maxUnresolvedRecords
        (Py.setItem payloadHash (unresolvedEntry payloadHash txnHash now submitResult)
          (unresolvedRecords state))
      pure (Py.setItem "unresolved_submissions" (.dict unresolved) state))
  | .clearUnresolvedSubmission session => do
    let payloadHash ← sessionPayloadSha256 py session
    pure (some fun state => pure (Py.setItem "unresolved_submissions"
      (.dict (Py.pop payloadHash (unresolvedRecords state))) state))
  | _ => .ok none

/-- What `require_prepared_for_submit` makes of the state it has read. -/
def checkAttested (payloadHash : String) (session : TransferSession) (state : List (String × Py)) :
    Except Exc Unit :=
  let record := get (preparedRecords state) payloadHash
  if record.isNone then
    .error (.runtimeError ("no persisted prepared-transfer attestation was found for this " ++
      "payload; prepare and dry-run the transfer again before requesting a signature"))
  else checkPrepared py record session

def lockedIf : Option (List (String × Py) → Except Exc (List (String × Py))) → StoreProg Unit
  | some body => TransferStateStore.lockedState body
  | none => pure ()

/-- An operation under the lock, if it takes it. -/
def updating (op : StoreOperation) : StoreProg StoreAnswer := do
  let body ← Prog.lift (op.body py limits)
  lockedIf body
  pure .done

def program : StoreOperation → StoreProg StoreAnswer
  | .construct => do
    act .mkdir
    act .touchLock
    TransferStateStore.initializeStateFile
    pure .done
  | .read => do
    let state ← TransferStateStore.read
    pure (.state state)
  | .requirePreparedForSubmit session => do
    let payloadHash ← Prog.lift (sessionPayloadSha256 py session)
    let state ← TransferStateStore.read
    Prog.lift (checkAttested py payloadHash session state)
    pure .done
  | .unresolvedForSession session => do
    let payloadHash ← Prog.lift (sessionPayloadSha256 py session)
    let state ← TransferStateStore.read
    pure (.unresolved (unresolvedRecord py state payloadHash))
  | op => op.updating py limits

/-- What the operation makes of the file, if it is completed. -/
def update (op : StoreOperation) (file : Option FileContents) : Option FileContents :=
  match op with
  | .construct => some (file.getD (writeState stateDefault))
  | op =>
    match op.body py limits with
    | .ok (some body) => written body file
    | _ => file

/-- What an operation without the lock answers, given the state. -/
def view (op : StoreOperation) (state : List (String × Py)) : Except Exc StoreAnswer :=
  match op with
  | .requirePreparedForSubmit session => do
    let payloadHash ← sessionPayloadSha256 py session
    checkAttested py payloadHash session state
    pure .done
  | .unresolvedForSession session => do
    let payloadHash ← sessionPayloadSha256 py session
    pure (.unresolved (unresolvedRecord py state payloadHash))
  | _ => .ok (.state state)

/-- The operations that take no lock. -/
def lockFree : StoreOperation → Bool
  | .read | .requirePreparedForSubmit _ | .unresolvedForSession _ => true
  | _ => false

end StoreOperation

/-! ## One process at a time

With nobody else at work, and nothing failing, an operation does to the state file what
the state-passing model of the host says. -/

section Alone

variable {py : Interpreter} {env : Surroundings} {limits : StoreLimits} {session : TransferSession}

theorem lockedState_stateFile (body : List (String × Py) → Except Exc (List (String × Py)))
    (file : Option FileContents) (log : List Event) :
    (lockedState body ⟨file.join, log⟩).2.stateFile = (written body file).join := by
  unfold lockedState written FailState.call
  dsimp only
  cases body (readState file.join) <;> rfl

theorem recordPrepared_stateFile (file : Option FileContents) (log : List Event) :
    (recordPrepared py env limits session ⟨file.join, log⟩).2.stateFile =
      ((StoreOperation.recordPrepared session (env.now log)).update py limits file).join := by
  unfold recordPrepared
  dsimp only [StoreOperation.update, StoreOperation.body]
  cases sessionPayloadSha256 py session with
  | error e => rfl
  | ok payloadHash => exact lockedState_stateFile _ file log

theorem recordUnresolvedSubmission_stateFile (submitResult : List (String × Py))
    (file : Option FileContents) (log : List Event) :
    (recordUnresolvedSubmission py env limits session submitResult ⟨file.join, log⟩).2.stateFile =
      ((StoreOperation.recordUnresolvedSubmission session submitResult (env.now log)).update py
        limits file).join := by
  unfold recordUnresolvedSubmission
  dsimp only [StoreOperation.update, StoreOperation.body]
  cases sessionPayloadSha256 py session with
  | error e => rfl
  | ok payloadHash =>
    cases nonBlank (get submitResult "txn_hash") with
    | none => rfl
    | some txnHash => exact lockedState_stateFile _ file log

theorem clearUnresolvedSubmission_stateFile (file : Option FileContents) (log : List Event) :
    (clearUnresolvedSubmission py session ⟨file.join, log⟩).2.stateFile =
      ((StoreOperation.clearUnresolvedSubmission session).update py limits file).join := by
  unfold clearUnresolvedSubmission
  dsimp only [StoreOperation.update, StoreOperation.body]
  cases sessionPayloadSha256 py session with
  | error e => rfl
  | ok payloadHash => exact lockedState_stateFile _ file log

end Alone

/-! ## The discipline is kept -/

section Orders

variable {update : Option FileContents → Option FileContents} {found : Option FileContents}
  {phase : Phase FileContents} {n : ℕ} {state : List (String × Py)}

/-- Whoever returns has put its draft in place. -/
def Made {α : Type} (phase : Phase FileContents) : Except Exc α → Prop
  | .ok _ => phase.commit?.isSome = true
  | .error _ => True

theorem replaceBy_orders (h : update found = some (writeState state)) :
    (TransferStateStore.replaceBy n state).Orders update Made (.drafting found n) := by
  have hdraft : (ensuring (do
      act (.write n (writeState state))
      act (.sync n)) (act (.closeDraft n)) : StoreProg Unit).Orders update (fun phase r => match r with
        | .ok _ => phase = .drafted found n (writeState state)
        | .error _ => True) (.drafting found n) := by
    refine Prog.Orders.ensuring (R := fun phase r => match r with
        | .ok _ => phase = .drafted found n (writeState state)
        | .error _ => True) ?_ ?_
    · refine Prog.orders_act_bind ⟨rfl, h⟩ (fun _ => ?_) fun _ => trivial
      exact Prog.orders_act.mpr ⟨trivial, fun _ => rfl, fun _ => trivial⟩
    · rintro phase r hr
      refine Prog.orders_act.mpr ⟨Phase.allowed_idle rfl, fun _ => ?_, fun _ => trivial⟩
      rw [Phase.after_idle rfl]
      exact hr
  refine hdraft.bind (fun phase _ hphase => ?_) fun _ _ _ => trivial
  rw [hphase]
  exact Prog.orders_act.mpr ⟨rfl, fun _ => rfl, fun _ => trivial⟩

theorem writeUnlocked_orders (h : update found = some (writeState state)) :
    (TransferStateStore.writeUnlocked state).Orders update Made (.looked found) := by
  refine Prog.orders_act_bind trivial (fun _ => ?_) fun _ => trivial
  refine Prog.orders_act_bind trivial (fun tempPath => ?_) fun _ => trivial
  rw [Prog.orders_bind, Prog.orders_attempt]
  refine (replaceBy_orders h).imp fun phase r hr => ?_
  cases r with
  | ok _ =>
    refine Prog.orders_act.mpr ⟨Phase.allowed_idle rfl, fun _ => ?_, fun _ => trivial⟩
    rw [Phase.after_idle rfl]
    exact hr
  | error e =>
    show (((act (.unlink tempPath) : StoreProg Unit).attempt >>= fun _ => throw e) :
      StoreProg Unit).Orders update Made phase
    rw [Prog.orders_bind, Prog.orders_attempt]
    exact Prog.orders_act.mpr ⟨Phase.allowed_idle rfl, fun _ => trivial, fun _ => trivial⟩

/-- The outcome `r` once more, unless the clean-up after it fails. -/
def Kept {α : Type} (r : Except Exc α) (phase : Phase FileContents) : Except Exc Unit → Prop
  | .ok _ => Made phase r
  | .error _ => True

theorem made_finished {α : Type} {r : Except Exc α} (hr : Made phase r) :
    Made (.finished phase.commit?) r := by
  cases r with
  | ok _ => exact hr
  | error e => trivial

/-- Giving the lock back changes nothing about what was made. -/
theorem unlock_orders {α : Type} {r : Except Exc α} (hr : Made phase r) :
    (act .unlock : StoreProg Unit).Orders update (Kept r) phase := by
  refine Prog.orders_act.mpr ⟨Phase.allowed_unlock.1, fun _ => ?_, fun _ => trivial⟩
  show Made (phase.after .unlock ()) r
  rw [Phase.after_unlock.1]
  exact made_finished hr

theorem closeLock_orders {α : Type} {r : Except Exc α} (hr : Made phase r) :
    (act .closeLock : StoreProg Unit).Orders update (Kept r) phase := by
  refine Prog.orders_act.mpr ⟨Phase.allowed_unlock.2, fun _ => ?_, fun _ => trivial⟩
  show Made (phase.after .closeLock ()) r
  rw [Phase.after_unlock.2]
  exact made_finished hr

theorem ensuring_orders {α : Type} {p : StoreProg α} {cleanup : StoreProg Unit}
    (hp : p.Orders update Made phase)
    (hcleanup : ∀ phase (r : Except Exc α), Made phase r → cleanup.Orders update (Kept r) phase) :
    (ensuring p cleanup).Orders update Made phase := by
  refine Prog.Orders.ensuring hp fun phase r hr => ?_
  refine (hcleanup phase r hr).imp fun phase' done hdone => ?_
  cases done with
  | ok _ => exact hdone
  | error e => trivial

theorem ensuring_anyway {α : Type} {p : StoreProg α} {cleanup : StoreProg Unit}
    (hp : p.Orders update (fun _ _ => True) phase)
    (hcleanup : ∀ phase, cleanup.Orders update (fun _ _ => True) phase) :
    (ensuring p cleanup).Orders update (fun _ _ => True) phase := by
  refine Prog.Orders.ensuring hp fun phase r _ => ?_
  refine (hcleanup phase).imp fun phase' done _ => ?_
  cases done <;> trivial

/-- What was read without the lock. -/
def Seen (phase : Phase FileContents) : Except Exc (List (String × Py)) → Prop
  | .ok state => ∃ found, phase = .seen found ∧ state = readState found.join
  | .error _ => True

/-- What was read under the lock. -/
def Looked (phase : Phase FileContents) : Except Exc (List (String × Py)) → Prop
  | .ok state => ∃ found, phase = .looked found ∧ state = readState found.join
  | .error _ => True

theorem read_seen : TransferStateStore.read.Orders update Seen .outside := by
  refine Prog.orders_act_bind trivial (fun file => ?_) fun _ => trivial
  cases file with
  | none => exact ⟨none, rfl, rfl⟩
  | some n =>
    refine Prog.orders_act_bind rfl (fun payload => ?_) fun _ => trivial
    exact ⟨some payload, rfl, rfl⟩

theorem read_looked : TransferStateStore.read.Orders update Looked .holding := by
  refine Prog.orders_act_bind trivial (fun file => ?_) fun _ => trivial
  cases file with
  | none => exact ⟨none, rfl, rfl⟩
  | some n =>
    refine Prog.orders_act_bind rfl (fun payload => ?_) fun _ => trivial
    exact ⟨some payload, rfl, rfl⟩

theorem lockedState_orders {body : List (String × Py) → Except Exc (List (String × Py))}
    (h : ∀ found state, body (readState found.join) = .ok state →
      update found = some (writeState state)) :
    (TransferStateStore.lockedState body).Orders update Made .outside := by
  refine Prog.orders_act_bind trivial (fun _ => ?_) fun _ => trivial
  refine Prog.orders_act_bind trivial (fun _ => ?_) fun _ => trivial
  refine read_looked.bind (fun phase state hstate => ?_) fun _ _ _ => trivial
  obtain ⟨found, rfl, rfl⟩ := hstate
  refine ensuring_orders ?_ fun phase r hr => ?_
  · rw [Prog.orders_bind, Prog.orders_lift]
    cases hbody : body (readState found.join) with
    | ok state => exact writeUnlocked_orders (h found state hbody)
    | error e => trivial
  · refine (unlock_orders hr).bind (fun phase' _ hphase => ?_) fun _ _ _ => trivial
    exact closeLock_orders hphase

/-- The initialiser puts the default in place, or finds a file. -/
theorem initializeStateFile_orders (h : update none = some (writeState stateDefault)) :
    TransferStateStore.initializeStateFile.Orders update (fun _ _ => True) .outside := by
  have hunlock : ∀ (phase : Phase FileContents), (act .unlock : StoreProg Unit).Orders update
      (fun _ _ => True) phase :=
    fun phase => Prog.orders_act.mpr ⟨Phase.allowed_unlock.1, fun _ => trivial, fun _ => trivial⟩
  have hclose : ∀ (phase : Phase FileContents), (act .closeLock : StoreProg Unit).Orders update
      (fun _ _ => True) phase :=
    fun phase => Prog.orders_act.mpr ⟨Phase.allowed_unlock.2, fun _ => trivial, fun _ => trivial⟩
  have hcreate : TransferStateStore.createIfMissing.Orders update (fun _ _ => True) .holding := by
    refine Prog.orders_act_bind trivial (fun there => ?_) fun _ => trivial
    cases there with
    | true => trivial
    | false => exact (writeUnlocked_orders h).imp fun _ _ _ => trivial
  refine Prog.orders_act_bind trivial (fun _ => ?_) fun _ => trivial
  refine ensuring_anyway ?_ hclose
  refine Prog.orders_act_bind trivial (fun _ => ?_) fun _ => trivial
  exact ensuring_anyway hcreate hunlock

end Orders

section Programs

variable {py : Interpreter} {limits : StoreLimits}

/-- How an operation ends that returns: without the lock, in what it makes of a state it has seen;
under the lock, with its draft in place. -/
def Outcome (py : Interpreter) (limits : StoreLimits) (op : StoreOperation)
    (phase : Phase FileContents) : Except Exc StoreAnswer → Prop
  | .ok answer =>
    (op.lockFree = true →
        ∃ found, phase = .seen found ∧ op.view py (readState found.join) = .ok answer) ∧
      ((∃ body, op.body py limits = .ok (some body)) → phase.commit?.isSome = true)
  | .error _ => True

theorem update_of_body {op : StoreOperation}
    {body : List (String × Py) → Except Exc (List (String × Py))}
    (hbody : op.body py limits = .ok (some body)) {found : Option FileContents}
    {state : List (String × Py)}
    (h : body (readState found.join) = .ok state) :
    op.update py limits found = some (writeState state) := by
  unfold StoreOperation.update
  split
  · cases hbody
  · rw [hbody]
    simp only [written, h]

theorem update_of_body_error {op : StoreOperation}
    {body : List (String × Py) → Except Exc (List (String × Py))}
    (hbody : op.body py limits = .ok (some body))
    {found : Option FileContents} {e : Exc} (h : body (readState found.join) = .error e) :
    op.update py limits found = found := by
  unfold StoreOperation.update
  split
  · cases hbody
  · rw [hbody]
    simp only [written, h]

/-- An operation creates the file, leaves it as it is, or writes what its body makes of the
state. -/
theorem update_cases (py : Interpreter) (limits : StoreLimits) (op : StoreOperation)
    (found : Option FileContents) :
    op = .construct ∨ op.update py limits found = found ∨
    ∃ body state, op.body py limits = .ok (some body) ∧ body (readState found.join) = .ok state ∧
      op.update py limits found = some (writeState state) := by
  cases hbody : op.body py limits with
  | error e =>
    unfold StoreOperation.update
    split
    · exact .inl rfl
    · rw [hbody]
      exact .inr (.inl rfl)
  | ok body =>
    cases body with
    | none =>
      unfold StoreOperation.update
      split
      · exact .inl rfl
      · rw [hbody]
        exact .inr (.inl rfl)
    | some body =>
      cases hstate : body (readState found.join) with
      | error e => exact .inr (.inl (update_of_body_error hbody hstate))
      | ok state => exact .inr (.inr ⟨body, state, rfl, hstate, update_of_body hbody hstate⟩)

theorem updating_orders (op : StoreOperation) (hlock : op.lockFree = false) :
    (op.updating py limits).Orders (op.update py limits) (Outcome py limits op) .outside := by
  unfold StoreOperation.updating
  rw [Prog.orders_bind, Prog.orders_lift]
  cases hbody : op.body py limits with
  | error e => trivial
  | ok body =>
    cases body with
    | none =>
      refine ⟨fun hfree => ?_, ?_⟩
      · rw [hlock] at hfree
        cases hfree
      · rintro ⟨body, hsome⟩
        cases hbody.symm.trans hsome
    | some body =>
      refine (lockedState_orders fun found state h => update_of_body hbody h).bind
        (fun phase _ hmade => ?_) fun _ _ _ => trivial
      refine ⟨fun hfree => ?_, fun _ => hmade⟩
      rw [hlock] at hfree
      cases hfree

theorem program_orders (op : StoreOperation) :
    (op.program py limits).Orders (op.update py limits) (Outcome py limits op) .outside := by
  cases op with
  | recordPrepared session now => exact updating_orders _ rfl
  | recordUnresolvedSubmission session submitResult now => exact updating_orders _ rfl
  | clearUnresolvedSubmission session => exact updating_orders _ rfl
  | construct =>
    refine Prog.orders_act_bind trivial (fun _ => ?_) fun _ => trivial
    refine Prog.orders_act_bind trivial (fun _ => ?_) fun _ => trivial
    refine (initializeStateFile_orders rfl).bind (fun phase _ _ => ?_) fun _ _ _ => trivial
    refine ⟨fun hfree => absurd hfree Bool.false_ne_true, ?_⟩
    rintro ⟨body, hbody⟩
    cases hbody
  | read =>
    refine read_seen.bind (fun phase state hstate => ?_) fun _ _ _ => trivial
    obtain ⟨found, rfl, rfl⟩ := hstate
    refine ⟨fun _ => ⟨found, rfl, rfl⟩, ?_⟩
    rintro ⟨body, hbody⟩
    cases hbody
  | requirePreparedForSubmit session =>
    unfold StoreOperation.program
    rw [Prog.orders_bind, Prog.orders_lift]
    cases hhash : sessionPayloadSha256 py session with
    | error e => trivial
    | ok payloadHash =>
      refine read_seen.bind (fun phase state hstate => ?_) fun _ _ _ => trivial
      obtain ⟨found, rfl, rfl⟩ := hstate
      rw [Prog.orders_bind, Prog.orders_lift]
      cases hcheck : StoreOperation.checkAttested py payloadHash session (readState found.join) with
      | error e => trivial
      | ok _ =>
        refine ⟨fun _ => ⟨found, rfl, ?_⟩, ?_⟩
        · simp only [StoreOperation.view, hhash, ok_bind, hcheck]
          rfl
        · rintro ⟨body, hbody⟩
          cases hbody
  | unresolvedForSession session =>
    unfold StoreOperation.program
    rw [Prog.orders_bind, Prog.orders_lift]
    cases hhash : sessionPayloadSha256 py session with
    | error e => trivial
    | ok payloadHash =>
      refine read_seen.bind (fun phase state hstate => ?_) fun _ _ _ => trivial
      obtain ⟨found, rfl, rfl⟩ := hstate
      refine ⟨fun _ => ⟨found, rfl, ?_⟩, ?_⟩
      · simp only [StoreOperation.view, hhash, ok_bind]
        rfl
      · rintro ⟨body, hbody⟩
        cases hbody

end Programs

/-! ## Runs -/

section Runs

variable (py : Interpreter) (limits : StoreLimits)

/-- Any number of processes, from a path that names no file. -/
def runStores (happenings : List (Happening StoreOperation (Weather Exc FileContents))) :
    FileMachine StoreOperation FileContents Exc StoreAnswer :=
  Machine.run Files.kernel (StoreOperation.program py limits) (.initial none) happenings

/-- An update is completed once its draft is in place. The contents of the file are those of the
completed updates, in the order in which they were given the lock; whatever else happens leaves
them as they are; an update that returned is among the completed ones; and without the lock one
finds the contents after some of them. -/
structure Serialised (happenings : List (Happening StoreOperation (Weather Exc FileContents))) :
    Prop where
  contents : (runStores py limits happenings).shared.current =
    Machine.applied (StoreOperation.update py limits) none (runStores py limits happenings).completed
  once : (runStores py limits happenings).shared.granted.Nodup
  next : ∀ happening,
    ((runStores py limits (happenings ++ [happening])).completed =
        (runStores py limits happenings).completed ∧
      (runStores py limits (happenings ++ [happening])).shared.current =
        (runStores py limits happenings).shared.current) ∨
    ∃ op, (runStores py limits (happenings ++ [happening])).completed =
        (runStores py limits happenings).completed ++ [op] ∧
      (runStores py limits (happenings ++ [happening])).shared.current =
        op.update py limits (runStores py limits happenings).shared.current
  returned : ∀ (i : ℕ) p answer body, (runStores py limits happenings).processes[i]? = some p →
    p.rest = .ret answer → p.name.body py limits = .ok (some body) →
    Phase.replacedIn p.past = true ∧ i ∈ (runStores py limits happenings).shared.granted
  reads : ∀ (i : ℕ) p answer, (runStores py limits happenings).processes[i]? = some p →
    p.rest = .ret answer → p.name.lockFree = true →
    ∃ done, done <+: (runStores py limits happenings).completed ∧
      p.name.view py (readState (Machine.applied (StoreOperation.update py limits) none done).join) =
        .ok answer

theorem runStores_orderly
    (happenings : List (Happening StoreOperation (Weather Exc FileContents))) :
    Machine.Orderly (StoreOperation.update py limits)
      (fun op past r => Outcome py limits op (Phase.ofPast past) r) none
      (runStores py limits happenings) :=
  Machine.orderly_run (fun op => (program_orders op).meets) happenings

theorem runStores_snoc (happenings : List (Happening StoreOperation (Weather Exc FileContents)))
    (happening : Happening StoreOperation (Weather Exc FileContents)) :
    runStores py limits (happenings ++ [happening]) = Machine.step Files.kernel
      (StoreOperation.program py limits) (runStores py limits happenings) happening := Trace.run_snoc

/-- How a process that has returned did so. -/
theorem runStores_outcome
    {happenings : List (Happening StoreOperation (Weather Exc FileContents))} {i : ℕ}
    {p : Process StoreOperation (FileOp FileContents) (FileOp.Ans Exc) Exc StoreAnswer}
    {answer : StoreAnswer}
    (hp : (runStores py limits happenings).processes[i]? = some p) (hrest : p.rest = .ret answer) :
    Outcome py limits p.name (Phase.ofPast p.past) (.ok answer) := by
  have hmeets := (runStores_orderly py limits happenings).keeping i p hp
  rw [hrest] at hmeets
  exact hmeets

theorem applied_snoc (first : Option FileContents) (ops : List StoreOperation)
    (op : StoreOperation) :
    Machine.applied (StoreOperation.update py limits) first (ops ++ [op]) =
      op.update py limits (Machine.applied (StoreOperation.update py limits) first ops) :=
  List.foldl_concat _ _ _ _

end Runs

theorem state_file_serialised (py : Interpreter) (limits : StoreLimits)
    (happenings : List (Happening StoreOperation (Weather Exc FileContents))) :
    Serialised py limits happenings := by
  have horderly := runStores_orderly py limits happenings
  refine ⟨horderly.current_eq, horderly.guarded.nodup, ?_, ?_, ?_⟩
  · intro happening
    have hcurrent := horderly.current_eq
    have hcurrent' := (runStores_orderly py limits (happenings ++ [happening])).current_eq
    have hstep := horderly.completed_step (StoreOperation.program py limits) happening
    rw [← runStores_snoc] at hstep
    rcases hstep with hsame | ⟨op, hgrown⟩
    · refine .inl ⟨hsame, ?_⟩
      rw [hcurrent', hsame, ← hcurrent]
    · refine .inr ⟨op, hgrown, ?_⟩
      rw [hcurrent', hgrown, applied_snoc, ← hcurrent]
  · intro i p answer body hp hrest hbody
    obtain ⟨-, hmade⟩ := runStores_outcome py limits hp hrest
    have hreplaced : Phase.replacedIn p.past = true := by
      rw [(horderly.behaved i p hp).replaced]
      exact hmade ⟨body, hbody⟩
    exact ⟨hreplaced, horderly.granted hp hreplaced⟩
  · intro i p answer hp hrest hfree
    obtain ⟨hseen, -⟩ := runStores_outcome py limits hp hrest
    obtain ⟨found, hphase, hview⟩ := hseen hfree
    obtain ⟨done, hdone, hfound⟩ := horderly.seen_eq hp hphase
    exact ⟨done, hdone, hfound ▸ hview⟩

end StarcoinMcp.Host
