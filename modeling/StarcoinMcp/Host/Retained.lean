import StarcoinMcp.Host.Ledger
import StarcoinMcp.Host.StateFile
import StarcoinMcp.Lib.Trace

/-! How long the store remembers a submission whose outcome is not known. An entry of the
ledger goes when it is cleared and when a newer one takes its place; it may also go when
another payload is recorded and the ledger is full of entries that are no older. -/

namespace StarcoinMcp.Host

open Py (get lookup)

/-- An operation of a store that was opened with these limits. -/
structure StoreStep where
  limits : StoreLimits
  op : StoreOperation

namespace StoreStep

variable (py : Interpreter)

def apply (file : Option FileContents) (step : StoreStep) : Option FileContents :=
  step.op.update py step.limits file

/-- The step is the recording of a submission of this payload with this hash. -/
def Records (step : StoreStep) (payloadHash txnHash : String) : Prop :=
  ∃ session submitResult now, step.op = .recordUnresolvedSubmission session submitResult now ∧
    sessionPayloadSha256 py session = .ok payloadHash ∧
    nonBlank (get submitResult "txn_hash") = some txnHash

/-- The step clears the entry of this payload. -/
def Clears (step : StoreStep) (payloadHash : String) : Prop :=
  ∃ session, step.op = .clearUnresolvedSubmission session ∧
    sessionPayloadSha256 py session = .ok payloadHash

/-- The ledger as a recording is about to prune it, with the new entry in its place. -/
def enlarged (file : Option FileContents) (step : StoreStep) : Option (List (String × Py)) :=
  match step.op with
  | .recordUnresolvedSubmission session submitResult now =>
    match sessionPayloadSha256 py session, nonBlank (get submitResult "txn_hash") with
    | .ok payloadHash, some txnHash =>
      some (Py.setItem payloadHash (unresolvedEntry payloadHash txnHash now submitResult)
        (unresolvedRecords (readState file.join)))
    | _, _ => none
  | _ => none

/-- A recording returns: no entry makes the prune raise. -/
def Returns (file : Option FileContents) (step : StoreStep) : Prop :=
  ∀ items, step.enlarged py file = some items →
    ∃ kept, pruneRecords py step.limits.maxUnresolvedRecords items = .ok kept

/-- A recording finds the entry of this payload among the recent ones. -/
def Spares (payloadHash : String) (file : Option FileContents) (step : StoreStep) : Prop :=
  ∀ items, step.enlarged py file = some items →
    Recent py step.limits.maxUnresolvedRecords items payloadHash

end StoreStep

/-- From the recording of a submission on, as long as its payload is neither cleared nor recorded
anew, every session with that payload is told its hash, whatever else is recorded. -/
def Remembers (py : Interpreter) (file : Option FileContents) (steps : List StoreStep) : Prop :=
  ∀ before step after later payloadHash txnHash, steps = before ++ step :: (after ++ later) →
    step.Records py payloadHash txnHash →
    (∀ x ∈ after, ¬ x.Clears py payloadHash ∧ ∀ t, ¬ x.Records py payloadHash t) →
    ∀ session, sessionPayloadSha256 py session = .ok payloadHash →
      ∃ record, (StoreOperation.unresolvedForSession session).view py
          (readState (Trace.run (StoreStep.apply py) file (before ++ step :: after)).join) =
        .ok (.unresolved (some record)) ∧ record.txnHash = txnHash

section Steps

variable {py : Interpreter} {file : Option FileContents} {step : StoreStep}
  {payloadHash txnHash : String} {session : TransferSession}

/-- A world in which it is `now`. -/
def clockAt (now : String) : Surroundings where
  wallet _ _ _ := .error (.runtimeError "no wallet")
  node _ _ _ := .error (.runtimeError "no node")
  now _ := now

/-- A recording enlarges the ledger by its own entry only. -/
theorem enlarged_of_records (file : Option FileContents) (h : step.Records py payloadHash txnHash) :
    ∃ items, step.enlarged py file = some items ∧
      ∀ q, ledgerHash items q = if payloadHash = q then some txnHash else ledger file.join q := by
  obtain ⟨limits, op⟩ := step
  obtain ⟨session, submitResult, now, rfl, hpayload, hhash⟩ := h
  refine ⟨Py.setItem payloadHash (unresolvedEntry payloadHash txnHash now submitResult)
    (unresolvedRecords (readState file.join)), ?_, fun q => ledgerHash_unresolvedEntry hhash _ q⟩
  unfold StoreStep.enlarged
  simp only [hpayload, hhash]

/-- Only a recording enlarges the ledger. -/
theorem enlarged_eq_some {items : List (String × Py)} (h : step.enlarged py file = some items) :
    ∃ limits session submitResult now payloadHash txnHash,
      step = ⟨limits, .recordUnresolvedSubmission session submitResult now⟩ ∧
      sessionPayloadSha256 py session = .ok payloadHash ∧
      nonBlank (get submitResult "txn_hash") = some txnHash ∧
      items = Py.setItem payloadHash (unresolvedEntry payloadHash txnHash now submitResult)
        (unresolvedRecords (readState file.join)) := by
  obtain ⟨limits, op⟩ := step
  cases op with
  | recordUnresolvedSubmission session submitResult now =>
    unfold StoreStep.enlarged at h
    cases hpayload : sessionPayloadSha256 py session with
    | error e =>
      simp only [hpayload] at h
      cases h
    | ok payloadHash =>
      cases hhash : nonBlank (get submitResult "txn_hash") with
      | none =>
        simp only [hpayload, hhash] at h
        cases h
      | some txnHash =>
        simp only [hpayload, hhash] at h
        exact ⟨limits, session, submitResult, now, payloadHash, txnHash, rfl, hpayload, hhash,
          (Option.some.inj h).symm⟩
  | _ => cases h

/-- What the prune keeps is written; if it raises, nothing is. -/
theorem ledger_of_enlarged {items : List (String × Py)} (h : step.enlarged py file = some items) :
    (∃ e, pruneRecords py step.limits.maxUnresolvedRecords items = .error e ∧
      step.apply py file = file) ∨
    ∃ kept, pruneRecords py step.limits.maxUnresolvedRecords items = .ok kept ∧
      ∀ q, ledger (step.apply py file).join q = ledgerHash kept q := by
  obtain ⟨limits, session, submitResult, now, payloadHash, txnHash, rfl, hpayload, hhash, rfl⟩ :=
    enlarged_eq_some h
  have hbody : (StoreOperation.recordUnresolvedSubmission session submitResult now).body py limits =
      .ok (some fun state => do
        let unresolved ← pruneRecords py limits.maxUnresolvedRecords (Py.setItem payloadHash
          (unresolvedEntry payloadHash txnHash now submitResult) (unresolvedRecords state))
        pure (Py.setItem "unresolved_submissions" (.dict unresolved) state)) := by
    dsimp only [StoreOperation.body]
    rw [hpayload, hhash]
    rfl
  cases hprune : pruneRecords py limits.maxUnresolvedRecords (Py.setItem payloadHash
      (unresolvedEntry payloadHash txnHash now submitResult)
      (unresolvedRecords (readState file.join))) with
  | error e =>
    refine .inl ⟨e, rfl, update_of_body_error hbody (e := e) ?_⟩
    rw [hprune]
    rfl
  | ok kept =>
    have hwritten : StoreStep.apply py file
          ⟨limits, .recordUnresolvedSubmission session submitResult now⟩ =
        some (writeState
          (Py.setItem "unresolved_submissions" (.dict kept) (readState file.join))) := by
      refine update_of_body hbody ?_
      rw [hprune]
      rfl
    refine .inr ⟨kept, rfl, fun q => ?_⟩
    rw [hwritten]
    show ledger (writeState _) q = _
    rw [ledger_writeState, records_setItem_self]

/-- A recording that finds no payload or no hash does nothing. -/
theorem apply_of_not_enlarged {limits : StoreLimits} {submitResult : List (String × Py)}
    {now : String}
    (h : StoreStep.enlarged py file
      ⟨limits, .recordUnresolvedSubmission session submitResult now⟩ = none) :
    StoreStep.apply py file ⟨limits, .recordUnresolvedSubmission session submitResult now⟩ =
      file := by
  unfold StoreStep.apply StoreOperation.update StoreOperation.body
  cases hpayload : sessionPayloadSha256 py session with
  | error e =>
    simp only [hpayload]
    rfl
  | ok payloadHash =>
    cases hhash : nonBlank (get submitResult "txn_hash") with
    | none =>
      simp only [hpayload, hhash]
      rfl
    | some txnHash =>
      unfold StoreStep.enlarged at h
      simp only [hpayload, hhash] at h
      cases h

/-- A recording that spares an entry keeps it as it is about to be pruned. -/
theorem ledger_of_spares {items : List (String × Py)} {q : String}
    (h : step.enlarged py file = some items)
    (hspares : step.Spares py q file) :
    step.apply py file = file ∨ ledger (step.apply py file).join q = ledgerHash items q := by
  rcases ledger_of_enlarged h with ⟨-, -, hfile⟩ | ⟨kept, hprune, hledger⟩
  · exact .inl hfile
  · exact .inr ((hledger q).trans (ledgerHash_pruneRecords hprune (hspares items h)))

/-- A recording that returns and spares its own entry leaves its hash. -/
theorem ledger_of_records (h : step.Records py payloadHash txnHash)
    (hreturns : step.Returns py file)
    (hspares : step.Spares py payloadHash file) :
    ledger (step.apply py file).join payloadHash = some txnHash := by
  obtain ⟨items, henlarged, hitems⟩ := enlarged_of_records file h
  obtain ⟨kept, hkept⟩ := hreturns items henlarged
  rcases ledger_of_enlarged henlarged with ⟨e, hprune, -⟩ | ⟨kept', hprune, hledger⟩
  · rw [hkept] at hprune
    cases hprune
  · rw [hledger, ledgerHash_pruneRecords hprune (hspares items henlarged), hitems, if_pos rfl]

theorem ledger_of_clears {q : String} (h : step.Clears py payloadHash) (hne : payloadHash ≠ q) :
    ledger (step.apply py file).join q = ledger file.join q := by
  obtain ⟨limits, op⟩ := step
  obtain ⟨session, rfl, hpayload⟩ := h
  obtain ⟨written, happly, hledger⟩ := clearUnresolvedSubmission_apply hpayload ⟨file.join, []⟩
  have hfile : (clearUnresolvedSubmission py session ⟨file.join, []⟩).2.stateFile =
      (StoreStep.apply py file ⟨limits, .clearUnresolvedSubmission session⟩).join :=
    clearUnresolvedSubmission_stateFile file []
  rw [happly] at hfile
  rw [← hfile]
  exact (hledger q).trans (if_neg hne)

theorem ledger_of_recordPrepared {limits : StoreLimits} {now : String} (q : String) :
    ledger (StoreStep.apply py file ⟨limits, .recordPrepared session now⟩).join q =
      ledger file.join q := by
  have hrecorded : ∃ r written, recordPrepared py (clockAt now) limits session ⟨file.join, []⟩ =
      (r, ⟨written, []⟩) ∧ ∀ q, ledger written q = ledger file.join q := recordPrepared_apply _
  obtain ⟨r, written, happly, hledger⟩ := hrecorded
  have hfile : (recordPrepared py (clockAt now) limits session ⟨file.join, []⟩).2.stateFile =
      (StoreStep.apply py file ⟨limits, .recordPrepared session now⟩).join :=
    recordPrepared_stateFile file []
  rw [happly] at hfile
  rw [← hfile]
  exact hledger q

theorem ledger_of_construct {limits : StoreLimits} (q : String) :
    ledger (StoreStep.apply py file ⟨limits, .construct⟩).join q = ledger file.join q := by
  cases file with
  | none =>
    show ledger (writeState stateDefault) q = ledger none q
    rw [ledger_writeState]
    rfl
  | some contents => rfl

/-- A step that spares the entry of a payload, and neither records nor clears it, leaves it
alone. -/
theorem ledger_apply {q : String} (hspares : step.Spares py q file) (hclears : ¬ step.Clears py q)
    (hrecords : ∀ t, ¬ step.Records py q t) :
    ledger (step.apply py file).join q = ledger file.join q := by
  obtain ⟨limits, op⟩ := step
  cases op with
  | construct => exact ledger_of_construct q
  | recordPrepared session now => exact ledger_of_recordPrepared q
  | recordUnresolvedSubmission session submitResult now =>
    cases henlarged : StoreStep.enlarged py file
      ⟨limits, .recordUnresolvedSubmission session submitResult now⟩ with
    | none => rw [apply_of_not_enlarged henlarged]
    | some items =>
      rcases ledger_of_spares henlarged hspares with hfile | hledger
      · rw [hfile]
      · obtain ⟨_, _, _, _, payloadHash, txnHash, hstep, hpayload, hhash, rfl⟩ :=
          enlarged_eq_some henlarged
        have hne : payloadHash ≠ q := by
          rintro rfl
          exact hrecords txnHash ⟨_, _, _, congrArg StoreStep.op hstep, hpayload, hhash⟩
        rw [hledger, ledgerHash_unresolvedEntry hhash, if_neg hne]
        rfl
  | clearUnresolvedSubmission session =>
    cases hpayload : sessionPayloadSha256 py session with
    | error e =>
      unfold StoreStep.apply StoreOperation.update StoreOperation.body
      simp only [hpayload]
      rfl
    | ok payloadHash =>
      have hcleared : StoreStep.Clears py ⟨limits, .clearUnresolvedSubmission session⟩
          payloadHash := ⟨session, rfl, hpayload⟩
      have hne : payloadHash ≠ q := by
        rintro rfl
        exact hclears hcleared
      exact ledger_of_clears hcleared hne
  | read => rfl
  | requirePreparedForSubmit session => rfl
  | unresolvedForSession session => rfl

/-! ## A recording returns -/

/-- The ledger of the file holds dictionaries only, as the store writes it. -/
def WellKept (file : Option FileContents) : Prop :=
  DictEntries (unresolvedRecords (readState file.join))

/-- The body of an operation puts nothing but dictionaries into a ledger of dictionaries. -/
theorem dictEntries_body {op : StoreOperation} {limits : StoreLimits}
    {state state' : List (String × Py)}
    {body : List (String × Py) → Except Exc (List (String × Py))}
    (hbody : op.body py limits = .ok (some body)) (hstate : body state = .ok state')
    (h : DictEntries (unresolvedRecords state)) : DictEntries (unresolvedRecords state') := by
  cases op with
  | recordPrepared session now =>
    obtain ⟨payloadHash, -, hbody⟩ := bind_eq_ok hbody
    obtain rfl := Option.some.inj (Except.ok.inj hbody)
    obtain ⟨prepared, -, hstate⟩ := bind_eq_ok hstate
    obtain rfl := Except.ok.inj hstate
    unfold unresolvedRecords
    rwa [records_setItem_other (by simp)]
  | recordUnresolvedSubmission session submitResult now =>
    obtain ⟨payloadHash, -, hbody⟩ := bind_eq_ok hbody
    obtain ⟨txnHash, -, rfl⟩ := Option.map_eq_some_iff.mp (Except.ok.inj hbody)
    obtain ⟨kept, hprune, hstate⟩ := bind_eq_ok hstate
    obtain rfl := Except.ok.inj hstate
    obtain ⟨kept', hprune', hkept⟩ := pruneRecords_of_dictEntries py limits.maxUnresolvedRecords
      (dictEntries_setItem h)
    obtain rfl := Except.ok.inj (hprune.symm.trans hprune')
    unfold unresolvedRecords
    rwa [records_setItem_self]
  | clearUnresolvedSubmission session =>
    obtain ⟨payloadHash, -, hbody⟩ := bind_eq_ok hbody
    obtain rfl := Option.some.inj (Except.ok.inj hbody)
    obtain rfl := Except.ok.inj hstate
    unfold unresolvedRecords
    rw [records_setItem_self]
    exact fun e he => h e (List.mem_of_mem_filter he)
  | _ => cases hbody

theorem wellKept_apply (h : WellKept file) : WellKept (step.apply py file) := by
  have hwritten : ∀ state, DictEntries (unresolvedRecords state) →
      WellKept (some (writeState state)) := by
    intro state hstate e he
    change e ∈ unresolvedRecords (readState (writeState state)) at he
    rw [unresolvedRecords_writeState] at he
    obtain ⟨e', hmem, rfl⟩ := Py.mem_dumpedItems ((Py.mem_sortBy _).mp he)
    obtain ⟨record, hrecord⟩ := hstate e' hmem
    exact ⟨_, by rw [hrecord, Py.dumped_dict]⟩
  obtain ⟨limits, op⟩ := step
  rcases update_cases py limits op file with rfl | hfile |
    ⟨body, state, hbody, hstate, hfile⟩
  · cases file with
    | none => exact hwritten stateDefault fun e he => absurd he List.not_mem_nil
    | some contents => exact h
  · have hsame : StoreStep.apply py file ⟨limits, op⟩ = file := hfile
    rwa [hsame]
  · have hnew : StoreStep.apply py file ⟨limits, op⟩ = some (writeState state) := hfile
    rw [hnew]
    exact hwritten state (dictEntries_body hbody hstate h)

end Steps

section Runs

variable {py : Interpreter} {file : Option FileContents} {steps : List StoreStep}
  {payloadHash : String}

/-- What every step spares, a run leaves alone. -/
theorem ledger_run
    (hspares : Trace.Along (StoreStep.apply py) (StoreStep.Spares py payloadHash) file steps)
    (hother : ∀ x ∈ steps, ¬ x.Clears py payloadHash ∧ ∀ t, ¬ x.Records py payloadHash t) :
    ledger (Trace.run (StoreStep.apply py) file steps).join payloadHash =
      ledger file.join payloadHash := by
  induction steps generalizing file with
  | nil => rfl
  | cons x steps ih =>
    obtain ⟨hx, hrest⟩ := hspares
    obtain ⟨hclears, hrecords⟩ := hother x (List.mem_cons_self ..)
    rw [Trace.run_cons, ih hrest fun y hy => hother y (List.mem_cons_of_mem x hy)]
    exact ledger_apply hx hclears hrecords

/-- In every run on a file that is well kept every recording returns. -/
theorem returns_run (h : WellKept file) (step : StoreStep) :
    step.Returns py (Trace.run (StoreStep.apply py) file steps) := by
  intro items henlarged
  obtain ⟨limits, session, submitResult, now, payloadHash, txnHash, rfl, -, -, rfl⟩ :=
    enlarged_eq_some henlarged
  have hrun : WellKept (Trace.run (StoreStep.apply py) file steps) :=
    Trace.run_invariant (fun _ _ hfile => wellKept_apply hfile) h steps
  obtain ⟨kept, hkept, -⟩ := pruneRecords_of_dictEntries py limits.maxUnresolvedRecords
    (dictEntries_setItem hrun)
  exact ⟨kept, hkept⟩

theorem view_unresolvedForSession {session : TransferSession} {state : List (String × Py)}
    (hpayload : sessionPayloadSha256 py session = .ok payloadHash) :
    (StoreOperation.unresolvedForSession session).view py state =
      .ok (.unresolved (unresolvedRecord py state payloadHash)) := by
  unfold StoreOperation.view
  simp only [hpayload]
  rfl

theorem view_of_ledger {session : TransferSession} {contents : Option Py} {txnHash : String}
    (hpayload : sessionPayloadSha256 py session = .ok payloadHash)
    (h : ledger contents payloadHash = some txnHash) :
    ∃ record, (StoreOperation.unresolvedForSession session).view py (readState contents) =
      .ok (.unresolved (some record)) ∧ record.txnHash = txnHash := by
  cases hrecord : unresolvedRecord py (readState contents) payloadHash with
  | none =>
    have hnone : ledger contents payloadHash = none := unresolvedRecord_eq_none hrecord
    rw [h] at hnone
    cases hnone
  | some record =>
    have hsome : ledger contents payloadHash = some record.txnHash :=
      unresolvedRecord_eq_some hrecord
    refine ⟨record, ?_, Option.some.inj (hsome.symm.trans h)⟩
    rw [view_unresolvedForSession hpayload, hrecord]

end Runs

/-- From a recording that returns on, as long as its payload is neither cleared nor recorded anew
and every recording finds the entry among the recent ones, every session with that payload is told
its hash. -/
theorem remembered_while_recent (py : Interpreter) (file : Option FileContents)
    (before after : List StoreStep)
    (step : StoreStep) (payloadHash txnHash : String) (session : TransferSession)
    (hrecords : step.Records py payloadHash txnHash)
    (hreturns : step.Returns py (Trace.run (StoreStep.apply py) file before))
    (hspares : Trace.Along (StoreStep.apply py) (StoreStep.Spares py payloadHash)
      (Trace.run (StoreStep.apply py) file before) (step :: after))
    (hother : ∀ x ∈ after, ¬ x.Clears py payloadHash ∧ ∀ t, ¬ x.Records py payloadHash t)
    (hpayload : sessionPayloadSha256 py session = .ok payloadHash) :
    ∃ record, (StoreOperation.unresolvedForSession session).view py
        (readState (Trace.run (StoreStep.apply py) file (before ++ step :: after)).join) =
      .ok (.unresolved (some record)) ∧ record.txnHash = txnHash := by
  refine view_of_ledger hpayload ?_
  obtain ⟨hstep, hrest⟩ := hspares
  rw [Trace.run_append, Trace.run_cons, ledger_run hrest hother]
  exact ledger_of_records hrecords hreturns hstep

namespace Sample

def sessionOf (rawTxnBcsHex : String) : TransferSession :=
  { signedSession "0x" with prepareResult := [("raw_txn_bcs_hex", .str rawTxnBcsHex)] }

/-- A store with this limit records that the outcome of a submission is not known. -/
def recording (limit : Int) (rawTxnBcsHex txnHash now : String) : StoreStep :=
  ⟨{ maxUnresolvedRecords := limit }, .recordUnresolvedSubmission (sessionOf rawTxnBcsHex)
    [("txn_hash", .str txnHash), ("submission_state", .str "unknown"),
      ("next_action", .str "reconcile_by_txn_hash")] now⟩

/-- Two transfers are recorded, the second within the same second. -/
def twoRecorded (limit : Int) : List StoreStep :=
  [recording limit "0x0102" "0xhash" "2026-01-01T00:00:00Z",
    recording limit "0x0304" "0xother" "2026-01-01T00:00:00Z"]

/-- Two transfers are recorded, and the clock went back in between. -/
def clockBack : List StoreStep :=
  [recording 1 "0x0102" "0xhash" "2026-01-01T00:00:01Z",
    recording 1 "0x0304" "0xother" "2026-01-01T00:00:00Z"]

theorem recording_records (limit : Int) (txnHash now : String)
    (hblank : Py.isBlank txnHash = false) :
    (recording limit "0x0102" txnHash now).Records interpreter preparedDigest txnHash := by
  refine ⟨_, _, _, rfl, by decide +kernel, ?_⟩
  exact nonBlank_eq_some_iff.mpr ⟨rfl, hblank⟩

theorem second_not_first (limit : Int) (now : String) :
    ∀ x ∈ [recording limit "0x0304" "0xother" now],
    ¬ x.Clears interpreter preparedDigest ∧ ∀ t, ¬ x.Records interpreter preparedDigest t := by
  intro x hx
  obtain rfl := List.mem_singleton.mp hx
  have hpayload : sessionPayloadSha256 interpreter (sessionOf "0x0304") ≠ .ok preparedDigest := by
    decide +kernel
  refine ⟨?_, ?_⟩
  · rintro ⟨session, hop, -⟩
    cases hop
  · rintro t ⟨session, submitResult, now, hop, hsame, -⟩
    cases hop
    exact hpayload hsame

end Sample

open Sample in
/-- A store that keeps one record keeps the first transfer when the second is recorded after the
clock went back. -/
theorem first_of_two_remembered :
    Trace.Along (StoreStep.apply interpreter)
      (StoreStep.Spares interpreter preparedDigest) none clockBack ∧
    ∃ record, (StoreOperation.unresolvedForSession (sessionOf "0x0102")).view interpreter
        (readState (Trace.run (StoreStep.apply interpreter) none clockBack).join) =
      .ok (.unresolved (some record)) ∧ record.txnHash = "0xhash" := by
  have hspares : Trace.Along (StoreStep.apply interpreter)
      (StoreStep.Spares interpreter preparedDigest) none clockBack := by
    refine ⟨?_, ?_, trivial⟩
    · intro items hitems
      obtain rfl := Option.some.inj hitems
      decide +kernel
    · intro items hitems
      obtain rfl := Option.some.inj hitems
      decide +kernel
  refine ⟨hspares, ?_⟩
  refine remembered_while_recent interpreter none [] _ _ preparedDigest "0xhash"
    (sessionOf "0x0102")
    (recording_records 1 "0xhash" _ (by decide +kernel)) (returns_run ?_ _) hspares
    (second_not_first 1 _) (by decide +kernel)
  exact fun e he => absurd he List.not_mem_nil

open Sample in
/-- A store that keeps one record forgets the first transfer when the second is recorded. -/
theorem second_record_forgets_first : ¬ Remembers interpreter none (twoRecorded 1) := by
  intro h
  have hpayload : sessionPayloadSha256 interpreter (sessionOf "0x0102") = .ok preparedDigest := by
    decide +kernel
  have hforgotten : unresolvedRecord interpreter (readState
      (Trace.run (StoreStep.apply interpreter) none (twoRecorded 1)).join) preparedDigest =
        none := by
    decide +kernel
  obtain ⟨record, hview, -⟩ := h [] _ _ [] preparedDigest "0xhash" rfl
    (recording_records 1 "0xhash" _ (by decide +kernel)) (second_not_first 1 _)
    (sessionOf "0x0102") hpayload
  rw [view_unresolvedForSession hpayload] at hview
  have hsome : unresolvedRecord interpreter (readState
      (Trace.run (StoreStep.apply interpreter) none (twoRecorded 1)).join) preparedDigest =
        some record :=
    StoreAnswer.unresolved.inj (Except.ok.inj hview)
  rw [hforgotten] at hsome
  cases hsome

end StarcoinMcp.Host
