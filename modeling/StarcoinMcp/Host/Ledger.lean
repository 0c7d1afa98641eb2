import StarcoinMcp.Host.Effects

/-! The ledger of unresolved submissions, as the file holds it. For every payload it holds
the hash of a transaction or nothing. An entry comes only with an answer that names the
hash, and goes only with a watch. -/

namespace StarcoinMcp.Host

open TransferController
open FailState (Moves)
open Py (get lookup)

variable {py : Interpreter} {env : Surroundings} {controller : TransferController}
variable {session : TransferSession} {options : SubmitOptions}

/-- The hash kept under a payload, where `unresolved_for_session` finds one. -/
def ledgerHash (items : List (String × Py)) (payloadHash : String) : Option String :=
  match get items payloadHash with
  | .dict record => nonBlank (get record "txn_hash")
  | _ => none

def ledger (file : Option Py) (payloadHash : String) : Option String :=
  ledgerHash (unresolvedRecords (readState file)) payloadHash

theorem unresolvedRecord_eq_some {state : List (String × Py)} {payloadHash : String}
    {record : UnresolvedSubmissionRecord}
    (h : unresolvedRecord py state payloadHash = some record) :
    ledgerHash (unresolvedRecords state) payloadHash = some record.txnHash := by
  unfold unresolvedRecord at h
  unfold ledgerHash
  cases hrecord : get (unresolvedRecords state) payloadHash with
  | dict items =>
    rw [hrecord] at h
    obtain ⟨txnHash, hhash, rfl⟩ := Option.map_eq_some_iff.mp h
    exact hhash
  | _ =>
    rw [hrecord] at h
    cases h

theorem unresolvedRecord_eq_none {state : List (String × Py)} {payloadHash : String}
    (h : unresolvedRecord py state payloadHash = none) :
    ledgerHash (unresolvedRecords state) payloadHash = none := by
  unfold unresolvedRecord at h
  unfold ledgerHash
  cases hrecord : get (unresolvedRecords state) payloadHash with
  | dict items =>
    rw [hrecord] at h
    exact Option.map_eq_none_iff.mp h
  | _ => rfl

/-! ## Writing the file and reading it again -/

theorem get_dumped (items : List (String × Py)) (key : String) :
    get (Py.sortBy Prod.fst (Py.dumpedItems items)) key = Py.dumped (get items key) := by
  unfold Py.get
  rw [Py.lookup_dumped]
  cases lookup key items with
  | none => simp [Py.dumped]
  | some v => rfl

theorem nonBlank_eq_some_iff {v : Py} {t : String} :
    nonBlank v = some t ↔ v = .str t ∧ Py.isBlank t = false := by
  cases v with
  | str u =>
    show (if Py.isBlank u then none else some u) = some t ↔ _
    cases hu : Py.isBlank u with
    | true =>
      refine iff_of_false (by simp) ?_
      rintro ⟨heq, ht⟩
      cases heq
      rw [hu] at ht
      cases ht
    | false =>
      constructor
      · intro h
        obtain rfl : u = t := by simpa using h
        exact ⟨rfl, hu⟩
      · rintro ⟨heq, -⟩
        cases heq
        simp
  | _ => simp [nonBlank]

theorem nonBlank_dumped (v : Py) : nonBlank (Py.dumped v) = nonBlank v := by
  cases v <;> simp [Py.dumped, nonBlank]

theorem ledgerHash_dumped (items : List (String × Py)) (payloadHash : String) :
    ledgerHash (Py.sortBy Prod.fst (Py.dumpedItems items)) payloadHash =
      ledgerHash items payloadHash := by
  unfold ledgerHash
  rw [get_dumped]
  cases get items payloadHash with
  | dict record =>
    rw [Py.dumped_dict]
    show nonBlank (get (Py.sortBy Prod.fst (Py.dumpedItems record)) "txn_hash") = _
    rw [get_dumped, nonBlank_dumped]
  | _ => simp [Py.dumped]

theorem lookup_setDefault (key : String) (v : Py) (key' : String) (state : List (String × Py)) :
    lookup key' (setDefault key v state) =
      if key = key' ∧ lookup key state = none then some v else lookup key' state := by
  unfold setDefault
  cases h : lookup key state with
  | none =>
    show lookup key' (Py.setItem key v state) = _
    rw [Py.lookup_setItem]
    by_cases hk : key = key' <;> simp [hk]
  | some w => simp

theorem records_congr {key : String} {state state' : List (String × Py)}
    (h : lookup key state = lookup key state') : records key state = records key state' := by
  unfold records Py.get
  rw [h]

/-- Defaults are what a missing ledger counts as. -/
theorem unresolvedRecords_readState (payload : List (String × Py)) :
    unresolvedRecords (readState (some (.dict payload))) =
      records "unresolved_submissions" payload := by
  unfold unresolvedRecords readState
  have hlookup : lookup "unresolved_submissions" (setDefault "prepared_transactions" (.dict [])
      (setDefault "version" (.int stateVersion) payload)) =
        lookup "unresolved_submissions" payload := by
    rw [lookup_setDefault, if_neg (by simp), lookup_setDefault, if_neg (by simp)]
  cases hp : lookup "unresolved_submissions" payload with
  | none =>
    have hset := lookup_setDefault "unresolved_submissions" (.dict []) "unresolved_submissions"
      (setDefault "prepared_transactions" (.dict [])
        (setDefault "version" (.int stateVersion) payload))
    rw [hlookup, hp, if_pos ⟨rfl, rfl⟩] at hset
    simp only [records, Py.get, hset, hp, Option.getD]
  | some v =>
    refine records_congr ?_
    rw [lookup_setDefault, hlookup, hp]
    simp

theorem unresolvedRecords_writeState (state : List (String × Py)) :
    unresolvedRecords (readState (writeState state)) =
      Py.sortBy Prod.fst (Py.dumpedItems (unresolvedRecords state)) := by
  unfold writeState
  rw [Py.dumped_dict, unresolvedRecords_readState]
  unfold unresolvedRecords records
  rw [get_dumped]
  cases get state "unresolved_submissions" with
  | dict items => rw [Py.dumped_dict]
  | _ =>
    simp only [Py.dumped]
    rfl

theorem ledger_writeState (state : List (String × Py)) (payloadHash : String) :
    ledger (writeState state) payloadHash =
      ledgerHash (records "unresolved_submissions" state) payloadHash := by
  unfold ledger
  rw [unresolvedRecords_writeState, ledgerHash_dumped]
  rfl

theorem records_setItem_self (key : String) (items state : List (String × Py)) :
    records key (Py.setItem key (.dict items) state) = items := by
  unfold records Py.get
  rw [Py.lookup_setItem, if_pos rfl]
  rfl

theorem records_setItem_other {key key' : String} (h : key ≠ key') (v : Py)
    (state : List (String × Py)) : records key' (Py.setItem key v state) = records key' state := by
  refine records_congr ?_
  rw [Py.lookup_setItem, if_neg h]

theorem ledgerHash_setItem (payloadHash : String) (record items : List (String × Py))
    (key : String) :
    ledgerHash (Py.setItem payloadHash (.dict record) items) key =
      if payloadHash = key then nonBlank (get record "txn_hash") else ledgerHash items key := by
  unfold ledgerHash Py.get
  rw [Py.lookup_setItem]
  by_cases h : payloadHash = key <;> simp [h]

/-- The entry of a submission names its hash, and stands for no other payload. -/
theorem ledgerHash_unresolvedEntry {payloadHash txnHash recordedAt : String}
    {submitResult : List (String × Py)}
    (hhash : nonBlank (get submitResult "txn_hash") = some txnHash)
    (items : List (String × Py)) (q : String) :
    ledgerHash (Py.setItem payloadHash (unresolvedEntry payloadHash txnHash recordedAt submitResult)
      items) q =
      if payloadHash = q then some txnHash else ledgerHash items q := by
  have hstr : nonBlank (.str txnHash) = some txnHash := by
    rw [← (nonBlank_eq_some_iff.mp hhash).1]
    exact hhash
  have hget : get [("payload_sha256", .str payloadHash), ("txn_hash", .str txnHash),
      ("recorded_at", .str recordedAt), ("submission_state", get submitResult "submission_state"),
      ("next_action", get submitResult "next_action")] "txn_hash" = .str txnHash := rfl
  unfold unresolvedEntry
  rw [ledgerHash_setItem, hget, hstr]

theorem ledgerHash_pop (payloadHash : String) (items : List (String × Py)) (key : String) :
    ledgerHash (Py.pop payloadHash items) key =
      if payloadHash = key then none else ledgerHash items key := by
  unfold ledgerHash Py.get
  rw [Py.lookup_pop]
  by_cases h : payloadHash = key <;> simp [h]

/-! ## What pruning keeps -/

/-- The time of an entry, as the prune orders them. -/
def entryTime (py : Interpreter) (e : String × Py) : String := (recordedAt py e.2).toOption.getD ""

/-- There are at most `maxRecords` entries that were recorded no earlier than that of the payload,
itself included. -/
def Recent (py : Interpreter) (maxRecords : Int) (items : List (String × Py))
    (payloadHash : String) :
    Prop :=
  ∀ e ∈ items, e.1 = payloadHash →
    (items.countP (fun e' => entryTime py e ≤ entryTime py e') : Int) ≤ maxRecords

instance (py : Interpreter) (maxRecords : Int) (items : List (String × Py)) (payloadHash : String) :
    Decidable (Recent py maxRecords items payloadHash) :=
  inferInstanceAs (Decidable (∀ e ∈ items, _))

section Pruning

variable {maxRecords : Int} {items kept : List (String × Py)} {payloadHash : String}

theorem keyed_of_mapM {keyed : List (String × String)}
    (h : (items.mapM fun e => do
      let time ← recordedAt py e.2
      pure (time, e.1)) = .ok keyed) : keyed = items.map fun e => (entryTime py e, e.1) := by
  induction items generalizing keyed with
  | nil =>
    cases h
    rfl
  | cons e items ih =>
    rw [List.mapM_cons] at h
    obtain ⟨key, hkey, h₁⟩ := bind_eq_ok h
    obtain ⟨time, htime, h₂⟩ := bind_eq_ok hkey
    obtain ⟨rest, hrest, h₃⟩ := bind_eq_ok h₁
    have hentry : entryTime py e = time := by
      unfold entryTime
      rw [htime]
      rfl
    cases h₂
    cases h₃
    rw [List.map_cons, hentry, ih hrest]

theorem lookup_foldl_pop (dropped : List (String × String)) (items : List (String × Py)) :
    lookup payloadHash (dropped.foldl (fun kept e => Py.pop e.2 kept) items) =
      if payloadHash ∈ dropped.map Prod.snd then none else lookup payloadHash items := by
  induction dropped generalizing items with
  | nil => rfl
  | cons e dropped ih =>
    rw [List.foldl_cons, ih, Py.lookup_pop, List.map_cons]
    by_cases he : e.2 = payloadHash
    · simp [he]
    · rw [if_neg he]
      refine if_congr ?_ rfl rfl
      rw [List.mem_cons]
      exact (or_iff_right (Ne.symm he)).symm

/-- A prune empties the dictionary, leaves it as it is, or drops the first of its entries in the
order of their times. -/
theorem pruneRecords_cases (h : pruneRecords py maxRecords items = .ok kept) :
    (maxRecords ≤ 0 ∧ kept = []) ∨ (items.length ≤ maxRecords ∧ kept = items) ∨
    (0 < maxRecords ∧ maxRecords < items.length ∧ kept = ((Py.sortBy Prod.fst
      (items.map fun e => (entryTime py e, e.1))).take (items.length - maxRecords.toNat)).foldl
        (fun kept e => Py.pop e.2 kept) items) := by
  unfold pruneRecords at h
  split_ifs at h with hzero hroom
  · exact .inl ⟨hzero, (Except.ok.inj h).symm⟩
  · exact .inr (.inl ⟨hroom, (Except.ok.inj h).symm⟩)
  · obtain ⟨keyed, hkeyed, h₁⟩ := bind_eq_ok h
    rw [keyed_of_mapM hkeyed] at h₁
    exact .inr (.inr ⟨by omega, by omega, (Except.ok.inj h₁).symm⟩)

theorem countP_entryTime (p : String → Bool) : ((items.map fun e => (entryTime py e, e.1)).countP
    fun k : String × String => p k.1) = items.countP fun e => p (entryTime py e) := List.countP_map

/-- A recent entry is kept. -/
theorem lookup_pruneRecords (h : pruneRecords py maxRecords items = .ok kept)
    (hrecent : Recent py maxRecords items payloadHash) :
    lookup payloadHash kept = lookup payloadHash items := by
  rcases pruneRecords_cases h with ⟨hzero, rfl⟩ | ⟨-, rfl⟩ | ⟨hpos, hfull, rfl⟩
  · cases hentry : lookup payloadHash items with
    | none => rfl
    | some v =>
      obtain ⟨e, he, -⟩ := Option.map_eq_some_iff.mp hentry
      have hmem := List.mem_of_find?_eq_some he
      have hself : 0 < items.countP fun e' => entryTime py e ≤ entryTime py e' :=
        List.countP_pos_iff.mpr ⟨e, hmem, decide_eq_true (String.le_refl _)⟩
      have hcount := hrecent e hmem (by simpa using List.find?_some he)
      omega
  · rfl
  · rw [lookup_foldl_pop, if_neg]
    intro hdropped
    obtain ⟨k, hk, hkey⟩ := List.mem_map.mp hdropped
    obtain ⟨e, he, rfl⟩ :=
      List.mem_map.mp ((Py.sortBy_perm _ _).mem_iff.mp (List.mem_of_mem_take hk))
    have hrank := Py.length_lt_of_mem_take (Py.pairwise_sortBy _ _) hk
    rw [(Py.sortBy_perm _ _).length_eq, (Py.sortBy_perm _ _).countP_eq, List.length_map,
      countP_entryTime fun t => entryTime py e ≤ t] at hrank
    have hcount := hrecent e he hkey
    omega

/-- An entry goes when as many later ones are there as are kept. -/
theorem lookup_pruneRecords_eq_none {e : String × Py}
    (h : pruneRecords py maxRecords items = .ok kept)
    (he : e ∈ items) (hlater : maxRecords ≤ items.countP fun e' => ¬ entryTime py e' ≤
      entryTime py e) :
    lookup e.1 kept = none := by
  have hroom : (items.countP fun e' => ¬ entryTime py e' ≤ entryTime py e) < items.length := by
    refine lt_of_le_of_ne List.countP_le_length fun hall => ?_
    have hself := List.countP_eq_length.mp hall e he
    rw [decide_eq_true_eq] at hself
    exact hself (String.le_refl _)
  rcases pruneRecords_cases h with ⟨-, rfl⟩ | ⟨hfits, -⟩ | ⟨hpos, -, rfl⟩
  · rfl
  · omega
  · have hsorted := Py.pairwise_sortBy Prod.fst (items.map fun e => (entryTime py e, e.1))
    have hmem : (entryTime py e, e.1) ∈
      Py.sortBy Prod.fst (items.map fun e => (entryTime py e, e.1)) :=
      (Py.sortBy_perm _ _).mem_iff.mpr (List.mem_map_of_mem he)
    have hrank := Py.mem_take_of_le_countP (n := maxRecords.toNat) hsorted hmem (by
      rw [(Py.sortBy_perm _ _).countP_eq, countP_entryTime fun t => ¬ t ≤ entryTime py e]
      omega)
    rw [(Py.sortBy_perm _ _).length_eq, List.length_map] at hrank
    rw [lookup_foldl_pop, if_pos]
    exact List.mem_map_of_mem hrank

/-- Every entry of the dictionary is a dictionary itself. -/
def DictEntries (items : List (String × Py)) : Prop := ∀ e ∈ items, ∃ record, e.2 = .dict record

theorem dictEntries_setItem {txnHash recordedAt : String} {submitResult : List (String × Py)}
    (h : DictEntries items) : DictEntries (Py.setItem payloadHash
      (unresolvedEntry payloadHash txnHash recordedAt submitResult) items) := by
  intro e he
  rcases Py.mem_setItem he with rfl | hold
  · exact ⟨_, rfl⟩
  · exact h e hold

theorem recordedAt_dict (py : Interpreter) (record : List (String × Py)) :
    ∃ time, recordedAt py (.dict record) = .ok time := by
  unfold recordedAt Py.orElse
  split
  · exact ⟨_, rfl⟩
  · exact ⟨_, rfl⟩

/-- A prune raises at no dictionary, and keeps only entries that it found. -/
theorem pruneRecords_of_dictEntries (py : Interpreter) (maxRecords : Int) (h : DictEntries items) :
    ∃ kept, pruneRecords py maxRecords items = .ok kept ∧ DictEntries kept := by
  have htimes : ∃ keyed, (items.mapM fun e => do
      let time ← recordedAt py e.2
      pure (time, e.1)) = .ok keyed := by
    induction items with
    | nil => exact ⟨[], rfl⟩
    | cons e items ih =>
      obtain ⟨record, hrecord⟩ := h e (List.mem_cons_self ..)
      obtain ⟨time, htime⟩ := recordedAt_dict py record
      obtain ⟨keyed, hkeyed⟩ := ih fun e' he' => h e' (List.mem_cons_of_mem e he')
      refine ⟨(time, e.1) :: keyed, ?_⟩
      rw [List.mapM_cons, hrecord, htime, ok_bind, pure_bind, hkeyed]
      rfl
  obtain ⟨keyed, hkeyed⟩ := htimes
  have hpops : ∀ (dropped : List (String × String)) (items : List (String × Py)),
      DictEntries items → DictEntries (dropped.foldl (fun kept e => Py.pop e.2 kept) items) := by
    intro dropped
    induction dropped with
    | nil => exact fun _ hitems => hitems
    | cons e dropped ih =>
      exact fun items hitems => ih _ fun e' he' => hitems e' (List.mem_of_mem_filter he')
  unfold pruneRecords
  split_ifs
  · exact ⟨[], rfl, fun e he => absurd he List.not_mem_nil⟩
  · exact ⟨items, rfl, h⟩
  · rw [hkeyed]
    exact ⟨_, rfl, hpops _ items h⟩

theorem ledgerHash_pruneRecords (h : pruneRecords py maxRecords items = .ok kept)
    (hrecent : Recent py maxRecords items payloadHash) :
    ledgerHash kept payloadHash = ledgerHash items payloadHash := by
  unfold ledgerHash Py.get
  rw [lookup_pruneRecords h hrecent]

end Pruning

/-! ## What each operation does to the ledger -/

/-- The log has grown, and only the entry of one payload may have changed. -/
def Frame (payloadHash : String) (s s' : HostState) : Prop :=
  (∃ d, s'.log = s.log ++ d) ∧
    ∀ q, q ≠ payloadHash → ledger s'.stateFile q = ledger s.stateFile q

section Frame

variable {payloadHash : String} {α β : Type}

theorem Frame.refl (s : HostState) : Frame payloadHash s s :=
  ⟨⟨[], (List.append_nil _).symm⟩, fun _ _ => rfl⟩

theorem Frame.trans {a b c : HostState} (hab : Frame payloadHash a b)
    (hbc : Frame payloadHash b c) :
    Frame payloadHash a c := by
  obtain ⟨⟨d, hd⟩, hab⟩ := hab
  obtain ⟨⟨d', hd'⟩, hbc⟩ := hbc
  exact ⟨⟨d ++ d', by rw [hd', hd, List.append_assoc]⟩, fun q hq => (hbc q hq).trans (hab q hq)⟩

theorem frame_bind {m : HostM α} {f : α → HostM β} (hm : Moves (Frame payloadHash) m)
    (hf : ∀ a, Moves (Frame payloadHash) (f a)) : Moves (Frame payloadHash) (m >>= f) :=
  Moves.bind (fun _ _ _ h h' => h.trans h') hm hf

theorem frame_still {m : HostM α} (h : ∀ s, (m s).2 = s) : Moves (Frame payloadHash) m :=
  Moves.of_still Frame.refl h

theorem frame_callNode (tool : NodeTool) (arguments : List (String × Py)) :
    Moves (Frame payloadHash) (callNode env tool arguments) :=
  fun _ => ⟨⟨[_], rfl⟩, fun _ _ => rfl⟩

/-- Clearing takes away the session's own entry. -/
theorem clearUnresolvedSubmission_apply
    (hpayload : sessionPayloadSha256 py session = .ok payloadHash)
    (s : HostState) :
    ∃ file, clearUnresolvedSubmission py session s = (.ok (), { s with stateFile := file }) ∧
      ∀ q, ledger file q = if payloadHash = q then none else ledger s.stateFile q := by
  refine ⟨writeState (Py.setItem "unresolved_submissions"
    (.dict (Py.pop payloadHash (unresolvedRecords (readState s.stateFile))))
    (readState s.stateFile)),
    ?_, fun q => ?_⟩
  · unfold clearUnresolvedSubmission
    rw [hpayload]
    exact lockedState_ok rfl
  · rw [ledger_writeState, records_setItem_self, ledgerHash_pop]
    rfl

theorem frame_clearUnresolvedSubmission
    (hpayload : sessionPayloadSha256 py session = .ok payloadHash) :
    Moves (Frame payloadHash) (clearUnresolvedSubmission py session) := by
  intro s
  obtain ⟨file, happly, hledger⟩ := clearUnresolvedSubmission_apply hpayload s
  rw [happly]
  refine ⟨⟨[], (List.append_nil _).symm⟩, fun q hq => ?_⟩
  exact (hledger q).trans (if_neg (Ne.symm hq))

theorem frame_clearWhen (hpayload : sessionPayloadSha256 py session = .ok payloadHash)
    (confirmed : Bool) : Moves (Frame payloadHash) (clearWhen py confirmed session) :=
  Moves.ite (frame_clearUnresolvedSubmission hpayload) (frame_still fun _ => rfl)

theorem frame_clearIfConfirmed (hpayload : sessionPayloadSha256 py session = .ok payloadHash)
    (watchResult : Py) :
    Moves (Frame payloadHash) (clearIfConfirmed py controller session watchResult) :=
  Moves.ite (frame_bind (frame_still fun _ => rfl) fun _ => frame_clearWhen hpayload _)
    (frame_still fun _ => rfl)

theorem frame_clearIfReconciled (hpayload : sessionPayloadSha256 py session = .ok payloadHash)
    (watchResult : Py) :
    Moves (Frame payloadHash) (clearIfReconciled py controller session watchResult) :=
  Moves.ite (frame_bind (frame_still fun _ => rfl) fun _ => frame_clearWhen hpayload _)
    (frame_still fun _ => rfl)

theorem frame_followUp (hpayload : sessionPayloadSha256 py session = .ok payloadHash)
    {submitResult : List (String × Py)} {watchResult : Py} {watchSource : Option String} :
    Moves (Frame payloadHash)
      (followUp py env controller session options submitResult watchResult watchSource) := by
  refine Moves.ite (frame_still fun _ => rfl) (frame_bind (frame_still fun _ => rfl) fun _ => ?_)
  refine Moves.ite ?_ (frame_bind (frame_still fun _ => rfl) fun _ => ?_)
  · refine frame_bind (frame_still fun _ => rfl) fun _ => ?_
    refine frame_bind (frame_callNode _ _) fun watched => ?_
    exact frame_bind (frame_clearIfReconciled hpayload watched) fun _ => frame_still fun _ => rfl
  · refine Moves.ite (frame_bind (frame_still fun _ => rfl) fun _ => ?_) (frame_still fun _ => rfl)
    exact frame_bind (frame_callNode _ _) fun _ => frame_still fun _ => rfl

/-- The part of `settle` that follows the ledger entry. -/
theorem frame_afterRecord (hpayload : sessionPayloadSha256 py session = .ok payloadHash)
    {submitResult : List (String × Py)} {reported : Py} {watchSource : Option String} :
    Moves (Frame payloadHash) (followUp py env controller session options submitResult reported
      watchSource >>= fun watched => clearIfConfirmed py controller session watched.1 >>= fun _ =>
        (FailState.lift (conclude submitResult watched.1 watched.2) : HostM
          TransferSubmitOutcome)) := by
  refine frame_bind (frame_followUp hpayload) fun watched => ?_
  exact frame_bind (frame_clearIfConfirmed hpayload _) fun _ => frame_still fun _ => rfl

theorem frame_reconcile (hpayload : sessionPayloadSha256 py session = .ok payloadHash)
    (unresolved : UnresolvedSubmissionRecord) :
    Moves (Frame payloadHash) (reconcile py env session options unresolved) := by
  refine frame_bind (frame_callNode _ _) fun _ => ?_
  refine frame_bind (frame_still fun _ => rfl) fun _ => ?_
  refine frame_bind (frame_clearWhen hpayload _) fun _ => ?_
  exact frame_bind (frame_still fun _ => rfl) fun _ => frame_still fun _ => rfl

end Frame

/-- A preparation writes to the other dictionary of the file. -/
theorem recordPrepared_apply {limits : StoreLimits} (s : HostState) :
    ∃ r file, recordPrepared py env limits session s = (r, { s with stateFile := file }) ∧
      ∀ q, ledger file q = ledger s.stateFile q := by
  unfold recordPrepared
  cases sessionPayloadSha256 py session with
  | error e => exact ⟨.error e, s.stateFile, rfl, fun _ => rfl⟩
  | ok payloadHash =>
    show ∃ r file, lockedState _ s = _ ∧ _
    cases hbody : (pruneRecords py limits.maxPreparedRecords (Py.setItem payloadHash
        (preparedRecord payloadHash (env.now s.log) session)
        (preparedRecords (readState s.stateFile)))) with
    | error e =>
      refine ⟨.error e, s.stateFile, lockedState_error ?_, fun _ => rfl⟩
      rw [hbody]
      rfl
    | ok prepared =>
      refine ⟨.ok (), _, lockedState_ok (by rw [hbody]; rfl), fun q => ?_⟩
      rw [ledger_writeState, records_setItem_other (by simp)]
      rfl

/-! ## The entry of an answer -/

/-- There is room in the ledger for an entry of this payload. -/
def HasRoom (limits : StoreLimits) (file : Option Py) (payloadHash : String) : Prop :=
  ((Py.setItem payloadHash .none (unresolvedRecords (readState file))).length : Int) ≤
    limits.maxUnresolvedRecords

theorem length_setItem (key : String) (v w : Py) (items : List (String × Py)) :
    (Py.setItem key v items).length = (Py.setItem key w items).length := by
  induction items with
  | nil => rfl
  | cons e items ih =>
    unfold Py.setItem
    by_cases h : e.1 = key <;> simp [h, ih]

theorem setItem_ne_nil (key : String) (v : Py) (items : List (String × Py)) :
    0 < (Py.setItem key v items).length := by
  cases items with
  | nil => exact Nat.one_pos
  | cons e items =>
    unfold Py.setItem
    split <;> exact Nat.succ_pos _

theorem pruneRecords_of_room {limits : StoreLimits} {file : Option Py} {payloadHash : String}
    (h : HasRoom limits file payloadHash) (v : Py) :
    pruneRecords py limits.maxUnresolvedRecords
      (Py.setItem payloadHash v (unresolvedRecords (readState file))) =
      .ok (Py.setItem payloadHash v (unresolvedRecords (readState file))) := by
  have hlength := length_setItem payloadHash v .none (unresolvedRecords (readState file))
  have hpos := setItem_ne_nil payloadHash v (unresolvedRecords (readState file))
  unfold HasRoom at h
  unfold pruneRecords
  rw [if_neg (by omega), if_pos (by omega)]

/-- Where there is room, an answer that names its transaction gets its entry. -/
theorem recordUnresolvedSubmission_apply {limits : StoreLimits} {payloadHash txnHash : String}
    {submitResult : List (String × Py)} {s : HostState}
    (hpayload : sessionPayloadSha256 py session = .ok payloadHash)
    (hhash : nonBlank (get submitResult "txn_hash") = some txnHash)
    (hroom : HasRoom limits s.stateFile payloadHash) :
    ∃ file, recordUnresolvedSubmission py env limits session submitResult s =
        (.ok (), { s with stateFile := file }) ∧
      ∀ q, ledger file q = if payloadHash = q then some txnHash else ledger s.stateFile q := by
  refine ⟨writeState (Py.setItem "unresolved_submissions"
    (.dict (Py.setItem payloadHash
      (unresolvedEntry payloadHash txnHash (env.now s.log) submitResult)
      (unresolvedRecords (readState s.stateFile)))) (readState s.stateFile)), ?_, fun q => ?_⟩
  · unfold recordUnresolvedSubmission
    rw [hpayload, hhash]
    refine lockedState_ok ?_
    rw [pruneRecords_of_room hroom]
    rfl
  · rw [ledger_writeState, records_setItem_self]
    exact ledgerHash_unresolvedEntry hhash _ q

end StarcoinMcp.Host
