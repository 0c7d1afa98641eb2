import StarcoinMcp.Node.Times

/-! How long a successful simulation is remembered. The ledger of prepared transactions has one
record for a raw transaction, and whoever prepares or simulates it last writes that record. A
preparation without a public key does not simulate and says so in the ledger, also where the
same transaction had been simulated before; nothing else takes a record away in time. -/

namespace StarcoinMcp.Node

open Prog

/-! ## What a call does to the ledger -/

/-- The call comes with the public key that a simulation needs. -/
def ToolCall.simulates : ToolCall → Bool
  | .prepareTransfer input => input.senderPublicKey.isSome
  | .prepareContractCall input => input.senderPublicKey.isSome
  | .preparePublishPackage input => input.senderPublicKey.isSome
  | _ => true

/-- Pruning is by the retention of the configuration, and what is written says whether the call
simulated. -/
def OnPrepared (ctx : AppContext) (call : ToolCall) : Op → Bool
  | .loc (.prunePrepared retention) =>
    ctx.config.maxExpirationTtl.checkedAdd ctx.config.maxWatchTimeout = some retention
  | .loc (.insertPrepared _ status _) => decide (status = .performed) = call.simulates
  | _ => true

section Calls

variable {ctx : AppContext} {call : ToolCall}

theorem onPrepared_of_inquiry {o : Op} (h : o.inquiry = true) : OnPrepared ctx call o = true := by
  cases o with
  | rpc o => rfl
  | clock o => rfl
  | loc o => cases h

theorem onPrepared_of_aboutProbe {o : Op} (h : o.aboutProbe = true) :
    OnPrepared ctx call o = true := by
  cases o with
  | rpc o => rfl
  | clock o => rfl
  | loc o => cases o <;> first | rfl | cases h

theorem coversPreparing_onPrepared : AppContext.CoversPreparing ctx (OnPrepared ctx call) :=
  ⟨fun _ => onPrepared_of_inquiry, fun _ => onPrepared_of_aboutProbe,
    fun _ h => decide_eq_true h, rfl, rfl⟩

theorem coversWatch_onPrepared : AppContext.CoversWatch (OnPrepared ctx call) :=
  ⟨fun _ h => onPrepared_of_inquiry (Op.inquiry_of_reading h), fun _ => rfl, rfl, rfl⟩

theorem onPrepared_insert {publicKey : Option String} (hcall : call.simulates = publicKey.isSome)
    (key : List Char) (status : SimulationStatus) (chainContext : ChainContext)
    (h : status = .performed ↔ publicKey.isSome = true) :
    OnPrepared ctx call (.loc (.insertPrepared key status chainContext)) = true := by
  have hstatus : decide (status = .performed) = call.simulates := by
    rw [hcall, Bool.eq_iff_iff, decide_eq_true_eq]
    exact h
  exact decide_eq_true hstatus

theorem asks_submitSignedTransaction_onPrepared (polls : ℕ) (input : SubmitSignedTransactionInput) :
    Asks (OnPrepared ctx call) (ctx.submitSignedTransaction polls input) := by
  have hprune : Asks (OnPrepared ctx call) ctx.pruneUnresolvedSubmissions :=
    AppContext.asks_retention.bind fun _ => asks_ask rfl
  have hprobe : Asks (OnPrepared ctx call) ctx.ensureTransactionCapabilitiesCurrent :=
    AppContext.asks_ensureTransactionCapabilitiesCurrent.imp fun _ => onPrepared_of_aboutProbe
  have hsnapshot : Asks (OnPrepared ctx call) ctx.loadTransactionEndpointSnapshot :=
    AppContext.asks_loadTransactionEndpointSnapshot.imp fun _ h =>
      onPrepared_of_inquiry (Op.inquiry_of_reading h)
  have hstale : ∀ signedTxn, Asks (OnPrepared ctx call)
    (ctx.signedTransactionSequenceIsStale signedTxn) :=
    fun _ => (AppContext.asks_signedTransactionSequenceIsStale _).imp fun _ => onPrepared_of_inquiry
  have hsend : ∀ hash status timeout,
      Asks (OnPrepared ctx call) (ctx.sendSignedTransaction polls input hash status timeout) := by
    intro hash status timeout
    unfold AppContext.sendSignedTransaction rpc
    refine (asks_ask rfl).bind fun answer => ?_
    cases answer with
    | ok _ =>
      exact (AppContext.asks_watchAccepted_of coversWatch_onPrepared _ _ _ _).bind
        fun _ => asks_pure
    | error e =>
      refine asks_ite ?_ (asks_ite asks_pure asks_throw)
      exact (hprune.bind fun _ => asks_ask rfl).bind fun _ => asks_pure
  unfold AppContext.submitSignedTransaction AppContext.loadPreparedTransactionRecord
    AppContext.hasUnresolvedSubmission AppContext.submitResolved
  refine asks_lift.bind fun _ => asks_lift.bind fun _ => asks_lift.bind fun _ => ?_
  refine ((AppContext.asks_prunePreparedTransactions_of coversPreparing_onPrepared.prune).bind
    fun _ => asks_ask rfl).bind fun _ => ?_
  refine (hprune.bind fun _ => asks_ask rfl).bind fun _ => asks_ite asks_pure ?_
  refine hprobe.bind fun _ => hsnapshot.bind fun _ => asks_lift.bind fun _ => asks_ite asks_pure ?_
  exact (hstale _).bind fun _ => asks_ite asks_pure (hsend _ _ _)

theorem asks_program_onPrepared (ctx : AppContext) (call : ToolCall) :
    Asks (OnPrepared ctx call) (ctx.program call) := by
  cases call with
  | prepareTransfer input =>
    refine Asks.bind ?_ fun _ => asks_pure
    exact AppContext.asks_prepareTransfer_of coversPreparing_onPrepared (onPrepared_insert rfl)
  | prepareContractCall input =>
    refine Asks.bind ?_ fun _ => asks_pure
    exact AppContext.asks_prepareContractCall_of coversPreparing_onPrepared (onPrepared_insert rfl)
  | preparePublishPackage input =>
    refine Asks.bind ?_ fun _ => asks_pure
    exact AppContext.asks_preparePublishPackage_of coversPreparing_onPrepared
      (onPrepared_insert rfl)
  | simulateRawTransaction input =>
    refine Asks.bind ?_ fun _ => asks_pure
    exact AppContext.asks_simulateRawTransaction_of coversPreparing_onPrepared input fun _ _ => rfl
  | watchTransaction polls input =>
    exact (AppContext.asks_watchTransaction_of coversWatch_onPrepared _ _).bind fun _ => asks_pure
  | submitSignedTransaction polls input =>
    exact (asks_submitSignedTransaction_onPrepared _ _).bind fun _ => asks_pure

end Calls

/-! ## The record of one transaction -/

/-- How long records are kept, in nanoseconds. -/
def AppContext.retentionNanos (ctx : AppContext) : ℕ :=
  ctx.config.maxExpirationTtl.nanos + ctx.config.maxWatchTimeout.nanos

/-- The ledger vouches for the transaction on the chain of `chainContext`. -/
def Shared.Vouches (s : Shared) (key : List Char) (chainContext : ChainContext) : Prop :=
  ∃ r, s.preparedTransactions.find key = some r ∧ r.simulationStatus = .performed ∧
    sameChain r.chainContext chainContext = true

theorem sameChain_refl (c : ChainContext) : sameChain c c = true := by
  simp [sameChain]

section Ledger

variable {ctx : AppContext} {s : Shared} {e : LogEntry} {key : List Char}
  {r : PreparedTransactionRecord}

theorem find_prepared_insert {status : SimulationStatus} {c : ChainContext}
    (he : e.event.1 = .loc (.insertPrepared key status c)) :
    (ctx.system.effect s e).preparedTransactions.find key = some ⟨key, status, c, e.time⟩ := by
  obtain ⟨i, now, ⟨o, x⟩⟩ := e
  cases he
  show (s.preparedTransactions.upsert ⟨key, status, c, now⟩).find key = _
  rw [Table.find_upsert, if_pos rfl]

/-- Until it is too old, a record is only replaced by another record of the same transaction. -/
theorem find_prepared_kept (h : s.preparedTransactions.find key = some r)
    (hprune : ∀ retention, e.event.1 = .loc (.prunePrepared retention) →
      e.time ≤ r.recordedAt + retention.nanos)
    (hinsert : ∀ status c, e.event.1 ≠ .loc (.insertPrepared key status c)) :
    (ctx.system.effect s e).preparedTransactions.find key = some r := by
  obtain ⟨i, now, ⟨o, x⟩⟩ := e
  cases o with
  | rpc o => exact h
  | clock o => exact h
  | loc o =>
    cases o with
    | prunePrepared retention =>
      have hage : now ≤ r.recordedAt + retention.nanos := hprune retention rfl
      have hmem : r ∈ (s.preparedTransactions.filter fun r =>
          elapsed r.recordedAt now ≤ retention.nanos).rows := by
        refine List.mem_filter.mpr ⟨Table.mem_of_find h, decide_eq_true ?_⟩
        unfold elapsed
        omega
      have hfind := Table.find_of_mem hmem
      rwa [Table.key_of_find h] at hfind
    | insertPrepared key' status c =>
      have hne : key ≠ key' := by
        rintro rfl
        exact hinsert status c rfl
      show (s.preparedTransactions.upsert ⟨key', status, c, now⟩).find key = _
      rw [Table.find_upsert, if_neg hne]
      exact h
    | _ => exact h

end Ledger

/-- The entry writes a record of the transaction. -/
def Writes (key : List Char) (e : LogEntry) : Prop :=
  ∃ status c, e.event.1 = .loc (.insertPrepared key status c)

section Runs

variable {ctx : AppContext} {s : Shared} {moves written later : List NodeMove}
  {before after : List LogEntry} {e x : LogEntry} {key : List Char} {c : ChainContext}

theorem prepared_entry (ctx : AppContext) (s : Shared) (moves : List NodeMove)
    (hx : x ∈ (ctx.system.run s moves).log) : ∃ call p, (ctx.system.run s moves).calls[x.call]? =
      some (call, p) ∧
      OnPrepared ctx call x.event.1 = true := by
  obtain ⟨before, after, hlog⟩ := List.append_of_mem hx
  have hmeets : ∀ call, Meets (fun _ o => OnPrepared ctx call o = true) (fun _ _ => True) []
      (ctx.program call) := fun call => (asks_program_onPrepared ctx call).meets fun _ _ h => h
  exact (System.followed_run s moves).allowed hmeets hlog

theorem retention_of_prune (ctx : AppContext) (s : Shared) (moves : List NodeMove)
    (hx : x ∈ (ctx.system.run s moves).log) {retention : Duration}
    (h : x.event.1 = .loc (.prunePrepared retention)) : retention.nanos = ctx.retentionNanos := by
  obtain ⟨call, p, -, hallowed⟩ := prepared_entry ctx s moves hx
  rw [h] at hallowed
  exact Duration.checkedAdd_eq_some (of_decide_eq_true hallowed)

/-- The record survives every entry in time that writes no other status or chain. -/
theorem vouches_replay
    (hordered : Logged (fun before x => ∀ x' ∈ before, x'.time ≤ x.time) (before ++ e :: after))
    (he : e.event.1 = .loc (.insertPrepared key .performed c))
    (hprune : ∀ x ∈ after, ∀ retention, x.event.1 = .loc (.prunePrepared retention) →
      retention.nanos = ctx.retentionNanos)
    (htime : ∀ x ∈ after, x.time ≤ e.time + ctx.retentionNanos)
    (hwrite : ∀ x ∈ after, ∀ status c', x.event.1 = .loc (.insertPrepared key status c') →
      status = .performed ∧ sameChain c' c = true) :
    (ctx.system.replay s (before ++ e :: after)).Vouches key c := by
  -- the record is never older than the first one
  suffices h : ∃ r,
      (ctx.system.replay s (before ++ e :: after)).preparedTransactions.find key = some r ∧
      r.simulationStatus = .performed ∧ sameChain r.chainContext c = true ∧ e.time ≤ r.recordedAt by
    obtain ⟨r, hr, hstatus, hchain, -⟩ := h
    exact ⟨r, hr, hstatus, hchain⟩
  induction after using List.reverseRecOn with
  | nil =>
    refine ⟨⟨key, .performed, c, e.time⟩, ?_, rfl, sameChain_refl c, le_rfl⟩
    rw [System.replay_snoc]
    exact find_prepared_insert he
  | append_singleton after x ih =>
    have hsplit : before ++ e :: (after ++ [x]) = (before ++ e :: after) ++ [x] := by simp
    have hlast : x ∈ after ++ [x] := by simp
    rw [hsplit] at hordered ⊢
    obtain ⟨r, hr, hstatus, hchain, hage⟩ := ih hordered.of_append
      (fun y hy => hprune y (List.mem_append_left _ hy))
      (fun y hy => htime y (List.mem_append_left _ hy))
      (fun y hy => hwrite y (List.mem_append_left _ hy))
    rw [System.replay_snoc]
    by_cases hwrites : Writes key x
    · obtain ⟨status, c', hx⟩ := hwrites
      obtain ⟨rfl, hc'⟩ := hwrite x hlast status c' hx
      exact ⟨_, find_prepared_insert hx, rfl, hc', hordered _ x [] rfl e (by simp)⟩
    · refine ⟨r, find_prepared_kept hr ?_ ?_, hstatus, hchain, hage⟩
      · intro retention hx
        have hnanos := hprune x hlast retention hx
        have hx := htime x hlast
        omega
      · intro status c' hx
        exact hwrites ⟨status, c', hx⟩

theorem run_log_append (ctx : AppContext) (s : Shared) (moves more : List NodeMove) :
    ∃ log, (ctx.system.run s (moves ++ more)).log = (ctx.system.run s moves).log ++ log := by
  have hrun : ctx.system.run s (moves ++ more) =
    Trace.run ctx.system.step (ctx.system.run s moves) more :=
    Trace.run_append
  rw [hrun]
  exact System.log_append _ more

end Runs

/-- The simulation that was recorded last in the run `written` stays on record while the run goes on
with `later`, for as long as records are kept. -/
def KeepsSimulation (ctx : AppContext) (s : Shared) (written later : List NodeMove) (time : ℕ)
    (key : List Char) (c : ChainContext) : Prop :=
  ∀ m₁ m₂, later = m₁ ++ m₂ → (ctx.system.run s (written ++ m₁)).clock ≤ time + ctx.retentionNanos →
    (ctx.system.run s (written ++ m₁)).shared.Vouches key c

/-- A recorded simulation is of the bytes it is kept under, by a dry run of the call that records
it; it is kept just when every later write of the same bytes, in time and on the same chain, is by a
call with a public key. -/
theorem simulation_kept_iff (ctx : AppContext) (s : Shared) (written later : List NodeMove)
    (before after : List LogEntry) (e : LogEntry) (key : List Char) (c : ChainContext)
    (hwritten : (ctx.system.run s written).log = before ++ [e])
    (hlater : (ctx.system.run s (written ++ later)).log = before ++ e :: after)
    (he : e.event.1 = .loc (.insertPrepared key .performed c))
    (hchain : ∀ x ∈ after, x.time ≤ e.time + ctx.retentionNanos → ∀ status c',
      x.event.1 = .loc (.insertPrepared key status c') → sameChain c' c = true) :
    ((∃ rawBytes, key = Hex.encode rawBytes) ∧ DryRunExecuted key (traceOf e.call before)) ∧
    (KeepsSimulation ctx s written later e.time key c ↔
      ∀ x ∈ after, x.time ≤ e.time + ctx.retentionNanos → Writes key x → ∀ call p,
        (ctx.system.run s (written ++ later)).calls[x.call]? = some (call, p) →
          call.simulates = true) := by
  obtain ⟨-, -, -, -, hbytes, hexecuted⟩ := attestation_entry hlater he
  refine ⟨⟨hbytes, hexecuted rfl⟩, ?_⟩
  constructor
  · rintro hkeeps x hx htime ⟨status, c', hwrite⟩ call p hcall
    obtain ⟨l, l', rfl⟩ := List.append_of_mem hx
    -- the moment right after the write
    obtain ⟨m₁, m₂, hmoves, hlog⟩ : ∃ m₁ m₂, later = m₁ ++ m₂ ∧
        (ctx.system.run s (written ++ m₁)).log = (before ++ e :: l) ++ [x] := by
      have hrun : ∀ m, ctx.system.run s (written ++ m) =
          Trace.run ctx.system.step (ctx.system.run s written) m := fun m => Trace.run_append
      rw [hrun] at hlater
      have hsplit : (Trace.run ctx.system.step (ctx.system.run s written) later).log =
          (ctx.system.run s written).log ++ (l ++ [x]) ++ l' := by
        rw [hlater, hwritten]
        simp
      obtain ⟨m₁, m₂, hmoves, hm⟩ := System.exists_moves_of_log hsplit
      refine ⟨m₁, m₂, hmoves, ?_⟩
      rw [hrun, hm, hwritten]
      simp
    have hclock := (System.timed_run s (written ++ m₁)).last _ x hlog
    obtain ⟨r, hr, hstatus, -⟩ := hkeeps m₁ m₂ hmoves (by rw [hclock]; exact htime)
    rw [(System.run_replay s (written ++ m₁)).1, hlog, System.replay_snoc,
      find_prepared_insert hwrite] at hr
    cases hr
    have hmem : x ∈ (ctx.system.run s (written ++ later)).log := by
      rw [hlater]
      simp
    obtain ⟨call', p', hcall', hallowed⟩ := prepared_entry ctx s (written ++ later) hmem
    obtain ⟨rfl, -⟩ := Prod.mk.inj (Option.some.inj (hcall.symm.trans hcall'))
    rw [hwrite] at hallowed
    have hsimulates : decide (status = .performed) = call.simulates := of_decide_eq_true hallowed
    rw [← hsimulates]
    exact decide_eq_true hstatus
  · intro hcalls m₁ m₂ hmoves hclock
    obtain ⟨l, hl⟩ := run_log_append ctx s written m₁
    obtain ⟨l', hl'⟩ := run_log_append ctx s (written ++ m₁) m₂
    have hlog : (ctx.system.run s (written ++ m₁)).log = before ++ e :: l := by
      rw [hl, hwritten]
      simp
    have hafter : after = l ++ l' := by
      rw [List.append_assoc, ← hmoves, hlater, hlog] at hl'
      simpa using hl'
    have htime : ∀ x ∈ l, x.time ≤ e.time + ctx.retentionNanos := by
      intro x hx
      have hpast := (System.timed_run s (written ++ m₁)).past x (by rw [hlog]; simp [hx])
      omega
    rw [(System.run_replay s (written ++ m₁)).1, hlog]
    refine vouches_replay ?_ he ?_ htime ?_
    · rw [← hlog]
      exact System.run_ordered s (written ++ m₁)
    · intro x hx retention hprune
      exact retention_of_prune ctx s (written ++ m₁) (by rw [hlog]; simp [hx]) hprune
    · intro x hx status c' hwrite
      have hmem : x ∈ after := by simp [hafter, hx]
      refine ⟨?_, hchain x hmem (htime x hx) status c' hwrite⟩
      have hlogged : x ∈ (ctx.system.run s (written ++ later)).log := by
        rw [hlater]
        simp [hmem]
      obtain ⟨call, p, hcall, hallowed⟩ := prepared_entry ctx s (written ++ later) hlogged
      have hsimulates := hcalls x hmem (htime x hx) ⟨status, c', hwrite⟩ call p hcall
      rw [hwrite] at hallowed
      have hdecide : decide (status = .performed) = call.simulates := of_decide_eq_true hallowed
      rw [hsimulates] at hdecide
      exact of_decide_eq_true hdecide

namespace Sample

def rawHex : List Char := Hex.encode rawBytes

/-- The transfer is simulated. -/
def simulated : List NodeMove := .start simulate :: answers 0 7 7

/-- The same transfer is prepared after that. -/
def preparedAgain (publicKey : Option String) : List NodeMove :=
  .start (.prepareTransfer { transferInput (some 2000) with senderPublicKey := publicKey }) ::
    answers 1 12 7

def onChain (e : LogEntry) : Bool :=
  match e.event.1 with
  | .loc (.insertPrepared _ _ c) => sameChain c chainContext
  | _ => true

theorem simulated_written : ∃ before e, (ctx.system.run start simulated).log = before ++ [e] ∧
    e.event.1 = .loc (.insertPrepared rawHex .performed chainContext) ∧ e.time = 7000 := by
  have hlast : (ctx.system.run start simulated).log.getLast?.map (fun e => (e.event.1, e.time)) =
      some (.loc (.insertPrepared rawHex .performed chainContext), 7000) := by decide +kernel
  obtain ⟨e, he, hfields⟩ := Option.map_eq_some_iff.mp hlast
  obtain ⟨hevent, htime⟩ := Prod.mk.inj hfields
  exact ⟨_, e, (List.dropLast_append_getLast? e he).symm, hevent, htime⟩

theorem preparedAgain_log (publicKey : Option String) {before : List LogEntry} {e : LogEntry}
    (h : (ctx.system.run start simulated).log = before ++ [e]) :
    ∃ after, (ctx.system.run start (simulated ++ preparedAgain publicKey)).log = before ++
      e :: after := by
  obtain ⟨after, hafter⟩ := run_log_append ctx start simulated (preparedAgain publicKey)
  refine ⟨after, ?_⟩
  rw [hafter, h]
  simp

theorem onChain_of_all {log before after : List LogEntry} {e : LogEntry}
    (hlog : log = before ++ e :: after)
    (h : log.all onChain = true) : ∀ x ∈ after, ∀ status c,
      x.event.1 = .loc (.insertPrepared rawHex status c) → sameChain c chainContext = true := by
  intro x hx status c hwrite
  have hon := List.all_eq_true.mp h x (by rw [hlog]; simp [hx])
  unfold onChain at hon
  rw [hwrite] at hon
  exact hon

end Sample

open Sample in
theorem simulation_kept_with_key :
    ∃ before e, (ctx.system.run start simulated).log = before ++ [e] ∧
    e.event.1 = .loc (.insertPrepared rawHex .performed chainContext) ∧
    KeepsSimulation ctx start simulated
      (preparedAgain (some "0x07")) e.time rawHex chainContext := by
  obtain ⟨before, e, hwritten, he, -⟩ := simulated_written
  obtain ⟨after, hlater⟩ := preparedAgain_log (some "0x07") hwritten
  have hall : (ctx.system.run start (simulated ++ preparedAgain (some "0x07"))).log.all onChain =
    true := by
    decide +kernel
  have hcalls : (ctx.system.run start (simulated ++ preparedAgain (some "0x07"))).calls.all
      (fun call => call.1.simulates) = true := by decide +kernel
  refine ⟨before, e, hwritten, he, ?_⟩
  refine (simulation_kept_iff ctx start simulated
    (preparedAgain (some "0x07")) before after e rawHex
    chainContext hwritten hlater he ?_).2.mpr ?_
  · intro x hx _ status c hwrite
    exact onChain_of_all hlater hall x hx status c hwrite
  · intro x _ _ _ call p hcall
    exact List.all_eq_true.mp hcalls _ (List.mem_of_getElem? hcall)

open Sample in
/-- The transfer is simulated, and prepared again without a public key a few microseconds later. -/
theorem simulation_overwritten : ∃ before e after,
    (ctx.system.run start simulated).log = before ++ [e] ∧
    (ctx.system.run start (simulated ++ preparedAgain none)).log = before ++ e :: after ∧
    e.event.1 = .loc (.insertPrepared rawHex .performed chainContext) ∧
    (∀ x ∈ after, ∀ status c, x.event.1 = .loc (.insertPrepared rawHex status c) →
      sameChain c chainContext = true) ∧
    ((ctx.system.run start (simulated ++ preparedAgain none)).shared.preparedTransactions.find
      rawHex).map
      (·.simulationStatus) = some .skippedMissingPublicKey ∧
    ¬ KeepsSimulation ctx start simulated (preparedAgain none) e.time rawHex chainContext := by
  obtain ⟨before, e, hwritten, he, htime⟩ := simulated_written
  obtain ⟨after, hlater⟩ := preparedAgain_log none hwritten
  have hall : (ctx.system.run start (simulated ++ preparedAgain none)).log.all onChain = true := by
    decide +kernel
  have hstatus :
    ((ctx.system.run start (simulated ++ preparedAgain none)).shared.preparedTransactions.find
      rawHex).map (·.simulationStatus) = some .skippedMissingPublicKey := by decide +kernel
  have hclock : (ctx.system.run start (simulated ++ preparedAgain none)).clock ≤ 7000 +
    ctx.retentionNanos := by
    decide +kernel
  refine ⟨before, e, after, hwritten, hlater, he, onChain_of_all hlater hall, hstatus, ?_⟩
  intro hkeeps
  obtain ⟨r, hr, hperformed, -⟩ := hkeeps (preparedAgain none) [] (List.append_nil _).symm
    (by rw [htime]; exact hclock)
  rw [hr] at hstatus
  have hskipped : r.simulationStatus = .skippedMissingPublicKey := Option.some.inj hstatus
  rw [hperformed] at hskipped
  cases hskipped

end StarcoinMcp.Node
