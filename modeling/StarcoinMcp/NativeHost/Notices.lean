import StarcoinMcp.NativeHost.Notify

/-! The notices of the native host, in every interleaving of its two threads and the daemon's other
clients. A wallet is told of requests when a poll finds some and no notice stands; a request is
reported as cancelled when it is, once for each time it was shown. -/

namespace StarcoinMcp.NativeHost

open Starmask

/-! ## Notices of available requests -/

/-- A notice stands from its writing until the extension pulls or a poll finds nothing. -/
def outstandingStep (w : WalletInstanceId) (standing : Bool) : LogEntry → Bool
  | .wrote (.requestAvailable w') => if w' = w then true else standing
  | .observed (.requestPullNext _ w') _ => if w' = w then false else standing
  | .polled result => if result.walletInstanceId = w ∧ result.available = false then false else standing
  | _ => standing

def outstanding (w : WalletInstanceId) (log : List LogEntry) : Bool := log.foldl (outstandingStep w) false

/-- The last poll found requests, and the extension has not pulled since. -/
def wantedStep (w : WalletInstanceId) (wanted : Bool) : LogEntry → Bool
  | .observed (.requestPullNext _ w') _ => if w' = w then false else wanted
  | .polled result => if result.walletInstanceId = w then result.available else wanted
  | _ => wanted

def wanted (w : WalletInstanceId) (log : List LogEntry) : Bool := log.foldl (wantedStep w) false

def NotifierPhase.announcing : NotifierPhase → Option WalletInstanceId
  | .available w _ _ => some w
  | _ => none

/-- What the notifier knows of the wallets is what the log says. -/
structure Notices (h : Host) : Prop where
  entry : ∀ (w : WalletInstanceId) (entry : WalletWatchState), h.state.wallets.find w = some entry →
    entry.lastAvailableNotified = outstanding w h.log
  absent : ∀ w : WalletInstanceId, h.state.wallets.find w = none → outstanding w h.log = false ∧
    wanted w h.log = false
  announcing : ∀ w, h.notifier.announcing = some w →
    wanted w h.log = true ∧ outstanding w h.log = false ∧ h.state.wallets.find w ≠ none
  owed : ∀ w, wanted w h.log = true →
    outstanding w h.log = true ∨ h.notifier.announcing = some w ∨ ¬ (Outgoing.requestAvailable w).Fits
  justified : ∀ a b w, h.log = a ++ .wrote (.requestAvailable w) :: b →
    wanted w a = true ∧ outstanding w a = false

section Notices

variable {client : LocalDaemonClient} {order : ByteOrder} {h h' : Host} {w : WalletInstanceId}
  {log : List LogEntry} {e : LogEntry}

@[simp] theorem outstanding_snoc :
    outstanding w (log ++ [e]) = outstandingStep w (outstanding w log) e := by
  simp [outstanding, List.foldl_append]

@[simp] theorem wanted_snoc : wanted w (log ++ [e]) = wantedStep w (wanted w log) e := by
  simp [wanted, List.foldl_append]

/-- Entries that are not about notices. -/
def LogEntry.Neutral (e : LogEntry) : Prop :=
  ∀ w b, outstandingStep w b e = b ∧ wantedStep w b e = b

theorem neutral_response (r : NativeBridgeResponse) : (LogEntry.wrote (.response r)).Neutral :=
  fun _ _ => ⟨rfl, rfl⟩

theorem neutral_cancelled (id : RequestId) (w : WalletInstanceId) :
    (LogEntry.wrote (.requestCancelled id w)).Neutral := fun _ _ => ⟨rfl, rfl⟩

theorem justified_snoc
    (hj : ∀ a b w, log = a ++ .wrote (.requestAvailable w) :: b → wanted w a = true ∧
      outstanding w a = false)
    (he : ∀ w, e = .wrote (.requestAvailable w) → wanted w log = true ∧ outstanding w log = false) :
    ∀ a b w, log ++ [e] = a ++ .wrote (.requestAvailable w) :: b →
      wanted w a = true ∧ outstanding w a = false := by
  intro a b w heq
  rcases List.eq_nil_or_concat b with rfl | ⟨b', e', rfl⟩
  · obtain ⟨rfl, hlast⟩ := List.append_inj' heq rfl
    exact he w (List.singleton_inj.mp hlast)
  · rw [List.concat_eq_append, ← List.cons_append, ← List.append_assoc] at heq
    exact hj a b' w (List.append_inj' heq rfl).1

/-- Turns that have nothing to do with the wallets. -/
theorem Notices.same (hn : Notices h) (hwallets : h'.state.wallets = h.state.wallets)
    (hlog : h'.log = h.log) (hann : h'.notifier.announcing = h.notifier.announcing) : Notices h' := by
  constructor
  · rw [hwallets, hlog]
    exact hn.entry
  · rw [hwallets, hlog]
    exact hn.absent
  · rw [hwallets, hlog, hann]
    exact hn.announcing
  · rw [hlog, hann]
    exact hn.owed
  · rw [hlog]
    exact hn.justified

theorem Notices.neutral (hn : Notices h) (he : e.Neutral) (hwallets : h'.state.wallets = h.state.wallets)
    (hlog : h'.log = h.log ++ [e]) (hann : h'.notifier.announcing = h.notifier.announcing) :
      Notices h' := by
  have hsame : ∀ w, outstanding w h'.log = outstanding w h.log ∧ wanted w h'.log = wanted w h.log := by
    intro w
    rw [hlog, outstanding_snoc, wanted_snoc]
    exact ⟨(he w _).1, (he w _).2⟩
  constructor
  · intro w entry hentry
    rw [(hsame w).1]
    exact hn.entry w entry (hwallets ▸ hentry)
  · intro w hentry
    rw [(hsame w).1, (hsame w).2]
    exact hn.absent w (hwallets ▸ hentry)
  · intro w hw
    rw [(hsame w).1, (hsame w).2, hwallets]
    exact hn.announcing w (hann ▸ hw)
  · intro w hw
    rw [(hsame w).1, hann]
    exact hn.owed w ((hsame w).2 ▸ hw)
  · rw [hlog]
    refine justified_snoc hn.justified fun w hw => ?_
    -- a notice would not be neutral
    have hstep := (he w false).1
    rw [hw] at hstep
    simp [outstandingStep] at hstep

theorem find_ensureWallet (state : NotificationState) (w w' : WalletInstanceId) :
    (state.ensureWallet w').wallets.find w =
      if w = w' ∧ state.wallets.find w = none then some ⟨w, false⟩ else state.wallets.find w := by
  unfold NotificationState.ensureWallet
  cases hins : state.wallets.insert ⟨w', false⟩ with
  | none =>
    have hsome : state.wallets.find w' ≠ none := fun hnone => by
      rw [← Option.isNone_iff_eq_none] at hins
      have hboth := Table.insert_isSome.mpr
        (show state.wallets.find (WalletWatchState.walletInstanceId ⟨w', false⟩) = none from hnone)
      rw [Option.isSome_iff_ne_none] at hboth
      exact hboth (Option.isNone_iff_eq_none.mp hins)
    rw [if_neg]
    · rfl
    · rintro ⟨rfl, hnone⟩
      exact hsome hnone
  | some t =>
    have hnone := (Table.insert_eq_some hins).1
    change t.find w = _
    rw [Table.find_insert hins w]
    by_cases hw : w = w'
    · subst hw
      rw [if_pos rfl, if_pos ⟨rfl, hnone⟩]
    · rw [if_neg hw, if_neg fun h => hw h.1]

theorem find_setNotified (state : NotificationState) (w w' : WalletInstanceId) (b : Bool) :
    (state.setNotified w' b).wallets.find w =
      if w = w' then (state.wallets.find w).map fun _ => ⟨w', b⟩ else state.wallets.find w :=
  Table.find_update _ _ _

/-- Watching a wallet adds it without a notice, and a pull takes back the notice of its wallet. -/
theorem find_observe (state : NotificationState) (request : NativeBridgeRequest)
    (response : NativeBridgeResponse) (w : WalletInstanceId) :
    ((state.observe request response).wallets.find w = state.wallets.find w ∨
        (state.wallets.find w = none ∧
          (state.observe request response).wallets.find w = some ⟨w, false⟩)) ∧
        (∀ b, outstandingStep w b (.observed request response) = b ∧
          wantedStep w b (.observed request response) = b) ∨
      (state.observe request response).wallets.find w = some ⟨w, false⟩ ∧
        ∀ b, outstandingStep w b (.observed request response) = false ∧
          wantedStep w b (.observed request response) = false := by
  have hensure : ∀ w', (state.ensureWallet w').wallets.find w = state.wallets.find w ∨
      (state.wallets.find w = none ∧ (state.ensureWallet w').wallets.find w = some ⟨w, false⟩) := by
    intro w'
    rw [find_ensureWallet]
    split_ifs with hw
    · exact .inr ⟨hw.2, rfl⟩
    · exact .inl rfl
  cases request with
  | extensionRegister messageId version params =>
    refine .inl ⟨?_, fun b => ⟨rfl, rfl⟩⟩
    unfold NotificationState.observe
    dsimp only
    split
    · exact hensure _
    · exact .inl rfl
  | extensionHeartbeat messageId params => exact .inl ⟨hensure _, fun b => ⟨rfl, rfl⟩⟩
  | extensionUpdateAccounts messageId params => exact .inl ⟨hensure _, fun b => ⟨rfl, rfl⟩⟩
  | requestPullNext messageId w' =>
    have hfind : (state.observe (.requestPullNext messageId w') response).wallets.find w =
        ((state.ensureWallet w').setNotified w' false).wallets.find w := by
      unfold NotificationState.observe
      dsimp only
      split <;> rfl
    rw [hfind, find_setNotified]
    by_cases hw : w = w'
    · subst hw
      refine .inr ⟨?_, fun b => by simp [outstandingStep, wantedStep]⟩
      rw [if_pos rfl, find_ensureWallet]
      cases hold : state.wallets.find w with
      | none => simp
      | some entry => simp
    · refine .inl ⟨?_, fun b => ?_⟩
      · rw [if_neg hw]
        exact hensure w'
      · simp [outstandingStep, wantedStep, Ne.symm hw]
  | requestPresented messageId params =>
    refine .inl ⟨.inl ?_, fun b => ⟨rfl, rfl⟩⟩
    unfold NotificationState.observe
    dsimp only
    split <;> rfl
  | requestResolve messageId params =>
    refine .inl ⟨.inl ?_, fun b => ⟨rfl, rfl⟩⟩
    unfold NotificationState.observe
    dsimp only
    split <;> rfl
  | requestReject messageId params =>
    refine .inl ⟨.inl ?_, fun b => ⟨rfl, rfl⟩⟩
    unfold NotificationState.observe
    dsimp only
    split <;> rfl

theorem announcing_none (hheld : h.notifier.holdsState = false) : h.notifier.announcing = none := by
  unfold NotifierPhase.announcing
  split
  next hnow =>
    rw [hnow] at hheld
    cases hheld
  next => rfl

theorem Notices.observe (hn : Notices h) {request : NativeBridgeRequest} {response : NativeBridgeResponse}
    (hfree : h.notifier.announcing = none) (hstate : h'.state = h.state.observe request response)
    (hlog : h'.log = h.log ++ [.observed request response])
    (hann : h'.notifier.announcing = h.notifier.announcing) : Notices h' := by
  constructor
  · intro w entry hentry
    rw [hstate] at hentry
    rw [hlog, outstanding_snoc]
    -- a message that touches the record of `w` clears its mark, or makes it known
    rcases find_observe h.state request response w with ⟨hfind | ⟨hnone, hnew⟩, hlogs⟩ | ⟨hnew, hlogs⟩
    · rw [(hlogs _).1]
      exact hn.entry w entry (hfind ▸ hentry)
    · rw [(hlogs _).1, (hn.absent w hnone).1]
      rw [hnew] at hentry
      cases hentry
      rfl
    · rw [(hlogs (outstanding w h.log)).1]
      rw [hnew] at hentry
      cases hentry
      rfl
  · intro w hnone
    rw [hstate] at hnone
    rw [hlog, outstanding_snoc, wanted_snoc]
    rcases find_observe h.state request response w with ⟨hfind | ⟨hold, hnew⟩, hlogs⟩ | ⟨hnew, hlogs⟩
    · rw [(hlogs _).1, (hlogs _).2]
      exact hn.absent w (hfind ▸ hnone)
    · rw [hnew] at hnone
      cases hnone
    · rw [hnew] at hnone
      cases hnone
  · intro w hw
    rw [hann, hfree] at hw
    cases hw
  · intro w hw
    rw [hlog, wanted_snoc] at hw
    rw [hlog, outstanding_snoc, hann]
    rcases find_observe h.state request response w with ⟨-, hlogs⟩ | ⟨-, hlogs⟩
    · rw [(hlogs _).2] at hw
      rw [(hlogs _).1]
      exact hn.owed w hw
    · rw [(hlogs (wanted w h.log)).2] at hw
      cases hw
  · rw [hlog]
    exact justified_snoc hn.justified fun w hw => by cases hw

/-- The notifier takes note of a poll. -/
theorem Notices.polled (hn : Notices h) {result : RequestHasAvailableResult} {entry : WalletWatchState}
    (hentry : h.state.wallets.find result.walletInstanceId = some entry)
    (hfree : h.notifier.announcing = none) (hlog : h'.log = h.log ++ [.polled result])
    (hwallets : ∀ w, h'.state.wallets.find w =
      if w = result.walletInstanceId ∧ result.available = false
        then (h.state.wallets.find w).map fun _ => ⟨w, false⟩ else h.state.wallets.find w)
    (hann : h'.notifier.announcing =
      if result.available = true ∧ entry.lastAvailableNotified = false
        then some result.walletInstanceId else none) : Notices h' := by
  have hnotified := hn.entry _ _ hentry
  constructor
  · intro w entry' hfind
    rw [hwallets] at hfind
    rw [hlog, outstanding_snoc]
    by_cases hw : w = result.walletInstanceId ∧ result.available = false
    · rw [if_pos hw] at hfind
      obtain ⟨entry₀, -, rfl⟩ := Option.map_eq_some_iff.mp hfind
      simp [outstandingStep, hw.1, hw.2]
    · rw [if_neg hw] at hfind
      rw [hn.entry w entry' hfind]
      exact (if_neg fun hr => hw ⟨hr.1.symm, hr.2⟩).symm
  · intro w hnone
    have hold : h.state.wallets.find w = none := by
      rw [hwallets] at hnone
      split_ifs at hnone with hw
      · simpa using hnone
      · exact hnone
    have hne : result.walletInstanceId ≠ w := by
      rintro rfl
      rw [hentry] at hold
      cases hold
    rw [hlog, outstanding_snoc, wanted_snoc]
    simpa [outstandingStep, wantedStep, hne] using hn.absent w hold
  · intro w hw
    rw [hann] at hw
    split_ifs at hw with hfresh
    obtain rfl := Option.some.inj hw
    rw [hlog, outstanding_snoc, wanted_snoc, hwallets]
    rw [hfresh.2] at hnotified
    simp [outstandingStep, wantedStep, hfresh.1, ← hnotified, hentry]
  · intro w hw
    rw [hlog, wanted_snoc] at hw
    rw [hlog, outstanding_snoc, hann]
    by_cases hr : result.walletInstanceId = w
    · subst hr
      have havailable : result.available = true := by simpa [wantedStep] using hw
      cases hfresh : entry.lastAvailableNotified with
      -- no notice stands, so one is about to be written
      | false => simp [havailable]
      | true =>
        rw [hfresh] at hnotified
        simp [outstandingStep, havailable, ← hnotified]
    · have hold : wanted w h.log = true := by simpa [wantedStep, hr] using hw
      rcases hn.owed w hold with hstanding | hphase | hlong
      · simp [outstandingStep, hr, hstanding]
      · rw [hfree] at hphase
        cases hphase
      · exact .inr (.inr hlong)
  · rw [hlog]
    exact justified_snoc hn.justified fun w hw => by cases hw

/-- The notice is out, and the wallet is marked. -/
theorem Notices.announced (hn : Notices h) (hnow : h.notifier.announcing = some w)
    (hlog : h'.log = h.log ++ [.wrote (.requestAvailable w)])
    (hstate : h'.state = h.state.setNotified w true) (hann : h'.notifier.announcing = none) :
    Notices h' := by
  obtain ⟨hwanted, hfresh, hknown⟩ := hn.announcing w hnow
  constructor
  · intro w' entry hfind
    rw [hstate, find_setNotified] at hfind
    rw [hlog, outstanding_snoc]
    by_cases hw : w' = w
    · subst hw
      rw [if_pos rfl] at hfind
      obtain ⟨entry₀, -, rfl⟩ := Option.map_eq_some_iff.mp hfind
      simp [outstandingStep]
    · rw [if_neg hw] at hfind
      simpa [outstandingStep, Ne.symm hw] using hn.entry w' entry hfind
  · intro w' hnone
    rw [hstate, find_setNotified] at hnone
    by_cases hw : w' = w
    · subst hw
      rw [if_pos rfl] at hnone
      exact absurd (Option.map_eq_none_iff.mp hnone) hknown
    · rw [if_neg hw] at hnone
      rw [hlog, outstanding_snoc, wanted_snoc]
      simpa [outstandingStep, wantedStep, Ne.symm hw] using hn.absent w' hnone
  · intro w' hw
    rw [hann] at hw
    cases hw
  · intro w' hw
    rw [hlog, wanted_snoc] at hw
    rw [hlog, outstanding_snoc]
    by_cases hww : w = w'
    · exact .inl (by simp [outstandingStep, hww])
    · rcases hn.owed w' hw with hstanding | hphase | hlong
      · exact .inl (by simp [outstandingStep, hww, hstanding])
      · exact absurd (Option.some.inj (hnow.symm.trans hphase)) hww
      · exact .inr (.inr hlong)
  · rw [hlog]
    refine justified_snoc hn.justified fun w' hw => ?_
    cases hw
    exact ⟨hwanted, hfresh⟩

theorem announcing_settle {id : RequestId} {w : WalletInstanceId} {status : RequestStatus}
    {rest : List (RequestId × WalletInstanceId)} : (Host.settle id w status rest).announcing = none := by
  unfold Host.settle
  split_ifs <;> rfl

theorem Notices.moves (hn : Notices h) (hx : Exclusive h) (hm : Moves client order h h') : Notices h' := by
  cases hm with
  | stay => exact hn
  | observe hmain =>
    -- the notifier keeps the state while it announces, so no pull comes between poll and notice
    have hfree := hx.state (by rw [hmain]; rfl)
    exact hn.observe (announcing_none hfree) rfl rfl rfl
  | writePayload hmain => exact hn.neutral (neutral_response _) rfl rfl rfl
  | cancelledPayload hnow =>
    exact hn.neutral (neutral_cancelled _ _) rfl rfl (by rw [hnow]; rfl)
  | availablePayload hnow => exact hn.announced (by rw [hnow]; rfl) rfl rfl rfl
  | mark hnow hentry havailable hfresh =>
    refine hn.polled hentry (by rw [hnow]; rfl) rfl (fun w => ?_) ?_
    · simp [havailable]
    · simp [havailable, hfresh, NotifierPhase.announcing]
  | @clear result rest entry hnow hentry havailable =>
    refine hn.polled hentry (by rw [hnow]; rfl) rfl (fun w => ?_) ?_
    · rw [find_setNotified]
      by_cases hw : w = result.walletInstanceId
      · subst hw
        rw [if_pos rfl, if_pos ⟨rfl, havailable⟩]
      · rw [if_neg hw, if_neg fun h => hw h.1]
    · simp [havailable, NotifierPhase.announcing]
  | unchanged hnow hentry havailable hnotified =>
    refine hn.polled hentry (by rw [hnow]; rfl) rfl (fun w => ?_) ?_
    · simp [havailable]
    · simp [hnotified, NotifierPhase.announcing]
  | availableTooLong hnow hlong =>
    refine ⟨hn.entry, hn.absent, fun w hw => ?_, fun w hw => ?_, hn.justified⟩
    · cases hw
    -- nothing was written, and the length excuses it
    rcases hn.owed w hw with hstanding | hphase | hlong'
    · exact .inl hstanding
    · rw [hnow] at hphase
      obtain rfl := Option.some.inj hphase
      exact .inr (.inr hlong)
    · exact .inr (.inr hlong')
  | polledRequest hnow hr => exact hn.same rfl rfl (by rw [announcing_settle, hnow]; rfl)
  | daemon | handled | endOfInput | ended | lockState | lockWriter
    | writeLength =>
      exact hn.same rfl rfl rfl
        | stopped hnow | listWallets hnow | wallets hnow | walletsDone hnow | polledWallet hnow
    | walletFailed hnow
  | lockMark hnow | unknown hnow | lockAvailable hnow | availableLength hnow | listRequests hnow
  | requests hnow | requestsDone hnow | requestFailed hnow | lockCancelled hnow | cancelledLength hnow
  | cancelledTooLong hnow | lockTerminal hnow | remove hnow => exact hn.same rfl rfl (by rw [hnow]; rfl)

end Notices

/-! ## Notices of cancelled requests -/

/-- The request was cancelled; it stays so. -/
def Cancelled (s : Store) (id : RequestId) : Prop :=
  ∃ r, s.getRequest id = some r ∧ r.status = .cancelled

/-- The extension was shown the request since the last notice about it. -/
def armedStep (id : RequestId) (armed : Bool) : LogEntry → Bool
  | .observed request response =>
    if (NotificationState.tracked request response).map Prod.fst = some id then true else armed
  | .wrote (.requestCancelled id' _) => if id' = id then false else armed
  | _ => armed

def armed (id : RequestId) (log : List LogEntry) : Bool := log.foldl (armedStep id) false

/-- At some time the request was shown in the name of the wallet. -/
def ShownTo (entry : RequestId × WalletInstanceId) (log : List LogEntry) : Prop :=
  ∃ request response, .observed request response ∈ log ∧
    NotificationState.tracked request response = some entry

namespace NotifierPhase

/-- The requests of this round that have not been settled. -/
def left : NotifierPhase → List (RequestId × WalletInstanceId)
  | .requests rest => rest
  | .cancelled id w rest _ => (id, w) :: rest
  | .terminal _ rest => rest
  | .removing _ rest => rest
  | _ => []

/-- The request that was settled and is about to be forgotten. -/
def dropping : NotifierPhase → Option RequestId
  | .terminal id _ => some id
  | .removing id _ => some id
  | _ => none

/-- The request a notice is about. -/
def cancelling : NotifierPhase → Option RequestId
  | .cancelled id _ _ _ => some id
  | _ => none

end NotifierPhase

structure Cancels (h : Host) : Prop where
  wellFormed : h.store.WellFormed
  active : ∀ entry ∈ h.state.activeRequests.rows, ShownTo entry h.log ∧
    (armed entry.1 h.log = true ∨ h.notifier.dropping = some entry.1)
  left : ∀ entry ∈ h.notifier.left, ShownTo entry h.log ∧ armed entry.1 h.log = true
  distinct : (h.notifier.left.map Prod.fst).Nodup
  dropped : ∀ id, h.notifier.dropping = some id → id ∉ h.notifier.left.map Prod.fst
  cancelling : ∀ id, h.notifier.cancelling = some id → Cancelled h.store id
  noticed : ∀ id w, .wrote (.requestCancelled id w) ∈ h.log → Cancelled h.store id
  justified : ∀ a b id w, h.log = a ++ .wrote (.requestCancelled id w) :: b →
    ShownTo (id, w) a ∧ armed id a = true

section Cancels

variable {client : LocalDaemonClient} {order : ByteOrder} {h h' : Host} {id : RequestId}
  {s s' : Store} {log : List LogEntry} {e : LogEntry} {entry : RequestId × WalletInstanceId}

@[simp] theorem armed_snoc : armed id (log ++ [e]) = armedStep id (armed id log) e := by
  simp [armed, List.foldl_append]

theorem ShownTo.snoc (hs : ShownTo entry log) : ShownTo entry (log ++ [e]) := by
  obtain ⟨request, response, hmem, htracked⟩ := hs
  exact ⟨request, response, List.mem_append_left _ hmem, htracked⟩

/-- What the daemon does keeps the store in order and a cancelled request cancelled. -/
theorem daemon_step_cancelled (d : Daemon) (step : DaemonStep) (hs : s.WellFormed) :
    (d.step s step).WellFormed ∧ ∀ id, Cancelled s id → Cancelled (d.step s step) id := by
  have hcommand : ∀ (x : Step), (d.coordinator.step s x).WellFormed ∧
      ∀ id, Cancelled s id → Cancelled (d.coordinator.step s x) id := by
    intro x
    refine ⟨Coordinator.step_wellFormed x hs, ?_⟩
    rintro id ⟨r, hr, hstatus⟩
    obtain ⟨r', hr', hedit⟩ := Coordinator.step_request hs hr x
    refine ⟨r', hr', ?_⟩
    rcases hedit with rfl | hedit
    · exact hstatus
    · rcases hedit.status_edge with hsame | hedge
      · rw [hsame, hstatus]
      · rw [hstatus] at hedge
        cases r'.status <;> cases hedge
  cases step with
  | request env request =>
    rcases step_request d env s request with he | ⟨command, -, he⟩
    · rw [he]
      exact ⟨hs, fun _ h => h⟩
    · rw [he]
      exact hcommand _
  | tick env => exact hcommand _

theorem reaches_cancelled (hs : s.WellFormed) (hr : Reaches client s s') :
    s'.WellFormed ∧ ∀ id, Cancelled s id → Cancelled s' id := by
  rcases hr with rfl | ⟨step, rfl⟩
  · exact ⟨hs, fun _ h => h⟩
  · exact daemon_step_cancelled client.daemon step hs

/-- Turns that only change the store, or hand a lock over. -/
theorem Cancels.same (hc : Cancels h) (hstore : Reaches client h.store h'.store)
    (hactive : h'.state.activeRequests = h.state.activeRequests) (hlog : h'.log = h.log)
    (hleft : h'.notifier.left <:+ h.notifier.left) (hdropping : h'.notifier.dropping = h.notifier.dropping)
    (hcancelling : ∀ id, h'.notifier.cancelling = some id → Cancelled h'.store id) : Cancels h' := by
  obtain ⟨hwell, hkeeps⟩ := reaches_cancelled hc.wellFormed hstore
  have hmap : (h'.notifier.left.map Prod.fst).Sublist (h.notifier.left.map Prod.fst) :=
    hleft.sublist.map Prod.fst
  constructor
  · exact hwell
  · rw [hactive, hlog, hdropping]
    exact hc.active
  · intro entry hentry
    rw [hlog]
    exact hc.left entry (hleft.subset hentry)
  · exact hmap.nodup hc.distinct
  · intro id hid hmem
    exact hc.dropped id (hdropping ▸ hid) (hmap.subset hmem)
  · exact hcancelling
  · intro id w hmem
    exact hkeeps id (hc.noticed id w (hlog ▸ hmem))
  · rw [hlog]
    exact hc.justified

theorem justified_cancelled_snoc
    (hj : ∀ a b id w, log = a ++ .wrote (.requestCancelled id w) :: b → ShownTo (id, w) a ∧
      armed id a = true)
    (he : ∀ id w, e = .wrote (.requestCancelled id w) → ShownTo (id, w) log ∧ armed id log = true) :
    ∀ a b id w, log ++ [e] = a ++ .wrote (.requestCancelled id w) :: b →
      ShownTo (id, w) a ∧ armed id a = true := by
  intro a b id w heq
  rcases List.eq_nil_or_concat b with rfl | ⟨b', e', rfl⟩
  · obtain ⟨rfl, hlast⟩ := List.append_inj' heq rfl
    exact he id w (List.singleton_inj.mp hlast)
  · rw [List.concat_eq_append, ← List.cons_append, ← List.append_assoc] at heq
    exact hj a b' id w (List.append_inj' heq rfl).1

/-- An entry that is no notice, and takes nothing back. -/
theorem Cancels.logged (hc : Cancels h) (hstore : h'.store = h.store) (hlog : h'.log = h.log ++ [e])
    (he : ∀ id w, e ≠ .wrote (.requestCancelled id w))
    (hactive : ∀ entry ∈ h'.state.activeRequests.rows, entry ∈ h.state.activeRequests.rows ∨
      (∃ request response, e = .observed request response ∧
        NotificationState.tracked request response = some entry))
    (hleft : h'.notifier.left = h.notifier.left) (hdropping : h'.notifier.dropping = h.notifier.dropping)
    (hcancelling : h'.notifier.cancelling = h.notifier.cancelling) : Cancels h' := by
  have harmed : ∀ id, armed id h.log = true → armed id h'.log = true := by
    intro id hid
    rw [hlog, armed_snoc, hid]
    unfold armedStep
    split
    · split <;> rfl
    next id' w => exact absurd rfl (he id' w)
    · rfl
  constructor
  · rw [hstore]
    exact hc.wellFormed
  · intro entry hentry
    rcases hactive entry hentry with hold | ⟨request, response, rfl, htracked⟩
    · obtain ⟨hshown, hor⟩ := hc.active entry hold
      rw [hdropping, hlog]
      exact ⟨hshown.snoc, hor.imp_left fun ha => hlog ▸ harmed _ ha⟩
    · rw [hlog]
      refine ⟨⟨request, response, by simp, htracked⟩, .inl ?_⟩
      rw [armed_snoc]
      simp [armedStep, htracked]
  · intro entry hentry
    obtain ⟨hshown, ha⟩ := hc.left entry (hleft ▸ hentry)
    exact ⟨hlog ▸ hshown.snoc, harmed _ ha⟩
  · rw [hleft]
    exact hc.distinct
  · rw [hleft, hdropping]
    exact hc.dropped
  · rw [hcancelling, hstore]
    exact hc.cancelling
  · intro id w hmem
    rw [hlog] at hmem
    rcases List.mem_append.mp hmem with hold | hnew
    · rw [hstore]
      exact hc.noticed id w hold
    · exact absurd (List.mem_singleton.mp hnew).symm (he id w)
  · rw [hlog]
    exact justified_cancelled_snoc hc.justified fun id w hw => absurd hw (he id w)

theorem mem_observe {state : NotificationState} {request : NativeBridgeRequest}
    {response : NativeBridgeResponse} (h : entry ∈ (state.observe request response).activeRequests.rows) :
    entry ∈ state.activeRequests.rows ∨ NotificationState.tracked request response = some entry := by
  unfold NotificationState.observe at h
  cases request with
  | extensionRegister messageId version params =>
    dsimp only at h
    split at h <;> exact .inl h
  | extensionHeartbeat messageId params => exact .inl h
  | extensionUpdateAccounts messageId params => exact .inl h
  | requestPullNext | requestPresented =>
    dsimp only at h
    split at h
    next tracked htracked =>
      rcases Table.mem_upsert h with rfl | hold
      · exact .inr htracked
      · exact .inl hold
    next => exact .inl h
  | requestResolve | requestReject =>
    dsimp only at h
    split at h
    · exact .inl (List.mem_filter.mp h).1
    · exact .inl h

/-- The notice is out; the request is settled and will be forgotten. -/
theorem Cancels.announced (hc : Cancels h) {w : WalletInstanceId}
    {rest : List (RequestId × WalletInstanceId)}
    {stage : Stage} (hnow : h.notifier = .cancelled id w rest stage) (hstore : h'.store = h.store)
    (hactive : h'.state.activeRequests = h.state.activeRequests)
    (hlog : h'.log = h.log ++ [.wrote (.requestCancelled id w)]) (hnext : h'.notifier = .terminal id rest) :
    Cancels h' := by
  have hleft := hc.left
  have hdistinct := hc.distinct
  rw [hnow] at hleft hdistinct
  simp only [NotifierPhase.left, List.map_cons, List.nodup_cons] at hleft hdistinct
  have hother : ∀ id', id' ≠ id → armed id' h.log = true → armed id' h'.log = true := by
    intro id' hne ha
    rw [hlog, armed_snoc, ha]
    simp [armedStep, Ne.symm hne]
  constructor
  · rw [hstore]
    exact hc.wellFormed
  · intro entry hentry
    obtain ⟨hshown, hor⟩ := hc.active entry (hactive ▸ hentry)
    refine ⟨hlog ▸ hshown.snoc, ?_⟩
    by_cases hid : entry.1 = id
    -- its notice disarmed it, but the notifier is about to forget it
    · exact .inr (by rw [hnext, hid]; rfl)
    · rw [hnow] at hor
      exact .inl (hother _ hid (hor.resolve_right nofun))
  · intro entry hentry
    rw [hnext] at hentry
    obtain ⟨hshown, ha⟩ := hleft entry (List.mem_cons_of_mem _ hentry)
    refine ⟨hlog ▸ hshown.snoc, hother _ ?_ ha⟩
    intro heq
    exact hdistinct.1 (heq ▸ List.mem_map_of_mem hentry)
  · rw [hnext]
    exact hdistinct.2
  · intro id' hid'
    rw [hnext] at hid' ⊢
    obtain rfl := Option.some.inj hid'
    exact hdistinct.1
  · intro id' hid'
    rw [hnext] at hid'
    cases hid'
  · intro id' w' hmem
    rw [hstore]
    rw [hlog] at hmem
    rcases List.mem_append.mp hmem with hold | hnew
    · exact hc.noticed id' w' hold
    · cases List.mem_singleton.mp hnew
      exact hc.cancelling id (by rw [hnow]; rfl)
  · rw [hlog]
    refine justified_cancelled_snoc hc.justified fun id' w' hw => ?_
    cases hw
    exact hleft (id, w) (List.mem_cons_self ..)

/-- A settled request leaves the round. -/
theorem Cancels.settled (hc : Cancels h) (entry : RequestId × WalletInstanceId)
    {rest : List (RequestId × WalletInstanceId)}
    (hleft : h.notifier.left = entry :: rest) (hdropping : h.notifier.dropping = none) :
    Cancels { h with notifier := .terminal entry.1 rest } := by
  have hdistinct := hc.distinct
  rw [hleft, List.map_cons, List.nodup_cons] at hdistinct
  constructor
  · exact hc.wellFormed
  · intro entry' hentry
    obtain ⟨hshown, hor⟩ := hc.active entry' hentry
    rw [hdropping] at hor
    exact ⟨hshown, .inl (hor.resolve_right nofun)⟩
  · intro entry' hentry
    exact hc.left entry' (hleft ▸ List.mem_cons_of_mem _ hentry)
  · exact hdistinct.2
  · intro id hid
    obtain rfl := Option.some.inj hid
    exact hdistinct.1
  · intro id hid
    cases hid
  · exact hc.noticed
  · exact hc.justified

theorem Cancels.listed (hc : Cancels h) (hdropping : h.notifier.dropping = none) :
    Cancels { h with notifier := .requests h.state.watchedRequests } := by
  have hperm : h.state.watchedRequests.Perm h.state.activeRequests.rows := List.perm_insertionSort _ _
  constructor
  · exact hc.wellFormed
  · intro entry hentry
    obtain ⟨hshown, hor⟩ := hc.active entry hentry
    rw [hdropping] at hor
    exact ⟨hshown, .inl (hor.resolve_right nofun)⟩
  · intro entry hentry
    obtain ⟨hshown, hor⟩ := hc.active entry (hperm.mem_iff.mp hentry)
    rw [hdropping] at hor
    exact ⟨hshown, hor.resolve_right nofun⟩
  · exact (hperm.map Prod.fst).nodup_iff.mpr h.state.activeRequests.nodup
  · intro id hid
    cases hid
  · intro id hid
    cases hid
  · exact hc.noticed
  · exact hc.justified

theorem Cancels.forgotten (hc : Cancels h) {rest : List (RequestId × WalletInstanceId)}
    (hnow : h.notifier = .removing id rest) :
    Cancels { h with state := h.state.untrack id, notifier := .requests rest } := by
  have hleft := hc.left
  have hdistinct := hc.distinct
  rw [hnow] at hleft hdistinct
  constructor
  · exact hc.wellFormed
  · intro entry hentry
    obtain ⟨hold, hne⟩ := List.mem_filter.mp hentry
    obtain ⟨hshown, hor⟩ := hc.active entry hold
    refine ⟨hshown, .inl (hor.resolve_right fun hdropped => ?_)⟩
    rw [hnow] at hdropped
    simp [Option.some.inj hdropped] at hne
  · exact hleft
  · exact hdistinct
  · intro id hid
    cases hid
  · intro id hid
    cases hid
  · exact hc.noticed
  · exact hc.justified

/-- Turns after which no request is at hand that was not before. -/
theorem Cancels.quiet (hc : Cancels h) (hstore : Reaches client h.store h'.store)
    (hactive : h'.state.activeRequests = h.state.activeRequests) (hlog : h'.log = h.log)
    (hleft : h'.notifier.left <:+ h.notifier.left) (hdropping : h'.notifier.dropping = h.notifier.dropping)
    (hcancelling : h'.notifier.cancelling = h.notifier.cancelling ∨ h'.notifier.cancelling = none) :
    Cancels h' := by
  refine hc.same hstore hactive hlog hleft hdropping fun id hid => ?_
  rcases hcancelling with hsame | hnone
  · exact (reaches_cancelled hc.wellFormed hstore).2 id (hc.cancelling id (hsame ▸ hid))
  · rw [hnone] at hid
    cases hid

theorem Cancels.moves (hc : Cancels h) (hm : Moves client order h h') : Cancels h' := by
  cases hm with
  | stay => exact hc
  | daemon step => exact hc.quiet (.inr ⟨step, rfl⟩) rfl rfl (List.suffix_refl _) rfl (.inl rfl)
  | handled hmain hstore => exact hc.quiet hstore rfl rfl (List.suffix_refl _) rfl (.inl rfl)
  | endOfInput | ended | lockState | lockWriter | writeLength =>
    exact hc.quiet (reaches_self client h.store) rfl rfl (List.suffix_refl _) rfl (.inl rfl)
  | observe hmain =>
    refine hc.logged rfl rfl (fun id w hw => by cases hw) (fun entry hentry => ?_) rfl rfl rfl
    exact (mem_observe hentry).imp_right fun htracked => ⟨_, _, rfl, htracked⟩
  | writePayload hmain =>
    exact hc.logged rfl rfl (fun id w hw => by cases hw) (fun entry hentry => .inl hentry) rfl rfl rfl
  | mark hnow | unchanged hnow | clear hnow | availablePayload hnow =>
    exact hc.logged rfl rfl (fun id w hw => by cases hw) (fun entry hentry => .inl hentry)
      (by rw [hnow]; rfl) (by rw [hnow]; rfl) (by rw [hnow]; rfl)
  | polledWallet hnow hstore | walletFailed hnow hstore =>
    exact hc.quiet hstore rfl rfl (by rw [hnow]; exact List.suffix_refl _) (by rw [hnow]; rfl) (.inr rfl)
  | stopped hnow | listWallets hnow | wallets hnow | walletsDone hnow | lockMark hnow | unknown hnow
  | lockAvailable hnow | availableLength hnow | availableTooLong hnow | listRequests hnow
  | requestsDone hnow | lockTerminal hnow =>
    exact hc.quiet (reaches_self client h.store) rfl rfl (by rw [hnow]; exact List.suffix_refl _)
      (by rw [hnow]; rfl) (.inr rfl)
  | lockCancelled hnow | cancelledLength hnow =>
    exact hc.quiet (reaches_self client h.store) rfl rfl (by rw [hnow]; exact List.suffix_refl _)
      (by rw [hnow]; rfl) (.inl (by rw [hnow]; rfl))
  | requests hnow => exact hc.listed (by rw [hnow]; rfl)
  | requestFailed hnow hstore =>
    exact hc.quiet hstore rfl rfl (by rw [hnow]; exact List.suffix_cons _ _) (by rw [hnow]; rfl) (.inr rfl)
  | @polledRequest id w rest r hnow hr =>
    unfold Host.settle
    split_ifs with hcancelled hterminal
    -- a cancelled request stays at hand until its notice is out
    · refine hc.same (reaches_self client h.store) rfl rfl (by rw [hnow]; exact List.suffix_refl _)
        (by rw [hnow]; rfl) fun id' hid' => ?_
      obtain rfl := Option.some.inj hid'
      exact ⟨r, hr, hcancelled⟩
    · exact hc.settled (id, w) (by rw [hnow]; rfl) (by rw [hnow]; rfl)
    · exact hc.quiet (reaches_self client h.store) rfl rfl (by rw [hnow]; exact List.suffix_cons _ _)
        (by rw [hnow]; rfl) (.inr rfl)
  | @cancelledTooLong id w rest hnow =>
    exact hc.settled (id, w) (by rw [hnow]; rfl) (by rw [hnow]; rfl)
  | cancelledPayload hnow => exact hc.announced hnow rfl rfl rfl rfl
  | remove hnow => exact hc.forgotten hnow

theorem cancels_run (client : LocalDaemonClient) (order : ByteOrder) (before : List DaemonStep)
    (events : List HostEvent) : Cancels (Host.run client order (client.daemon.run before) events) := by
  refine run_invariant Cancels (fun _ _ hc hm => hc.moves hm) ?_ events
  constructor
  · exact daemon_run_wellFormed client.daemon before
  · intro entry hentry
    cases hentry
  · intro entry hentry
    cases hentry
  · exact List.nodup_nil
  · intro id hid
    cases hid
  · intro id hid
    cases hid
  · intro id w hmem
    cases hmem
  · intro a b id w hlog
    cases a <;> cases hlog

end Cancels

/-! ## The notices of a run -/

/-- Only a new showing arms a request again. -/
theorem exists_shown_of_armed {id : RequestId} {log : List LogEntry} : ∀ {later : List LogEntry},
    armed id log = false → armed id (log ++ later) = true →
      ∃ request response w, .observed request response ∈ later ∧
        NotificationState.tracked request response = some (id, w) := by
  intro later hbefore
  -- from the end of the log: either it was armed before the last entry, or that entry armed it
  induction later using List.reverseRecOn with
  | nil =>
    intro hafter
    rw [List.append_nil, hbefore] at hafter
    cases hafter
  | append_singleton later e ih =>
    intro hafter
    rw [← List.append_assoc, armed_snoc] at hafter
    cases hearlier : armed id (log ++ later) with
    | true =>
      obtain ⟨request, response, w, hmem, htracked⟩ := ih hearlier
      exact ⟨request, response, w, List.mem_append_left _ hmem, htracked⟩
    | false =>
      rw [hearlier] at hafter
      unfold armedStep at hafter
      split at hafter
      next request response =>
        split_ifs at hafter with hshown
        obtain ⟨⟨id', w⟩, htracked, rfl⟩ := Option.map_eq_some_iff.mp hshown
        exact ⟨request, response, w, by simp, htracked⟩
      next =>
        split_ifs at hafter
      next => cases hafter

/-- Every request reported as cancelled is cancelled, and stays so; it was shown in the name of the
wallet that is told; and between two reports of one request it was shown again. -/
theorem cancelled_notices (client : LocalDaemonClient) (order : ByteOrder) (before : List DaemonStep)
    (events : List HostEvent) :
    (∀ id w, .wrote (.requestCancelled id w) ∈
        (Host.run client order (client.daemon.run before) events).log →
      Cancelled (Host.run client order (client.daemon.run before) events).store id) ∧
    (∀ a b id w, (Host.run client order (client.daemon.run before) events).log =
        a ++ .wrote (.requestCancelled id w) :: b → ShownTo (id, w) a) ∧
    ∀ a b c id w w', (Host.run client order (client.daemon.run before) events).log =
        a ++ .wrote (.requestCancelled id w) :: (b ++ .wrote (.requestCancelled id w') :: c) →
      ∃ request response w'', .observed request response ∈ b ∧
        NotificationState.tracked request response = some (id, w'') := by
  have hcancels := cancels_run client order before events
  refine ⟨hcancels.noticed, fun a b id w hlog => (hcancels.justified a b id w hlog).1, ?_⟩
  intro a b c id w w' hlog
  have hagain := (hcancels.justified (a ++ .wrote (.requestCancelled id w) :: b) c id w'
    (by rw [hlog, List.append_assoc, List.cons_append])).2
  have hsplit : a ++ .wrote (.requestCancelled id w) :: b =
      (a ++ [.wrote (.requestCancelled id w)]) ++ b := by simp
  rw [hsplit] at hagain
  refine exists_shown_of_armed ?_ hagain
  rw [armed_snoc]
  simp [armedStep]

end StarcoinMcp.NativeHost
