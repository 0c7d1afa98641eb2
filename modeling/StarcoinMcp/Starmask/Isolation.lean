import StarcoinMcp.Starmask.Atomicity
import StarcoinMcp.Starmask.Availability
import StarcoinMcp.Starmask.Fencing

/-! One wallet among many. All requests live in one table, and each method filters it by
hand. A command issued in the name of a wallet changes nothing that belongs to another one,
and its answer and effect on the wallet's own rows depend on those rows only. -/

namespace StarcoinMcp.Starmask

open Coordinator FailState

/-! ## The rows of some wallets -/

/-- The wallets in `p` have the same instance row, the same account rows and the same requests in
the two stores. -/
structure AgreeOn (p : WalletInstanceId → Prop) (s s' : Store) : Prop where
  requests : ∀ id r, p r.walletInstanceId → (s.getRequest id = some r ↔ s'.getRequest id = some r)
  instances : ∀ w, p w → s.getWalletInstance w = s'.getWalletInstance w
  accounts : ∀ w address, p w →
    s.walletAccounts.find (w, address) = s'.walletAccounts.find (w, address)

def LabelsAgreeOn (p : WalletInstanceId → Prop) (s s' : Store) : Prop :=
  ∀ w address, p w →
    s.walletAccountLabels.find (w, address) = s'.walletAccountLabels.find (w, address)

/-- Agreement that also covers the label rows when `labelled`. -/
def Alike (labelled : Prop) (p : WalletInstanceId → Prop) (s s' : Store) : Prop :=
  AgreeOn p s s' ∧ (labelled → LabelsAgreeOn p s s')

section Agreement

variable {p : WalletInstanceId → Prop} {labelled : Prop} {s s' s'' : Store}

theorem AgreeOn.refl (s : Store) : AgreeOn p s s := ⟨fun _ _ _ => Iff.rfl, fun _ _ => rfl, fun _ _ _ => rfl⟩

theorem AgreeOn.trans (h : AgreeOn p s s') (h' : AgreeOn p s' s'') : AgreeOn p s s'' where
  requests id r hp := (h.requests id r hp).trans (h'.requests id r hp)
  instances w hp := (h.instances w hp).trans (h'.instances w hp)
  accounts w address hp := (h.accounts w address hp).trans (h'.accounts w address hp)

theorem Alike.refl (s : Store) : Alike labelled p s s := ⟨.refl s, fun _ _ _ _ => rfl⟩

theorem Alike.trans (h : Alike labelled p s s') (h' : Alike labelled p s' s'') :
    Alike labelled p s s'' :=
  ⟨h.1.trans h'.1, fun hl w address hp => (h.2 hl w address hp).trans (h'.2 hl w address hp)⟩

theorem Alike.bind {α β : Type} {m : CoreM α} {f : α → CoreM β} (hm : Moves (Alike labelled p) m)
    (hf : ∀ a, Moves (Alike labelled p) (f a)) : Moves (Alike labelled p) (m >>= f) := by
  refine Moves.bind ?_ hm hf
  intro a b c h h'
  exact h.trans h'

theorem alike_of_sameWallets (hrequests : ∀ id r, p r.walletInstanceId →
    (s.getRequest id = some r ↔ s'.getRequest id = some r)) (hwallets : s.SameWallets s') :
    Alike labelled p s s' := by
  obtain ⟨hinstances, haccounts, hlabels⟩ := hwallets
  refine ⟨⟨hrequests, fun w _ => ?_, fun w address _ => ?_⟩, fun _ w address _ => ?_⟩
  · unfold Store.getWalletInstance
    rw [hinstances]
  · rw [haccounts]
  · rw [hlabels]

end Agreement

/-! ## Rows of other wallets -/

section Frame

variable {p : WalletInstanceId → Prop} {labelled : Prop} {s s' : Store} {w : WalletInstanceId}

theorem alike_upsertWalletInstance {row : WalletInstanceRecord} (hp : ¬ p row.walletInstanceId) :
    Alike labelled p s (s.upsertWalletInstance row) := by
  refine ⟨⟨fun _ _ _ => Iff.rfl, fun w' hw' => ?_, fun _ _ _ => rfl⟩, fun _ _ _ _ => rfl⟩
  have hne : w' ≠ row.walletInstanceId := fun he => hp (he ▸ hw')
  exact ((Table.find_upsert s.walletInstances row w').trans (if_neg hne)).symm

theorem alike_labelAccounts (hp : ¬ p w) {known : List String} {t : Int} :
    ∀ {accounts : List WalletAccountRecord} {n : Int} {s s' : Store},
      Store.labelAccounts w known t accounts n s = .ok s' → Alike labelled p s s'
  | [], n, s, s', h => by
    cases h
    exact .refl s
  | a :: accounts, n, s, s', h => by
    unfold Store.labelAccounts at h
    split_ifs at h with hknown
    · exact alike_labelAccounts hp h
    · obtain ⟨text, -, hrest⟩ := bind_eq_ok h
      have hone : Alike labelled p s (s.upsertWalletAccountLabel ⟨w, a.address, text, n, t⟩) := by
        refine ⟨⟨fun _ _ _ => Iff.rfl, fun _ _ => rfl, fun _ _ _ => rfl⟩, fun _ w' address hw' => ?_⟩
        have hne : (w', address) ≠ WalletAccountLabel.key ⟨w, a.address, text, n, t⟩ := by
          intro he
          have hw : w' = w := congrArg Prod.fst he
          exact hp (hw ▸ hw')
        exact ((Table.find_upsert s.walletAccountLabels _ _).trans (if_neg hne)).symm
      exact hone.trans (alike_labelAccounts hp hrest)

theorem alike_insertWalletAccounts (hp : ¬ p w) :
    ∀ {accounts : List WalletAccountRecord} {s s' : Store},
      (∀ a ∈ accounts, a.walletInstanceId = w) → Store.insertWalletAccounts accounts s = .ok s' →
      Alike labelled p s s'
  | [], s, s', _, h => by
    cases h
    exact .refl s
  | a :: accounts, s, s', hown, h => by
    unfold Store.insertWalletAccounts at h
    split at h
    · cases h
    · cases h
    · next walletAccounts _ hinsert =>
      have hone : Alike labelled p s { s with walletAccounts := walletAccounts } := by
        refine ⟨⟨fun _ _ _ => Iff.rfl, fun _ _ => rfl, fun w' address hw' => ?_⟩, fun _ _ _ _ => rfl⟩
        have hne : (w', address) ≠ a.key := by
          intro he
          have hw : w' = a.walletInstanceId := congrArg Prod.fst he
          rw [hw, hown a (List.mem_cons_self ..)] at hw'
          exact hp hw'
        exact ((Table.find_insert hinsert (w', address)).trans (if_neg hne)).symm
      exact hone.trans
        (alike_insertWalletAccounts hp (fun b hb => hown b (List.mem_cons_of_mem _ hb)) h)

theorem alike_replaceWalletAccounts (hp : ¬ p w) {accounts : List WalletAccountRecord} {t : Int}
    (hown : ∀ a ∈ accounts, a.walletInstanceId = w) (h : s.replaceWalletAccounts w accounts t = .ok s') :
    Alike labelled p s s' := by
  -- the rows of `w` go, those of the others stay
  have hdeleted : ∀ x : Store, Alike labelled p x { x with
      walletAccounts := x.walletAccounts.filter fun a => a.walletInstanceId ≠ w } := by
    intro x
    refine ⟨⟨fun _ _ _ => Iff.rfl, fun _ _ => rfl, fun w' address hw' => ?_⟩, fun _ _ _ _ => rfl⟩
    have hne : w' ≠ w := fun he => hp (he ▸ hw')
    exact (Table.find_filter fun a hkey => by
      have hwallet : a.walletInstanceId = w' := congrArg Prod.fst hkey
      simpa [hwallet] using hne).symm
  obtain ⟨isLocal, -, h₁⟩ := bind_eq_ok h
  cases isLocal with
  | true =>
    obtain ⟨labelled', hlabel, h₂⟩ := bind_eq_ok h₁
    exact ((alike_labelAccounts hp hlabel).trans (hdeleted labelled')).trans
      (alike_insertWalletAccounts hp hown h₂)
  | false => exact (hdeleted s).trans (alike_insertWalletAccounts hp hown h₁)

theorem moves_upsertWalletInstance {row : WalletInstanceRecord} (hp : ¬ p row.walletInstanceId) :
    Moves (Alike labelled p) (upsertWalletInstance row) := fun _ => alike_upsertWalletInstance hp

theorem moves_replaceWalletAccounts {env : Env} {accounts : List WalletAccountRecord} (hp : ¬ p w)
    (hown : ∀ a ∈ accounts, a.walletInstanceId = w) :
    Moves (Alike labelled p) (replaceWalletAccounts env w accounts) := by
  intro s
  cases hreplace : s.replaceWalletAccounts w accounts env.currentTimestampMs with
  | error e =>
    have hrun : replaceWalletAccounts env w accounts s = (.error (.repository e), s) :=
      storeCall_error (by rw [hreplace]; rfl)
    rw [hrun]
    exact .refl s
  | ok s' =>
    have hrun : replaceWalletAccounts env w accounts s = (.ok (), s') :=
      storeCall_ok (by rw [hreplace]; rfl)
    rw [hrun]
    exact alike_replaceWalletAccounts hp hown hreplace

/-- A rewriting that leaves the requests of the wallets in `p` alone. -/
theorem alike_of_rewritten {f : RequestRecord → RequestRecord} (h : Rewritten f s s')
    (hf : ∀ r ∈ s.requests.rows, p r.walletInstanceId → f r = r)
    (hwallet : ∀ r ∈ s.requests.rows, (f r).walletInstanceId = r.walletInstanceId) :
    Alike labelled p s s' := by
  refine alike_of_sameWallets (fun id r hp => ?_) h.wallets
  rw [h.requests]
  constructor
  · intro hr
    simp [hr, hf r (Store.mem_of_getRequest hr) hp]
  · intro hr
    obtain ⟨r₀, hr₀, he⟩ := Option.map_eq_some_iff.mp hr
    have hmem := Store.mem_of_getRequest hr₀
    have hp₀ : p r₀.walletInstanceId := by
      rw [← hwallet r₀ hmem, he]
      exact hp
    rw [hr₀, ← he, hf r₀ hmem hp₀]

end Frame

/-! ## Commands in the name of a wallet -/

/-- The command is issued in the name of `w`. The daemon stamps the accounts that come with such a
command with `w` (`bridge_account_to_wallet_account`); everything else in it is arbitrary. -/
inductive InNameOf (w : WalletInstanceId) : CoordinatorCommand → Prop
  | requestHasAvailable : InNameOf w (.requestHasAvailable w)
  | pullNextRequest : InNameOf w (.pullNextRequest w)
  | markRequestPresented {command : MarkRequestPresentedCommand} (hw : command.walletInstanceId = w) :
      InNameOf w (.markRequestPresented command)
  | resolveRequest {command : ResolveRequestCommand} (hw : command.walletInstanceId = w) :
      InNameOf w (.resolveRequest command)
  | rejectRequest {command : RejectRequestCommand} (hw : command.walletInstanceId = w) :
      InNameOf w (.rejectRequest command)
  | heartbeatExtension {command : HeartbeatExtensionCommand} (hw : command.walletInstanceId = w) :
      InNameOf w (.heartbeatExtension command)
  | heartbeatBackend {command : HeartbeatBackendCommand} (hw : command.walletInstanceId = w) :
      InNameOf w (.heartbeatBackend command)
  | registerExtension {command : RegisterExtensionCommand} (hw : command.walletInstanceId = w)
      (hown : ∀ a ∈ command.accounts, a.walletInstanceId = w) : InNameOf w (.registerExtension command)
  | registerBackend {command : RegisterBackendCommand} (hw : command.walletInstanceId = w)
      (hown : ∀ a ∈ command.accounts, a.walletInstanceId = w) : InNameOf w (.registerBackend command)
  | updateExtensionAccounts {command : UpdateExtensionAccountsCommand}
      (hw : command.walletInstanceId = w) (hown : ∀ a ∈ command.accounts, a.walletInstanceId = w) :
      InNameOf w (.updateExtensionAccounts command)
  | updateBackendAccounts {command : UpdateBackendAccountsCommand}
      (hw : command.walletInstanceId = w) (hown : ∀ a ∈ command.accounts, a.walletInstanceId = w) :
      InNameOf w (.updateBackendAccounts command)

section Methods

variable {c : Coordinator} {env : Env} {p : WalletInstanceId → Prop} {labelled : Prop} {s : Store}
  {w : WalletInstanceId}

theorem stampAccounts_own {now : TimestampMs} {accounts : List WalletAccountRecord}
    (h : ∀ a ∈ accounts, a.walletInstanceId = w) :
    ∀ a ∈ stampAccounts now accounts, a.walletInstanceId = w := by
  intro a ha
  obtain ⟨b, hb, rfl⟩ := List.mem_map.mp ha
  exact h b hb

theorem moves_registerBackend {command : RegisterBackendCommand} (hp : ¬ p command.walletInstanceId)
    (hown : ∀ a ∈ command.accounts, a.walletInstanceId = command.walletInstanceId) :
    Moves (Alike labelled p) (registerBackend env command) :=
  Alike.bind (fun s => .refl s) fun _ =>
    Alike.bind (moves_upsertWalletInstance hp) fun _ =>
      moves_replaceWalletAccounts hp (stampAccounts_own hown)

theorem alike_updateBackendAccounts {command : UpdateBackendAccountsCommand}
    (hp : ¬ p command.walletInstanceId)
    (hown : ∀ a ∈ command.accounts, a.walletInstanceId = command.walletInstanceId) :
    Alike labelled p s (updateBackendAccounts env command s).2 := by
  unfold updateBackendAccounts
  cases hwallet : requireWalletInstance command.walletInstanceId s with
  | error e =>
    rw [reading_error_bind hwallet]
    exact .refl s
  | ok wallet =>
    rw [reading_ok_bind hwallet]
    have hid : wallet.walletInstanceId = command.walletInstanceId :=
      Table.key_of_find (requireWalletInstance_some hwallet)
    refine Alike.bind (moves_upsertWalletInstance ?_) (fun _ =>
      moves_replaceWalletAccounts hp (stampAccounts_own hown)) s
    exact hid ▸ hp

theorem alike_heartbeatBackend {command : HeartbeatBackendCommand}
    (hp : ¬ p command.walletInstanceId) : Alike labelled p s (c.heartbeatBackend env command s).2 := by
  unfold heartbeatBackend
  cases hwallet : requireWalletInstance command.walletInstanceId s with
  | error e =>
    rw [reading_error_bind hwallet]
    exact .refl s
  | ok wallet =>
    rw [reading_ok_bind hwallet]
    have hid : wallet.walletInstanceId = command.walletInstanceId :=
      Table.key_of_find (requireWalletInstance_some hwallet)
    refine Alike.bind (moves_upsertWalletInstance ?_) (fun _ => ?_) s
    · exact hid ▸ hp
    split_ifs
    · exact fun s => .refl s
    refine Alike.bind (fun s => .refl s) fun t s => ?_
    obtain ⟨s', hloop, hrw⟩ := heartbeat_loop command.walletInstanceId (env.now 0) t
      command.presentedRequestIds s
    rw [hloop]
    refine alike_of_rewritten hrw (fun r _ hr => ?_) fun r _ => ?_
    · have hne : r.walletInstanceId ≠ command.walletInstanceId := fun he => hp (he ▸ hr)
      simp [RequestRecord.heartbeaten, hne]
    · split_ifs
      · exact heartbeaten_walletInstanceId
      · rfl

/-- One request of `w` is written back. -/
theorem alike_writeRequest (hp : ¬ p w) {id : RequestId} {r r' : RequestRecord}
    (hr : s.getRequest id = some r) (hw : r.walletInstanceId = w) (hidentity : r'.identity = r.identity) :
    Alike labelled p s (s.writeRequest r') := by
  have hself : ∀ x ∈ s.requests.rows, x.requestId = id → x = r := by
    intro x hx he
    rw [← he, Store.mem_requests_iff.mp hx] at hr
    exact Option.some.inj hr
  refine alike_of_rewritten (rewritten_writeRequest hr (requestId_of_identity hidentity)
    (clientRequestId_of_identity hidentity)) (fun x hx hpx => if_neg fun he => ?_) fun x hx => ?_
  · rw [hself x hx he, hw] at hpx
    exact hp hpx
  · split_ifs with he
    · rw [walletInstanceId_of_identity hidentity, hself x hx he]
    · rfl

theorem rewriteOwned_keepsIdentity {α : Type} {id : RequestId}
    {f : RequestRecord → CoreResult RequestRecord} {g : RequestRecord → α}
    (hf : ∀ r r', r.requestId = id → r.walletInstanceId = w → f r = .ok r' → r'.identity = r.identity) :
    (∃ e, rewriteOwned id w f g s = (.error e, s)) ∨
    ∃ r r', s.getRequest id = some r ∧ r.walletInstanceId = w ∧ f r = .ok r' ∧
      r'.identity = r.identity ∧ rewriteOwned id w f g s = (.ok (g r'), s.writeRequest r') := by
  have hids : ∀ r r', s.getRequest id = some r → r.walletInstanceId = w → f r = .ok r' →
      r'.requestId = r.requestId ∧ r'.clientRequestId = r.clientRequestId := by
    intro r r' hr hw hfr
    have hidentity := hf r r' (Store.getRequest_requestId hr) hw hfr
    exact ⟨requestId_of_identity hidentity, clientRequestId_of_identity hidentity⟩
  rcases rewriteOwned_cases (g := g) hids with hrefused | ⟨r, r', hr, hw, hfr, hrun, -⟩
  · exact .inl hrefused
  · exact .inr ⟨r, r', hr, hw, hfr, hf r r' (Store.getRequest_requestId hr) hw hfr, hrun⟩

theorem alike_rewriteOwned {α : Type} {id : RequestId} {f : RequestRecord → CoreResult RequestRecord}
    {g : RequestRecord → α} (hp : ¬ p w)
    (hf : ∀ r r', r.requestId = id → r.walletInstanceId = w → f r = .ok r' → r'.identity = r.identity) :
    Alike labelled p s (rewriteOwned id w f g s).2 := by
  rcases rewriteOwned_keepsIdentity (g := g) hf with ⟨e, hrun⟩ | ⟨r, r', hr, hw, -, hidentity, hrun⟩
  · rw [hrun]
    exact .refl s
  · rw [hrun]
    exact alike_writeRequest hp hr hw hidentity

theorem alike_pullNextRequest (hp : ¬ p w) : Alike labelled p s (c.pullNextRequest env w s).2 := by
  rcases pullNextRequest_cases c env s w with ⟨e, hrun⟩ | ⟨-, -, hrun⟩ | ⟨r, p, t, -, hfind, -, -, hrun⟩ |
    ⟨r, lease, -, -, hnext, -, -, hrun⟩
  · rw [hrun]
    exact .refl s
  · rw [hrun]
    exact .refl s
  · obtain ⟨hmem, hw, -⟩ := findResumableRequest_spec hfind
    rw [hrun]
    exact alike_writeRequest hp (Store.mem_requests_iff.mp hmem) hw rfl
  · obtain ⟨hmem, hw, -⟩ := nextCreatedRequest_spec hnext
    rw [hrun]
    exact alike_writeRequest hp (Store.mem_requests_iff.mp hmem) hw rfl

/-- Nothing of another wallet changes. -/
theorem dispatch_frame {command : CoordinatorCommand} (hname : InNameOf w command) (hp : ¬ p w) :
    Alike labelled p s (c.step s ⟨env, command⟩) := by
  unfold Coordinator.step
  cases hname with
  | requestHasAvailable => exact .refl s
  | pullNextRequest =>
    simp only [dispatch, map_apply]
    exact alike_pullNextRequest hp
  | @markRequestPresented command hw =>
    subst hw
    simp only [dispatch, map_apply, markRequestPresented_eq]
    exact alike_rewriteOwned hp fun r r' hid hw h =>
      (edit_of_presentedRecord (s := s) hid hw h).identity_eq
  | @resolveRequest command hw =>
    subst hw
    simp only [dispatch, map_apply, resolveRequest_eq]
    exact alike_rewriteOwned hp fun r r' hid hw h =>
      (edit_of_resolvedRecord (s := s) hid hw h).identity_eq
  | @rejectRequest command hw =>
    subst hw
    simp only [dispatch, map_apply, rejectRequest_eq]
    exact alike_rewriteOwned hp fun r r' hid hw h =>
      (edit_of_rejectedRecord (c := c) (s := s) hid hw h).identity_eq
  | @heartbeatExtension command hw =>
    subst hw
    simp only [dispatch, map_apply, heartbeatExtension]
    exact alike_heartbeatBackend hp
  | @heartbeatBackend command hw =>
    subst hw
    simp only [dispatch, map_apply]
    exact alike_heartbeatBackend hp
  | @registerExtension command hw hown =>
    subst hw
    simp only [dispatch, map_apply, registerExtension_eq]
    exact moves_registerBackend hp hown s
  | @registerBackend command hw hown =>
    subst hw
    simp only [dispatch, map_apply]
    exact moves_registerBackend hp hown s
  | @updateExtensionAccounts command hw hown =>
    subst hw
    simp only [dispatch, map_apply, updateExtensionAccounts]
    exact alike_updateBackendAccounts hp hown
  | @updateBackendAccounts command hw hown =>
    subst hw
    simp only [dispatch, map_apply]
    exact alike_updateBackendAccounts hp hown

end Methods

/-! ## Two stores a wallet cannot tell apart -/

section Labels

variable {w : WalletInstanceId} {s s' : Store}

theorem mem_labelsOf {l : WalletAccountLabel} : l ∈ s.labelsOf w ↔
    l.walletInstanceId = w ∧ s.walletAccountLabels.find (w, l.address) = some l := by
  unfold Store.labelsOf
  rw [List.mem_filter, Table.mem_iff_find, decide_eq_true_eq]
  constructor
  · rintro ⟨hfind, hw⟩
    exact ⟨hw, hw ▸ hfind⟩
  · rintro ⟨hw, hfind⟩
    refine ⟨?_, hw⟩
    unfold WalletAccountLabel.key
    rw [hw]
    exact hfind

theorem labelsOf_congr (h : LabelsAgreeOn (· = w) s s') (l : WalletAccountLabel) :
    l ∈ s.labelsOf w ↔ l ∈ s'.labelsOf w := by
  rw [mem_labelsOf, mem_labelsOf, h w l.address rfl]

theorem nextAccountOrder_congr (h : LabelsAgreeOn (· = w) s s') :
    s.nextAccountOrder w = s'.nextAccountOrder w := by
  unfold Store.nextAccountOrder
  have hmax : ((s.labelsOf w).map WalletAccountLabel.accountOrder).max? =
      ((s'.labelsOf w).map WalletAccountLabel.accountOrder).max? := by
    refine Option.ext fun n => ?_
    simp only [List.max?_eq_some_iff, List.mem_map, labelsOf_congr h]
  rw [hmax]

/-- The loop over the accounts writes the same labels of `w` in both stores. -/
theorem labelAccounts_agree {known known' : List String} {t : Int}
    (hknown : ∀ a, a ∈ known ↔ a ∈ known') :
    ∀ {accounts : List WalletAccountRecord} {n : Int} {s s' s₁ s₁' : Store},
      LabelsAgreeOn (· = w) s s' → Store.labelAccounts w known t accounts n s = .ok s₁ →
      Store.labelAccounts w known' t accounts n s' = .ok s₁' → LabelsAgreeOn (· = w) s₁ s₁'
  | [], n, s, s', s₁, s₁', h, h₁, h₁' => by
    cases h₁
    cases h₁'
    exact h
  | a :: accounts, n, s, s', s₁, s₁', h, h₁, h₁' => by
    unfold Store.labelAccounts at h₁ h₁'
    by_cases hmem : a.address ∈ known
    · rw [if_pos hmem] at h₁
      rw [if_pos ((hknown _).mp hmem)] at h₁'
      exact labelAccounts_agree hknown h h₁ h₁'
    · rw [if_neg hmem] at h₁
      rw [if_neg fun hin => hmem ((hknown _).mpr hin)] at h₁'
      obtain ⟨text, htext, hrest⟩ := bind_eq_ok h₁
      obtain ⟨text', htext', hrest'⟩ := bind_eq_ok h₁'
      obtain rfl := Except.ok.inj (htext.symm.trans htext')
      refine labelAccounts_agree hknown (fun w' address hw' => ?_) hrest hrest'
      unfold Store.upsertWalletAccountLabel
      rw [Table.find_upsert, Table.find_upsert, h w' address hw']

end Labels

section Coupling

variable {c : Coordinator} {env : Env} {labelled : Prop} {w : WalletInstanceId}

theorem coupled_reading {α : Type} {R : Store → Store → Prop} {f : Store → CoreResult α}
    (hf : ∀ s s', R s s' → f s = f s') : Coupled R (reading f) (reading f) :=
  fun s s' h => ⟨hf s s' h, h⟩

theorem Alike.getWalletInstance {s s' : Store} (h : Alike labelled (· = w) s s') :
    s.getWalletInstance w = s'.getWalletInstance w := h.1.instances w rfl

theorem coupled_upsertWalletInstance (row : WalletInstanceRecord) :
    Coupled (Alike labelled (· = w)) (upsertWalletInstance row) (upsertWalletInstance row) := by
  intro s s' h
  refine ⟨rfl, ⟨h.1.requests, fun w' hw' => ?_, h.1.accounts⟩, h.2⟩
  have hget := h.1.instances w' hw'
  unfold Store.getWalletInstance at hget
  show (s.walletInstances.upsert row).find w' = (s'.walletInstances.upsert row).find w'
  rw [Table.find_upsert, Table.find_upsert, hget]

/-- The accounts of `w` are accepted or refused alike. -/
theorem insertWalletAccounts_agree : ∀ {accounts : List WalletAccountRecord} {s s' : Store},
    (∀ a ∈ accounts, a.walletInstanceId = w) → Alike labelled (· = w) s s' →
    (∃ e, Store.insertWalletAccounts accounts s = .error e ∧
      Store.insertWalletAccounts accounts s' = .error e) ∨
    ∃ t t', Store.insertWalletAccounts accounts s = .ok t ∧
      Store.insertWalletAccounts accounts s' = .ok t' ∧ Alike labelled (· = w) t t'
  | [], s, s', _, h => .inr ⟨s, s', rfl, rfl, h⟩
  | a :: accounts, s, s', hown, h => by
    have hw := hown a (List.mem_cons_self ..)
    have hget : s.getWalletInstance a.walletInstanceId = s'.getWalletInstance a.walletInstanceId :=
      h.1.instances _ hw
    have hfind : s.walletAccounts.find a.key = s'.walletAccounts.find a.key :=
      h.1.accounts _ _ hw
    unfold Store.insertWalletAccounts
    rw [← hget]
    cases s.getWalletInstance a.walletInstanceId with
    | none => exact .inl ⟨_, rfl, rfl⟩
    | some wallet =>
      cases hins : s.walletAccounts.insert a with
      | none =>
        have hins' : s'.walletAccounts.insert a = none := by
          rw [← Option.not_isSome_iff_eq_none, Table.insert_isSome, ← hfind, ← Table.insert_isSome, hins]
          simp
        rw [hins']
        exact .inl ⟨_, rfl, rfl⟩
      | some t =>
        have hsome : (s'.walletAccounts.insert a).isSome = true := by
          rw [Table.insert_isSome, ← hfind, ← Table.insert_isSome, hins]
          rfl
        obtain ⟨t', hins'⟩ := Option.isSome_iff_exists.mp hsome
        rw [hins']
        refine insertWalletAccounts_agree (fun b hb => hown b (List.mem_cons_of_mem _ hb)) ?_
        refine ⟨⟨h.1.requests, h.1.instances, fun w' address hw' => ?_⟩, h.2⟩
        show t.find _ = t'.find _
        rw [Table.find_insert hins, Table.find_insert hins', h.1.accounts w' address hw']

/-- Labelling leaves the two stores alike: what it writes depends on the labels of `w` only. -/
theorem ensureLocalAccountLabels_agree {accounts : List WalletAccountRecord} {t : Int} {s s' : Store}
    (h : Alike labelled (· = w) s s') : ∃ x x', s.ensureLocalAccountLabels w accounts t = .ok x ∧
      s'.ensureLocalAccountLabels w accounts t = .ok x' ∧ Alike labelled (· = w) x x' := by
  unfold Store.ensureLocalAccountLabels
  have hlabels : ∀ y : Store, ∃ x, Store.labelAccounts w
      ((y.labelsOf w).map WalletAccountLabel.address) t accounts (y.nextAccountOrder w) y = .ok x ∧
      x.walletInstances = y.walletInstances ∧ x.walletAccounts = y.walletAccounts :=
    fun y => labelAccounts_ok accounts _ y
  obtain ⟨x, hx, hinstances, haccounts⟩ := hlabels s
  obtain ⟨x', hx', hinstances', haccounts'⟩ := hlabels s'
  refine ⟨x, x', hx, hx', ⟨fun id r hr => ?_, fun w' hw' => ?_, fun w' address hw' => ?_⟩, fun hl => ?_⟩
  · have hrequests := h.1.requests id r hr
    unfold Store.getRequest at hrequests ⊢
    rw [labelAccounts_requests hx, labelAccounts_requests hx']
    exact hrequests
  · have hget := h.1.instances w' hw'
    unfold Store.getWalletInstance at hget ⊢
    rw [hinstances, hinstances']
    exact hget
  · rw [haccounts, haccounts']
    exact h.1.accounts w' address hw'
  · have hlabels := h.2 hl
    rw [nextAccountOrder_congr hlabels] at hx
    refine labelAccounts_agree (fun a => ?_) hlabels hx hx'
    simp only [List.mem_map, labelsOf_congr hlabels]

theorem replaceWalletAccounts_agree {accounts : List WalletAccountRecord} {t : Int} {s s' : Store}
    (hown : ∀ a ∈ accounts, a.walletInstanceId = w) (h : Alike labelled (· = w) s s') :
    (∃ e, s.replaceWalletAccounts w accounts t = .error e ∧
      s'.replaceWalletAccounts w accounts t = .error e) ∨
    ∃ x x', s.replaceWalletAccounts w accounts t = .ok x ∧
      s'.replaceWalletAccounts w accounts t = .ok x' ∧ Alike labelled (· = w) x x' := by
  have hdeleted : ∀ {x x' : Store}, Alike labelled (· = w) x x' → Alike labelled (· = w)
      { x with walletAccounts := x.walletAccounts.filter fun a => a.walletInstanceId ≠ w }
      { x' with walletAccounts := x'.walletAccounts.filter fun a => a.walletInstanceId ≠ w } := by
    intro x x' hx
    have hgone : ∀ (y : Store) address,
        (y.walletAccounts.filter fun a => a.walletInstanceId ≠ w).find (w, address) = none := by
      intro y address
      refine Table.find_filter_eq_none.mpr fun a _ hne hkey => ?_
      have hwallet : a.walletInstanceId = w := congrArg Prod.fst hkey
      simp [hwallet] at hne
    refine ⟨⟨hx.1.requests, hx.1.instances, fun w' address hw' => ?_⟩, hx.2⟩
    subst hw'
    exact (hgone x address).trans (hgone x' address).symm
  have hlocal : s.isLocalAccountWallet w = s'.isLocalAccountWallet w := by
    unfold Store.isLocalAccountWallet
    rw [h.getWalletInstance]
  cases hkind : s.isLocalAccountWallet w with
  | error e =>
    refine .inl ⟨e, ?_, ?_⟩
    · unfold Store.replaceWalletAccounts
      rw [hkind]
      rfl
    · unfold Store.replaceWalletAccounts
      rw [← hlocal, hkind]
      rfl
  | ok isLocal =>
    cases isLocal with
    | false =>
      rw [replaceWalletAccounts_of_not_local hkind,
        replaceWalletAccounts_of_not_local (hlocal.symm.trans hkind)]
      exact insertWalletAccounts_agree hown (hdeleted h)
    | true =>
      have hlabels : ∃ x x', s.ensureLocalAccountLabels w accounts t = .ok x ∧
        s'.ensureLocalAccountLabels w accounts t = .ok x' ∧ Alike labelled (· = w) x x' :=
        ensureLocalAccountLabels_agree h
      obtain ⟨x, x', hx, hx', hxx'⟩ := hlabels
      rw [replaceWalletAccounts_of_local hkind hx,
        replaceWalletAccounts_of_local (hlocal.symm.trans hkind) hx']
      exact insertWalletAccounts_agree hown (hdeleted hxx')

theorem coupled_replaceWalletAccounts {accounts : List WalletAccountRecord}
    (hown : ∀ a ∈ accounts, a.walletInstanceId = w) :
    Coupled (Alike labelled (· = w)) (replaceWalletAccounts env w accounts)
      (replaceWalletAccounts env w accounts) := by
  refine Coupled.call fun s s' h => ?_
  rcases replaceWalletAccounts_agree (t := env.currentTimestampMs) hown h with ⟨e, he, he'⟩ |
    ⟨x, x', hx, hx', hxx'⟩
  · exact .inl ⟨.repository e, by simp [he, Except.map, Except.mapError],
      by simp [he', Except.map, Except.mapError]⟩
  · exact .inr ⟨(), x, x', by simp [hx, Except.map, Except.mapError],
      by simp [hx', Except.map, Except.mapError], hxx'⟩

theorem coupled_registerBackend {command : RegisterBackendCommand} (hw : command.walletInstanceId = w)
    (hown : ∀ a ∈ command.accounts, a.walletInstanceId = w) :
    Coupled (Alike labelled (· = w)) (registerBackend env command) (registerBackend env command) := by
  subst hw
  refine Coupled.bind (coupled_reading fun s s' h => ?_) fun _ =>
    (coupled_upsertWalletInstance _).bind fun _ => coupled_replaceWalletAccounts (stampAccounts_own hown)
  rw [h.getWalletInstance]

theorem coupled_requireWalletInstance : Coupled (Alike labelled (· = w))
    (reading (requireWalletInstance w)) (reading (requireWalletInstance w)) := by
  refine coupled_reading fun s s' h => ?_
  unfold requireWalletInstance
  rw [h.getWalletInstance]

theorem coupled_updateBackendAccounts {command : UpdateBackendAccountsCommand}
    (hw : command.walletInstanceId = w) (hown : ∀ a ∈ command.accounts, a.walletInstanceId = w) :
    Coupled (Alike labelled (· = w)) (updateBackendAccounts env command)
      (updateBackendAccounts env command) := by
  subst hw
  exact coupled_requireWalletInstance.bind fun _ => (coupled_upsertWalletInstance _).bind fun _ =>
    coupled_replaceWalletAccounts (stampAccounts_own hown)

/-- Requests are rewritten alike. -/
theorem Alike.rewritten {f : RequestRecord → RequestRecord} {s s' x x' : Store}
    (h : Alike labelled (· = w) s s') (hx : Rewritten f s x) (hx' : Rewritten f s' x')
    (hf : ∀ r ∈ s.requests.rows, (f r).walletInstanceId = w → r.walletInstanceId = w)
    (hf' : ∀ r ∈ s'.requests.rows, (f r).walletInstanceId = w → r.walletInstanceId = w) :
    Alike labelled (· = w) x x' := by
  obtain ⟨hinstances, haccounts, hlabels⟩ := hx.wallets
  obtain ⟨hinstances', haccounts', hlabels'⟩ := hx'.wallets
  refine ⟨⟨fun id r hr => ?_, fun w' hw' => ?_, fun w' address hw' => ?_⟩, fun hl w' address hw' => ?_⟩
  · rw [hx.requests, hx'.requests, Option.map_eq_some_iff, Option.map_eq_some_iff]
    constructor
    · rintro ⟨r₀, hr₀, rfl⟩
      exact ⟨r₀, (h.1.requests id r₀ (hf r₀ (Store.mem_of_getRequest hr₀) hr)).mp hr₀, rfl⟩
    · rintro ⟨r₀, hr₀, rfl⟩
      exact ⟨r₀, (h.1.requests id r₀ (hf' r₀ (Store.mem_of_getRequest hr₀) hr)).mpr hr₀, rfl⟩
  · have hget := h.1.instances w' hw'
    unfold Store.getWalletInstance at hget ⊢
    rw [hinstances, hinstances']
    exact hget
  · rw [haccounts, haccounts']
    exact h.1.accounts w' address hw'
  · rw [hlabels, hlabels']
    exact h.2 hl w' address hw'

theorem coupled_heartbeatBackend {command : HeartbeatBackendCommand}
    (hw : command.walletInstanceId = w) :
    Coupled (Alike labelled (· = w)) (c.heartbeatBackend env command)
      (c.heartbeatBackend env command) := by
  subst hw
  refine coupled_requireWalletInstance.bind fun _ => (coupled_upsertWalletInstance _).bind fun _ => ?_
  split_ifs
  · exact .pure _
  refine (Coupled.lift _).bind fun t s s' h => ?_
  obtain ⟨x, hrun, hrw⟩ := heartbeat_loop command.walletInstanceId (env.now 0) t
    command.presentedRequestIds s
  obtain ⟨x', hrun', hrw'⟩ := heartbeat_loop command.walletInstanceId (env.now 0) t
    command.presentedRequestIds s'
  rw [hrun, hrun']
  have hkeeps : ∀ r : RequestRecord, (if r.requestId ∈ command.presentedRequestIds then
      r.heartbeaten command.walletInstanceId (env.now 0) t else r).walletInstanceId =
        r.walletInstanceId := by
    intro r
    split_ifs
    · exact heartbeaten_walletInstanceId
    · rfl
  exact ⟨rfl, h.rewritten hrw hrw' (fun r _ hr => (hkeeps r).symm.trans hr)
    fun r _ hr => (hkeeps r).symm.trans hr⟩

end Coupling

/-! ## Requests named by id -/

def Owns (s : Store) (w : WalletInstanceId) (id : RequestId) : Prop :=
  ∃ r, s.getRequest id = some r ∧ r.walletInstanceId = w

/-- The two errors for a request id that is not the wallet's. -/
def Disowned {α : Type} (x : CoreResult α) : Prop :=
  x = .error (sharedError .requestNotFound "Request not found") ∨
  x = .error (sharedError .requestNotOwned "wallet instance does not own this request")

section Owned

variable {labelled : Prop} {w : WalletInstanceId} {id : RequestId} {s s' : Store}

theorem Alike.owns (h : Alike labelled (· = w) s s') : Owns s w id ↔ Owns s' w id := by
  constructor
  · rintro ⟨r, hr, hw⟩
    exact ⟨r, (h.1.requests id r hw).mp hr, hw⟩
  · rintro ⟨r, hr, hw⟩
    exact ⟨r, (h.1.requests id r hw).mpr hr, hw⟩

/-- One request of `w` is written back in both stores. -/
theorem Alike.writeRequest {r r' : RequestRecord} (h : Alike labelled (· = w) s s')
    (hr : s.getRequest id = some r) (hw : r.walletInstanceId = w) (hidentity : r'.identity = r.identity) :
    Alike labelled (· = w) (s.writeRequest r') (s'.writeRequest r') := by
  have hr' : s'.getRequest id = some r := (h.1.requests id r hw).mp hr
  have hwritten : ∀ {y : Store}, y.getRequest id = some r →
      Rewritten (fun x => if x.requestId = id then r' else x) y (y.writeRequest r') := fun hy =>
    rewritten_writeRequest hy (requestId_of_identity hidentity) (clientRequestId_of_identity hidentity)
  have hkeeps : ∀ {y : Store}, y.getRequest id = some r → ∀ x ∈ y.requests.rows,
      (if x.requestId = id then r' else x).walletInstanceId = w → x.walletInstanceId = w := by
    intro y hy x hx hxw
    split_ifs at hxw with he
    · rw [← he, Store.mem_requests_iff.mp hx] at hy
      rw [Option.some.inj hy]
      exact hw
    · exact hxw
  exact h.rewritten (hwritten hr) (hwritten hr') (hkeeps hr) (hkeeps hr')

theorem rewriteOwned_disowned {α : Type} {f : RequestRecord → CoreResult RequestRecord}
    {g : RequestRecord → α} (h : ¬ Owns s w id) :
    Disowned (rewriteOwned id w f g s).1 ∧ (rewriteOwned id w f g s).2 = s := by
  have hrefused : ∃ e, requireOwnedRequest id w s = .error e ∧ Disowned (.error e : CoreResult α) := by
    unfold requireOwnedRequest
    cases hr : s.getRequest id with
    | none => exact ⟨_, rfl, .inl rfl⟩
    | some r =>
      have hne : r.walletInstanceId ≠ w := fun hw => h ⟨r, hr, hw⟩
      dsimp only
      rw [if_pos hne]
      exact ⟨_, rfl, .inr rfl⟩
  obtain ⟨e, he, hdisowned⟩ := hrefused
  unfold rewriteOwned
  rw [reading_error_bind he]
  exact ⟨hdisowned, rfl⟩

theorem rewriteOwned_agree {α : Type} {f : RequestRecord → CoreResult RequestRecord}
    {g : RequestRecord → α} (h : Alike labelled (· = w) s s')
    (hf : ∀ r r', r.requestId = id → r.walletInstanceId = w → f r = .ok r' → r'.identity = r.identity) :
    ((rewriteOwned id w f g s).1 = (rewriteOwned id w f g s').1 ∨
      ¬ Owns s w id ∧ ¬ Owns s' w id ∧
        Disowned (rewriteOwned id w f g s).1 ∧ Disowned (rewriteOwned id w f g s').1) ∧
    Alike labelled (· = w) (rewriteOwned id w f g s).2 (rewriteOwned id w f g s').2 := by
  by_cases hown : Owns s w id
  · obtain ⟨r, hr, hw⟩ := hown
    have hr' : s'.getRequest id = some r := (h.1.requests id r hw).mp hr
    have hid := Store.getRequest_requestId hr
    have hreq := requireOwnedRequest_of_owned hr hid hw
    have hreq' := requireOwnedRequest_of_owned hr' hid hw
    cases hfr : f r with
    | error e =>
      have hrun : ∀ {y : Store}, requireOwnedRequest id w y = .ok r →
          rewriteOwned id w f g y = (.error e, y) := by
        intro y hy
        unfold rewriteOwned
        rw [reading_ok_bind hy, hfr]
        rfl
      rw [hrun hreq, hrun hreq']
      exact ⟨.inl rfl, h⟩
    | ok r' =>
      have hidentity := hf r r' hid hw hfr
      have hrun : ∀ {y : Store}, requireOwnedRequest id w y = .ok r →
          rewriteOwned id w f g y = (.ok (g r'), y.writeRequest r') := fun hy =>
        rewriteOwned_ok hy hfr (requestId_of_identity hidentity) (clientRequestId_of_identity hidentity)
      rw [hrun hreq, hrun hreq']
      exact ⟨.inl rfl, h.writeRequest hr hw hidentity⟩
  · have hown' : ¬ Owns s' w id := fun ho => hown (h.owns.mpr ho)
    obtain ⟨hx, hs⟩ := rewriteOwned_disowned (f := f) (g := g) hown
    obtain ⟨hx', hs'⟩ := rewriteOwned_disowned (f := f) (g := g) hown'
    rw [hs, hs']
    exact ⟨.inr ⟨hown, hown', hx, hx'⟩, h⟩

end Owned

/-! ## Delivery in two stores -/

/-- The requests of `w` waiting for delivery, in the order SQLite returns them. -/
def createdQueue (env : Env) (s : Store) (w : WalletInstanceId) : List RequestRecord :=
  env.requestScan.orderBy RequestRecord.createdAt (s.requests.rows.filter fun r =>
    r.walletInstanceId = w ∧ r.status = .created)

/-- Requests of `w` that were created at the same instant come in the same order in the two runs. -/
structure TiesAlike (w : WalletInstanceId) (env : Env) (s : Store) (env' : Env) (s' : Store) : Prop where
  nonTerminal : ∀ t,
    (s.listNonTerminalRequests env.requestScan).filter (fun r =>
      r.walletInstanceId = w ∧ r.createdAt = t) =
    (s'.listNonTerminalRequests env'.requestScan).filter (fun r =>
      r.walletInstanceId = w ∧ r.createdAt = t)
  created : ∀ t, (createdQueue env s w).filter (fun r => r.createdAt = t) =
    (createdQueue env' s' w).filter (fun r => r.createdAt = t)

/-- The two commands run at the same time and are given the same ids; SQLite is free to visit the
rows in another order. -/
structure SameSurroundings (env env' : Env) : Prop where
  now : env.now = env'.now
  newRequestId : env.newRequestId = env'.newRequestId
  newDeliveryLeaseId : env.newDeliveryLeaseId = env'.newDeliveryLeaseId
  currentTimestampMs : env.currentTimestampMs = env'.currentTimestampMs

/-- What a pull writes, given the request to resume and the request to claim, if any. -/
def Coordinator.pullDecision (c : Coordinator) (env : Env) (found next : Option RequestRecord) :
    CoreResult (Option (RequestRecord × Bool)) :=
  match found with
  | some request => do
    let request ← c.resumedRecord env request
    pure (some (request, true))
  | none => do
    let deliveryLeaseId ← env.newDeliveryLeaseId
    let expiresAt ← addLease (env.now 2) c.config.deliveryLeaseTtl "delivery lease timestamp overflow"
    pure (next.map fun request => (request.claimed ⟨deliveryLeaseId, expiresAt⟩ (env.now 0), false))

section Delivery

variable {c : Coordinator} {env env' : Env} {labelled : Prop} {w : WalletInstanceId} {s s' : Store}

theorem TiesAlike.nextCreatedRequest (h : TiesAlike w env s env' s') :
    s.nextCreatedRequest env.requestScan w = s'.nextCreatedRequest env'.requestScan w :=
  congrArg List.head? (eq_of_sorted_of_fibres orderBy_pairwise orderBy_pairwise h.created)

theorem TiesAlike.findResumableRequest (h : TiesAlike w env s env' s') (hnow : env.now = env'.now) :
    findResumableRequest env w s = findResumableRequest env' w s' := by
  -- only requests of `w` are resumable, and these come in the same order
  have hown : (s.listNonTerminalRequests env.requestScan).filter (fun r => r.walletInstanceId = w) =
      (s'.listNonTerminalRequests env'.requestScan).filter (fun r => r.walletInstanceId = w) := by
    have hsorted : ∀ (y : Store) (scan : Scan RequestRecord), ((y.listNonTerminalRequests scan).filter
        fun r => r.walletInstanceId = w).Pairwise fun a b => a.createdAt ≤ b.createdAt :=
      fun _ _ => orderBy_pairwise.filter _
    refine eq_of_sorted_of_fibres (hsorted s _) (hsorted s' _) fun t => ?_
    simpa [List.filter_filter, and_comm] using h.nonTerminal t
  have hfilter : ∀ l : List RequestRecord, l.filter (resumable w (env.now 1)) =
      (l.filter fun r => r.walletInstanceId = w).filter (resumable w (env.now 1)) := by
    intro l
    rw [List.filter_filter]
    refine List.filter_congr fun r _ => ?_
    by_cases hw : r.walletInstanceId = w
    · simp [hw]
    · simp [resumable, hw]
  unfold Coordinator.findResumableRequest
  rw [← hnow, hfilter, hfilter (s'.listNonTerminalRequests env'.requestScan), hown]

theorem pullNextRequest_eq_decision (hw : s.getWalletInstance w ≠ none) :
    c.pullNextRequest env w s =
      match c.pullDecision env (findResumableRequest env w s)
        (s.nextCreatedRequest env.requestScan w) with
      | .error e => (.error e, s)
      | .ok none => (.ok ⟨w, none⟩, s)
      | .ok (some (request, resume)) =>
        (.ok ⟨w, some (projectPulledRequest request resume)⟩, s.writeRequest request) := by
  obtain ⟨wallet, hwallet⟩ := Option.ne_none_iff_exists'.mp hw
  have hreg := requireWalletInstance_eq_ok hwallet
  cases hfind : findResumableRequest env w s with
  | some r =>
    obtain ⟨hmem, -, -, p, hp, -⟩ := findResumableRequest_spec hfind
    unfold pullNextRequest pullDecision
    rw [reading_ok_bind hreg, read_bind, hfind]
    dsimp only
    cases hrecord : c.resumedRecord env r with
    | error e => rfl
    | ok r' =>
      obtain ⟨t, -, rfl⟩ := resumedRecord_ok hp hrecord
      have hwrite : s.Rewritable (r.extended p t (env.now 0)) :=
        rewritable_of_getRequest (Store.mem_requests_iff.mp hmem) rfl rfl
      rw [lift_ok_bind, bind_ok (updateRequest_apply hwrite)]
      rfl
  | none =>
    unfold pullNextRequest pullDecision
    rw [reading_ok_bind hreg, read_bind, hfind]
    dsimp only
    cases env.newDeliveryLeaseId with
    | error e => rfl
    | ok leaseId =>
      rw [lift_ok_bind]
      cases addLease (env.now 2) c.config.deliveryLeaseTtl "delivery lease timestamp overflow" with
      | error e => rfl
      | ok t =>
        rw [lift_ok_bind]
        cases hnext : s.nextCreatedRequest env.requestScan w with
        | some r =>
          rw [bind_ok (storeCall_ok (claimNextRequestForWallet_some hnext))]
          rfl
        | none =>
          have hclaim : s.claimNextRequestForWallet env.requestScan w ⟨leaseId, t⟩ (env.now 0) =
              .ok (none, s) := by
            unfold Store.claimNextRequestForWallet
            rw [hnext]
          rw [bind_ok (storeCall_ok hclaim)]
          rfl

/-- The record a pull writes is one of the wallet's own, with its identity kept. -/
theorem pullDecision_spec {request : RequestRecord} {resume : Bool}
    (h : c.pullDecision env (findResumableRequest env w s) (s.nextCreatedRequest env.requestScan w) =
      .ok (some (request, resume))) :
    ∃ id r, s.getRequest id = some r ∧ r.walletInstanceId = w ∧ request.identity = r.identity := by
  unfold pullDecision at h
  cases hfind : findResumableRequest env w s with
  | some r =>
    rw [hfind] at h
    obtain ⟨hmem, hw, -, p, hp, -⟩ := findResumableRequest_spec hfind
    obtain ⟨r', hrecord, hr'⟩ := bind_eq_ok h
    obtain ⟨rfl, -⟩ := Prod.mk.inj (Option.some.inj (Except.ok.inj hr'))
    obtain ⟨t, -, rfl⟩ := resumedRecord_ok hp hrecord
    exact ⟨_, r, Store.mem_requests_iff.mp hmem, hw, rfl⟩
  | none =>
    rw [hfind] at h
    obtain ⟨leaseId, -, h₁⟩ := bind_eq_ok h
    obtain ⟨t, -, h₂⟩ := bind_eq_ok h₁
    obtain ⟨r, hnext, he⟩ := Option.map_eq_some_iff.mp (Except.ok.inj h₂)
    obtain ⟨rfl, -⟩ := Prod.mk.inj he
    obtain ⟨hmem, hw, -⟩ := nextCreatedRequest_spec hnext
    exact ⟨_, r, Store.mem_requests_iff.mp hmem, hw, rfl⟩

theorem pullDecision_congr (h : SameSurroundings env env') (found next : Option RequestRecord) :
    c.pullDecision env found next = c.pullDecision env' found next := by
  unfold pullDecision resumedRecord
  rw [h.now, h.newDeliveryLeaseId]

theorem pullNextRequest_agree (hsame : SameSurroundings env env') (hties : TiesAlike w env s env' s')
    (h : Alike labelled (· = w) s s') :
    (c.pullNextRequest env w s).1 = (c.pullNextRequest env' w s').1 ∧
      Alike labelled (· = w) (c.pullNextRequest env w s).2 (c.pullNextRequest env' w s').2 := by
  by_cases hw : s.getWalletInstance w = none
  · have hrefused : ∀ {env : Env} {y : Store}, y.getWalletInstance w = none →
        c.pullNextRequest env w y =
          (.error (sharedError .walletInstanceNotFound "Wallet instance was not found"), y) := by
      intro env y hy
      refine reading_error_bind ?_
      unfold requireWalletInstance
      rw [hy]
    rw [hrefused hw, hrefused (h.getWalletInstance ▸ hw)]
    exact ⟨rfl, h⟩
  · rw [pullNextRequest_eq_decision hw, pullNextRequest_eq_decision (h.getWalletInstance ▸ hw),
      ← hties.findResumableRequest hsame.now, ← hties.nextCreatedRequest, ← pullDecision_congr hsame]
    cases hdecision : c.pullDecision env (findResumableRequest env w s)
        (s.nextCreatedRequest env.requestScan w) with
    | error e => exact ⟨rfl, h⟩
    | ok x =>
      cases x with
      | none => exact ⟨rfl, h⟩
      | some written =>
        obtain ⟨id, r, hr, hown, hidentity⟩ := pullDecision_spec hdecision
        exact ⟨rfl, h.writeRequest hr hown hidentity⟩

theorem requestHasAvailable_agree (h : Alike labelled (· = w) s s') :
    requestHasAvailable env w s = requestHasAvailable env' w s' := by
  have havailable : (requestHasAvailable env w s).available =
      (requestHasAvailable env' w s').available := by
    rw [Bool.eq_iff_iff, requestHasAvailable_iff, requestHasAvailable_iff]
    have hrows : ∀ r : RequestRecord, r.walletInstanceId = w →
        (r ∈ s.requests.rows ↔ r ∈ s'.requests.rows) := by
      intro r hw
      rw [Store.mem_requests_iff, Store.mem_requests_iff, h.1.requests _ r hw]
    have hqueued : ∀ status : RequestStatus,
        (∃ r ∈ s.requests.rows, r.walletInstanceId = w ∧ r.status = status) ↔
          ∃ r ∈ s'.requests.rows, r.walletInstanceId = w ∧ r.status = status := by
      intro status
      constructor
      · rintro ⟨r, hr, hw, hs⟩
        exact ⟨r, (hrows r hw).mp hr, hw, hs⟩
      · rintro ⟨r, hr, hw, hs⟩
        exact ⟨r, (hrows r hw).mpr hr, hw, hs⟩
    exact or_congr (hqueued .created) (hqueued .pendingUserApproval)
  exact congrArg (RequestHasAvailableResult.mk w) havailable

end Delivery

/-- The two runs answer alike, but for the error on a request id that is not the wallet's. -/
def SameAnswer (w : WalletInstanceId) (command : CoordinatorCommand) (s s' : Store)
    (x x' : CoreResult CoordinatorResponse) : Prop :=
  x = x' ∨ ∃ id, AnswersFor id command ∧ ¬ Owns s w id ∧ ¬ Owns s' w id ∧ Disowned x ∧ Disowned x'

section Noninterference

variable {c : Coordinator} {env env' : Env} {labelled : Prop} {w : WalletInstanceId} {s s' : Store}

theorem Disowned.map {α β : Type} {x : CoreResult α} {f : α → β} (h : Disowned x) :
    Disowned (x.map f) := by
  rcases h with h | h
  · exact .inl (by rw [h]; rfl)
  · exact .inr (by rw [h]; rfl)

theorem sameAnswer_map {α : Type} {command : CoordinatorCommand} {id : RequestId}
    {x x' : CoreResult α} {f : α → CoordinatorResponse} (hid : AnswersFor id command)
    (h : x = x' ∨ ¬ Owns s w id ∧ ¬ Owns s' w id ∧ Disowned x ∧ Disowned x') :
    SameAnswer w command s s' (x.map f) (x'.map f) := by
  rcases h with rfl | ⟨hs, hs', hx, hx'⟩
  · exact .inl rfl
  · exact .inr ⟨id, hid, hs, hs', hx.map, hx'.map⟩

/-- Stores that agree on the rows of `w` answer `w` alike and go on agreeing. -/
theorem dispatch_agree {command : CoordinatorCommand} (hname : InNameOf w command)
    (hsame : SameSurroundings env env') (hties : TiesAlike w env s env' s')
    (h : Alike labelled (· = w) s s') :
    SameAnswer w command s s' (c.reply s ⟨env, command⟩) (c.reply s' ⟨env', command⟩) ∧
      Alike labelled (· = w) (c.step s ⟨env, command⟩) (c.step s' ⟨env', command⟩) := by
  -- the methods that never look at a scan are the same function of the store in both runs
  have hcoupled : ∀ {α : Type} {f : α → CoordinatorResponse} {m m' : CoreM α}, m = m' →
      Coupled (Alike labelled (· = w)) m m →
      SameAnswer w command s s' ((f <$> m) s).1 ((f <$> m') s').1 ∧
        Alike labelled (· = w) ((f <$> m) s).2 ((f <$> m') s').2 := by
    intro α f m m' hm hcoupled
    subst hm
    obtain ⟨hreply, hstate⟩ := hcoupled.map f s s' h
    exact ⟨.inl hreply, hstate⟩
  unfold Coordinator.reply Coordinator.step
  cases hname with
  | requestHasAvailable =>
    exact ⟨.inl (congrArg (fun x => Except.ok (CoordinatorResponse.requestHasAvailable x))
      (requestHasAvailable_agree h)), h⟩
  | pullNextRequest =>
    simp only [dispatch, map_apply]
    obtain ⟨hreply, hstate⟩ := pullNextRequest_agree (c := c) hsame hties h
    exact ⟨.inl (congrArg _ hreply), hstate⟩
  | @markRequestPresented command hw =>
    subst hw
    have henv : c.presentedRecord env command = c.presentedRecord env' command := by
      unfold presentedRecord resumedRecord
      rw [hsame.now]
    simp only [dispatch, map_apply, markRequestPresented_eq, ← henv]
    obtain ⟨hreply, hstate⟩ := rewriteOwned_agree (g := fun r =>
      RequestPresentedResult.mk r.requestId r.status) h fun r r' hid hw hr =>
        (edit_of_presentedRecord (s := s) hid hw hr).identity_eq
    exact ⟨sameAnswer_map rfl hreply, hstate⟩
  | @resolveRequest command hw =>
    subst hw
    have henv : c.resolvedRecord env command = c.resolvedRecord env' command := by
      unfold resolvedRecord
      rw [hsame.now]
    simp only [dispatch, map_apply, resolveRequest_eq, ← henv]
    obtain ⟨hreply, hstate⟩ := rewriteOwned_agree (g := fun r => RequestResolvedResult.mk r.requestId
      r.status command.result.resultKind r.resultExpiresAt) h fun r r' hid hw hr =>
        (edit_of_resolvedRecord (s := s) hid hw hr).identity_eq
    exact ⟨sameAnswer_map rfl hreply, hstate⟩
  | @rejectRequest command hw =>
    subst hw
    have henv : rejectedRecord env command = rejectedRecord env' command := by
      unfold rejectedRecord validateReject
      rw [hsame.now]
    simp only [dispatch, map_apply, rejectRequest_eq, ← henv]
    obtain ⟨hreply, hstate⟩ := rewriteOwned_agree (g := fun r => RequestRejectedResult.mk r.requestId
      r.status (mapRejectReason command.reasonCode).2.1) h fun r r' hid hw hr =>
        (edit_of_rejectedRecord (c := c) (s := s) hid hw hr).identity_eq
    exact ⟨sameAnswer_map rfl hreply, hstate⟩
  | @heartbeatExtension command hw =>
    refine hcoupled ?_ (coupled_heartbeatBackend hw)
    unfold heartbeatExtension heartbeatBackend
    rw [hsame.now]
  | @heartbeatBackend command hw =>
    refine hcoupled ?_ (coupled_heartbeatBackend hw)
    unfold heartbeatBackend
    rw [hsame.now]
  | @registerExtension command hw hown =>
    refine hcoupled ?_ (coupled_registerBackend hw hown)
    unfold registerExtension registerBackend Coordinator.replaceWalletAccounts
    rw [hsame.now, hsame.currentTimestampMs]
  | @registerBackend command hw hown =>
    refine hcoupled ?_ (coupled_registerBackend hw hown)
    unfold registerBackend Coordinator.replaceWalletAccounts
    rw [hsame.now, hsame.currentTimestampMs]
  | @updateExtensionAccounts command hw hown =>
    refine hcoupled ?_ (coupled_updateBackendAccounts hw hown)
    unfold updateExtensionAccounts updateBackendAccounts Coordinator.replaceWalletAccounts
    rw [hsame.now, hsame.currentTimestampMs]
  | @updateBackendAccounts command hw hown =>
    refine hcoupled ?_ (coupled_updateBackendAccounts hw hown)
    unfold updateBackendAccounts Coordinator.replaceWalletAccounts
    rw [hsame.now, hsame.currentTimestampMs]

end Noninterference

/-! ## What a reply says of requests -/

/-- The two errors that carry something of a request; the others are fixed texts. -/
def SaysOf (r : RequestRecord) : CoreError → Prop
  | .invalidStateTransition source _ => source = r.status
  | .validation message => ∃ result, validateRequestResult r result = .error (.validation message)
  | _ => True

/-- An error with a fixed text. -/
def Plain : CoreError → Prop
  | .invalidStateTransition _ _ | .validation _ => False
  | _ => True

/-- Whatever a reply says of a request, it says of a request of `w`. -/
def CarriesOnly (w : WalletInstanceId) (env : Env) (s s' : Store) : CoreResult CoordinatorResponse → Prop
  | .ok (.requestHasAvailable x) => x.walletInstanceId = w ∧ (x.available = true ↔
      ∃ r ∈ s.requests.rows, r.walletInstanceId = w ∧
        (r.status = .created ∨ r.status = .pendingUserApproval))
  | .ok (.pullNextRequest x) => x.walletInstanceId = w ∧ ∀ p, x.request = some p →
      ∃ r ∈ s'.requests.rows, r.walletInstanceId = w ∧ ∃ resume, p = projectPulledRequest r resume
  | .ok (.requestPresented x) => ∃ r ∈ s'.requests.rows, r.walletInstanceId = w ∧
      x = ⟨r.requestId, r.status⟩
  | .ok (.requestResolved x) => ∃ r ∈ s'.requests.rows, r.walletInstanceId = w ∧
      x = ⟨r.requestId, r.status, x.resultKind, r.resultExpiresAt⟩
  | .ok (.requestRejected x) => ∃ r ∈ s'.requests.rows, r.walletInstanceId = w ∧
      x = ⟨r.requestId, r.status, x.errorCode⟩
  | .ok .ack => True
  | .ok _ => False
  | .error e => Plain e ∨ env.newDeliveryLeaseId = .error e ∨
      ∃ r ∈ s.requests.rows, r.walletInstanceId = w ∧ SaysOf r e

section Replies

variable {c : Coordinator} {env : Env} {w : WalletInstanceId} {s : Store} {r r' : RequestRecord}
  {e : CoreError}

theorem addLease_plain {now : TimestampMs} {ttl : DurationSeconds} {m : String}
    (h : addLease now ttl m = .error e) : Plain e := by
  unfold addLease at h
  split at h
  · cases h
  · obtain rfl := Except.error.inj h
    trivial

theorem resumedRecord_plain (h : c.resumedRecord env r = .error e) : Plain e := by
  unfold resumedRecord at h
  cases hp : r.presentation with
  | none =>
    rw [hp] at h
    cases h
  | some p =>
    rw [hp] at h
    rcases bind_eq_error h with h₁ | ⟨t, -, h₁⟩
    · exact addLease_plain h₁
    · cases h₁

theorem Plain.saysOf (h : Plain e) (r : RequestRecord) : SaysOf r e := by
  cases e with
  | invalidStateTransition => exact h.elim
  | validation => exact h.elim
  | _ => trivial

theorem transitionRequest_saysOf {next : RequestStatus} {now : TimestampMs}
    (h : transitionRequest r next now = .error e) : SaysOf r e := by
  unfold transitionRequest at h
  split_ifs at h
  obtain rfl := Except.error.inj h
  rfl

theorem validatePresentation_saysOf {id : PresentationId} {now : TimestampMs}
    (h : validatePresentation r id now = .error e) : SaysOf r e := by
  unfold validatePresentation at h
  split_ifs at h
  · obtain rfl := Except.error.inj h
    rfl
  · split at h
    · obtain rfl := Except.error.inj h
      trivial
    · split_ifs at h
      · obtain rfl := Except.error.inj h
        trivial
      · obtain rfl := Except.error.inj h
        trivial

theorem validateDeliveryLease_saysOf {id : DeliveryLeaseId} {now : TimestampMs}
    (h : validateDeliveryLease r id now = .error e) : SaysOf r e := by
  unfold validateDeliveryLease at h
  split at h
  · obtain rfl := Except.error.inj h
    trivial
  · split_ifs at h
    · obtain rfl := Except.error.inj h
      trivial
    · obtain rfl := Except.error.inj h
      trivial

theorem presentedRecord_saysOf {command : MarkRequestPresentedCommand}
    (h : c.presentedRecord env command r = .error e) : SaysOf r e := by
  unfold presentedRecord at h
  split at h
  · split at h
    · obtain rfl := Except.error.inj h
      trivial
    · rcases bind_eq_error h with h₁ | ⟨_, -, h₁⟩
      · exact validateDeliveryLease_saysOf h₁
      rcases bind_eq_error h₁ with h₂ | ⟨_, -, h₂⟩
      · exact transitionRequest_saysOf h₂
      rcases bind_eq_error h₂ with h₃ | ⟨_, -, h₃⟩
      · exact (addLease_plain h₃).saysOf r
      · cases h₃
  · split_ifs at h
    · obtain rfl := Except.error.inj h
      trivial
    · rcases bind_eq_error h with h₁ | ⟨_, -, h₁⟩
      · exact validatePresentation_saysOf h₁
      · exact (resumedRecord_plain h₁).saysOf r
  · obtain rfl := Except.error.inj h
    rfl

theorem resolvedRecord_saysOf {command : ResolveRequestCommand}
    (h : c.resolvedRecord env command r = .error e) : SaysOf r e := by
  rcases bind_eq_error h with h₁ | ⟨_, -, h₁⟩
  · have hvalidate := h₁
    unfold validateRequestResult at h₁
    split_ifs at h₁
    obtain rfl := Except.error.inj h₁
    exact ⟨command.result, hvalidate⟩
  rcases bind_eq_error h₁ with h₂ | ⟨_, -, h₂⟩
  · exact validatePresentation_saysOf h₂
  rcases bind_eq_error h₂ with h₃ | ⟨_, -, h₃⟩
  · exact transitionRequest_saysOf h₃
  · cases h₃

theorem rejectedRecord_saysOf {command : RejectRequestCommand}
    (h : rejectedRecord env command r = .error e) : SaysOf r e := by
  rcases bind_eq_error h with h₁ | ⟨_, -, h₁⟩
  · unfold validateReject at h₁
    split at h₁
    · split at h₁
      · obtain rfl := Except.error.inj h₁
        trivial
      · exact validatePresentation_saysOf h₁
    · split_ifs at h₁
      obtain rfl := Except.error.inj h₁
      trivial
    · obtain rfl := Except.error.inj h₁
      rfl
  rcases bind_eq_error h₁ with h₂ | ⟨_, -, h₂⟩
  · exact transitionRequest_saysOf h₂
  · cases h₂

theorem fails_storeCall {α : Type} (f : Store → Except RepositoryError (α × Store)) :
    Fails Plain (storeCall f) := by
  refine Fails.call fun y e he => ?_
  cases hy : f y with
  | error e' =>
    rw [hy] at he
    obtain rfl := Except.error.inj he
    trivial
  | ok x =>
    rw [hy] at he
    cases he

theorem rewriteOwned_error {α : Type} {id : RequestId} {f : RequestRecord → CoreResult RequestRecord}
    {g : RequestRecord → α} (h : (rewriteOwned id w f g s).1 = .error e) :
    Plain e ∨ ∃ r ∈ s.requests.rows, r.walletInstanceId = w ∧ f r = .error e := by
  by_cases hown : Owns s w id
  · obtain ⟨r, hr, hw⟩ := hown
    have hreq := requireOwnedRequest_of_owned hr (Store.getRequest_requestId hr) hw
    unfold rewriteOwned at h
    rw [reading_ok_bind hreq] at h
    cases hfr : f r with
    | error e' =>
      rw [hfr] at h
      obtain rfl := Except.error.inj h
      exact .inr ⟨r, Store.mem_of_getRequest hr, hw, hfr⟩
    | ok r' =>
      rw [hfr, lift_ok_bind] at h
      have hplain : Fails Plain (updateRequest r' >>= fun request => pure (g request)) :=
        (fails_storeCall _).bind fun _ => .pure _
      exact .inl (hplain s e h)
  · obtain ⟨hx, -⟩ := rewriteOwned_disowned (f := f) (g := g) hown
    rw [h] at hx
    rcases hx with hx | hx
    · obtain rfl := Except.error.inj hx
      exact .inl trivial
    · obtain rfl := Except.error.inj hx
      exact .inl trivial

/-- The replies of the three methods that rewrite one request of `w`. -/
theorem rewriteOwned_carries {α : Type} {id : RequestId} {f : RequestRecord → CoreResult RequestRecord}
    {g : RequestRecord → α} {wrap : α → CoordinatorResponse}
    (hf : ∀ r r', r.requestId = id → r.walletInstanceId = w → f r = .ok r' → r'.identity = r.identity)
    (herror : ∀ r e, f r = .error e → SaysOf r e)
    (hreply : ∀ (s' : Store) (r' : RequestRecord), r' ∈ s'.requests.rows → r'.walletInstanceId = w →
      CarriesOnly w env s s' (.ok (wrap (g r')))) :
    CarriesOnly w env s (rewriteOwned id w f g s).2 ((rewriteOwned id w f g s).1.map wrap) := by
  rcases rewriteOwned_keepsIdentity (g := g) hf with ⟨e, hrun⟩ | ⟨r, r', hr, hw, -, hidentity, hrun⟩
  · have hcause := rewriteOwned_error (congrArg Prod.fst hrun)
    rw [hrun]
    rcases hcause with hplain | ⟨r, hr, hw, hfr⟩
    · exact .inl hplain
    · exact .inr (.inr ⟨r, hr, hw, herror r e hfr⟩)
  · rw [hrun]
    refine hreply _ r' ?_ ((walletInstanceId_of_identity hidentity).trans hw)
    have hwrite := rewritable_of_getRequest hr (requestId_of_identity hidentity)
      (clientRequestId_of_identity hidentity)
    rw [Store.mem_requests_iff, Store.getRequest_writeRequest hwrite, if_pos rfl]

theorem pullNextRequest_carries : CarriesOnly w env s (c.pullNextRequest env w s).2
    ((c.pullNextRequest env w s).1.map .pullNextRequest) := by
  by_cases hw : s.getWalletInstance w = none
  · have hrun : c.pullNextRequest env w s =
        (.error (sharedError .walletInstanceNotFound "Wallet instance was not found"), s) := by
      refine reading_error_bind ?_
      unfold requireWalletInstance
      rw [hw]
    rw [hrun]
    exact .inl trivial
  rw [pullNextRequest_eq_decision hw]
  cases hdecision : c.pullDecision env (findResumableRequest env w s)
      (s.nextCreatedRequest env.requestScan w) with
  | error e =>
    unfold pullDecision at hdecision
    split at hdecision
    · rcases bind_eq_error hdecision with h₁ | ⟨_, -, h₁⟩
      · exact .inl (resumedRecord_plain h₁)
      · cases h₁
    · rcases bind_eq_error hdecision with h₁ | ⟨_, -, h₁⟩
      · exact .inr (.inl h₁)
      rcases bind_eq_error h₁ with h₂ | ⟨_, -, h₂⟩
      · exact .inl (addLease_plain h₂)
      · cases h₂
  | ok x =>
    cases x with
    | none => exact ⟨rfl, fun p hp => (nomatch hp)⟩
    | some written =>
      obtain ⟨request, resume⟩ := written
      obtain ⟨id, r, hr, hown, hidentity⟩ := pullDecision_spec hdecision
      have hwrite := rewritable_of_getRequest hr (requestId_of_identity hidentity)
        (clientRequestId_of_identity hidentity)
      refine ⟨rfl, fun p hp => ⟨request, ?_, (walletInstanceId_of_identity hidentity).trans hown, resume,
        (Option.some.inj hp).symm⟩⟩
      rw [Store.mem_requests_iff, Store.getRequest_writeRequest hwrite, if_pos rfl]

theorem fails_upsertWalletInstance (row : WalletInstanceRecord) :
    Fails Plain (upsertWalletInstance row) := by
  intro s e h
  cases h

theorem fails_requireWalletInstance : Fails Plain (reading (requireWalletInstance w)) := by
  intro s e h
  change requireWalletInstance w s = .error e at h
  unfold requireWalletInstance at h
  split at h
  · cases h
  · obtain rfl := Except.error.inj h
    trivial

theorem fails_registerBackend (command : RegisterBackendCommand) :
    Fails Plain (registerBackend env command) := by
  refine Fails.bind (fun s e h => ?_) fun _ => (fails_upsertWalletInstance _).bind fun _ =>
    fails_storeCall _
  simp only [reading] at h
  split at h
  · split_ifs at h
    obtain rfl := Except.error.inj h
    trivial
  · cases h

theorem fails_updateBackendAccounts (command : UpdateBackendAccountsCommand) :
    Fails Plain (updateBackendAccounts env command) :=
  fails_requireWalletInstance.bind fun _ => (fails_upsertWalletInstance _).bind fun _ =>
    fails_storeCall _

theorem fails_heartbeatBackend (command : HeartbeatBackendCommand) :
    Fails Plain (c.heartbeatBackend env command) := by
  refine fails_requireWalletInstance.bind fun _ => (fails_upsertWalletInstance _).bind fun _ => ?_
  split_ifs
  · exact .pure _
  refine (Fails.lift fun e he => addLease_plain he).bind fun t s e h => ?_
  obtain ⟨s', hrun, -⟩ := heartbeat_loop command.walletInstanceId (env.now 0) t
    command.presentedRequestIds s
  rw [hrun] at h
  cases h

theorem carriesOnly_ack {m : CoreM Unit} {s' : Store} (h : Fails Plain m) :
    CarriesOnly w env s s' ((m s).1.map fun _ => .ack) := by
  cases hm : (m s).1 with
  | ok u => exact trivial
  | error e => exact .inl (h s e hm)

theorem dispatch_carriesOnly {command : CoordinatorCommand} (hname : InNameOf w command) :
    CarriesOnly w env s (c.step s ⟨env, command⟩) (c.reply s ⟨env, command⟩) := by
  unfold Coordinator.step Coordinator.reply
  cases hname with
  | requestHasAvailable =>
    refine ⟨rfl, requestHasAvailable_iff.trans ?_⟩
    constructor
    · rintro (⟨r, hr, hw, hs⟩ | ⟨r, hr, hw, hs⟩)
      · exact ⟨r, hr, hw, .inl hs⟩
      · exact ⟨r, hr, hw, .inr hs⟩
    · rintro ⟨r, hr, hw, hs | hs⟩
      · exact .inl ⟨r, hr, hw, hs⟩
      · exact .inr ⟨r, hr, hw, hs⟩
  | pullNextRequest =>
    simp only [dispatch, map_apply]
    exact pullNextRequest_carries
  | @markRequestPresented command hw =>
    subst hw
    simp only [dispatch, map_apply, markRequestPresented_eq]
    exact rewriteOwned_carries (fun r r' hid hw h =>
      (edit_of_presentedRecord (s := s) hid hw h).identity_eq) (fun r e => presentedRecord_saysOf)
      fun s' r' hr' hw' => ⟨r', hr', hw', rfl⟩
  | @resolveRequest command hw =>
    subst hw
    simp only [dispatch, map_apply, resolveRequest_eq]
    exact rewriteOwned_carries (fun r r' hid hw h =>
      (edit_of_resolvedRecord (s := s) hid hw h).identity_eq) (fun r e => resolvedRecord_saysOf)
      fun s' r' hr' hw' => ⟨r', hr', hw', rfl⟩
  | @rejectRequest command hw =>
    subst hw
    simp only [dispatch, map_apply, rejectRequest_eq]
    exact rewriteOwned_carries (fun r r' hid hw h =>
      (edit_of_rejectedRecord (c := c) (s := s) hid hw h).identity_eq) (fun r e => rejectedRecord_saysOf)
      fun s' r' hr' hw' => ⟨r', hr', hw', rfl⟩
  | heartbeatExtension =>
    simp only [dispatch, map_apply, heartbeatExtension]
    exact carriesOnly_ack (fails_heartbeatBackend _)
  | heartbeatBackend =>
    simp only [dispatch, map_apply]
    exact carriesOnly_ack (fails_heartbeatBackend _)
  | registerExtension =>
    simp only [dispatch, map_apply, registerExtension_eq]
    exact carriesOnly_ack (fails_registerBackend _)
  | registerBackend =>
    simp only [dispatch, map_apply]
    exact carriesOnly_ack (fails_registerBackend _)
  | updateExtensionAccounts =>
    simp only [dispatch, map_apply, updateExtensionAccounts]
    exact carriesOnly_ack (fails_updateBackendAccounts _)
  | updateBackendAccounts =>
    simp only [dispatch, map_apply]
    exact carriesOnly_ack (fails_updateBackendAccounts _)

end Replies

/-- Wallets are isolated: a command in the name of `w` changes no row of another wallet, says
nothing of another wallet's requests, and cannot tell two stores apart that agree on the rows
of `w`. -/
theorem wallet_isolation (c : Coordinator) (w : WalletInstanceId) (command : CoordinatorCommand)
    (hname : InNameOf w command) (env : Env) (s : Store) :
    (AgreeOn (· ≠ w) s (c.step s ⟨env, command⟩) ∧ LabelsAgreeOn (· ≠ w) s (c.step s ⟨env, command⟩)) ∧
    CarriesOnly w env s (c.step s ⟨env, command⟩) (c.reply s ⟨env, command⟩) ∧
    ∀ (env' : Env) (s' : Store), SameSurroundings env env' → AgreeOn (· = w) s s' →
      TiesAlike w env s env' s' →
      SameAnswer w command s s' (c.reply s ⟨env, command⟩) (c.reply s' ⟨env', command⟩) ∧
      AgreeOn (· = w) (c.step s ⟨env, command⟩) (c.step s' ⟨env', command⟩) ∧
      (LabelsAgreeOn (· = w) s s' →
        LabelsAgreeOn (· = w) (c.step s ⟨env, command⟩) (c.step s' ⟨env', command⟩)) := by
  have hframe : Alike True (· ≠ w) s (c.step s ⟨env, command⟩) := dispatch_frame hname fun h => h rfl
  refine ⟨⟨hframe.1, hframe.2 trivial⟩, dispatch_carriesOnly hname, fun env' s' hsame hagree hties => ?_⟩
  have halike : Alike (LabelsAgreeOn (· = w) s s') (· = w) s s' := ⟨hagree, id⟩
  obtain ⟨hanswer, hafter⟩ := dispatch_agree (c := c) hname hsame hties halike
  exact ⟨hanswer, hafter.1, hafter.2⟩

namespace Session

def otherWallet : WalletInstanceId := ⟨"wallet-2", .refl false⟩

/-- A second wallet, an extension with one account. -/
def registerOther (t : TimestampMs) : Step where
  env := env t lease₁
  command := .registerExtension ⟨otherWallet, "extension", "1.0", 2, none, .unlocked,
    [⟨otherWallet, "0x2", none, none, true, false, false, t⟩]⟩

/-- An update by the first wallet of an account that says it is the second one's. -/
def updateForeign (t : TimestampMs) : Step where
  env := env t lease₁
  command := .updateBackendAccounts ⟨wallet, .unlocked, [.createAccount],
    [⟨otherWallet, "0x3", none, none, false, false, false, t⟩]⟩

/-- The first wallet sees no difference when the second one registers. -/
theorem registerOther_unseen (s : Store) :
    AgreeOn (· = wallet) s (coordinator.step s (registerOther 500)) := by
  have hname : InNameOf otherWallet (registerOther 500).command :=
    .registerExtension rfl fun a ha => by rw [List.mem_singleton.mp ha]
  have hp : ¬ otherWallet = wallet := by decide
  have hframe : Alike False (· = wallet) s (coordinator.step s (registerOther 500)) :=
    dispatch_frame hname hp
  exact hframe.1

end Session

open Session in
/-- The coordinator itself does not look whose accounts they are: those that are not stamped with
the wallet become accounts of another one. -/
theorem foreign_account_stored :
    (∃ command, (updateForeign 1000).command = .updateBackendAccounts command ∧
      command.walletInstanceId = wallet) ∧
    ¬ AgreeOn (· ≠ wallet) (coordinator.run [register 0, registerOther 500])
      (coordinator.step (coordinator.run [register 0, registerOther 500]) (updateForeign 1000)) := by
  refine ⟨⟨_, rfl, rfl⟩, fun hagree => ?_⟩
  have hsame := hagree.accounts otherWallet "0x3" (by decide)
  have hbefore : ((coordinator.run [register 0, registerOther 500]).walletAccounts.find
      (otherWallet, "0x3")).isSome = false := by decide +kernel
  have hafter : ((coordinator.step (coordinator.run [register 0, registerOther 500])
      (updateForeign 1000)).walletAccounts.find (otherWallet, "0x3")).isSome = true := by decide +kernel
  rw [← hsame, hbefore] at hafter
  cases hafter

open Session in
/-- A pull hands out the same request whether or not another wallet has registered meanwhile. -/
theorem wallet_isolation_pull :
    coordinator.reply (coordinator.run [register 0, create 0]) (pull 1000 lease₁) =
      coordinator.reply (coordinator.run ([register 0, create 0] ++ [registerOther 500]))
        (pull 1000 lease₁) := by
  rw [Coordinator.run_snoc]
  have hrequests : (coordinator.step (coordinator.run [register 0, create 0])
      (registerOther 500)).requests = (coordinator.run [register 0, create 0]).requests := by
    unfold Coordinator.step registerOther
    simp only [dispatch, map_apply]
    exact keepsRequests_registerBackend _ _ _
  have hties : TiesAlike wallet (env 1000 lease₁) (coordinator.run [register 0, create 0])
      (env 1000 lease₁) (coordinator.step (coordinator.run [register 0, create 0])
        (registerOther 500)) := by
    constructor
    · intro t
      unfold Store.listNonTerminalRequests
      rw [hrequests]
    · intro t
      unfold createdQueue
      rw [hrequests]
  obtain ⟨hanswer, -, -⟩ := (wallet_isolation coordinator wallet (.pullNextRequest wallet)
    .pullNextRequest (env 1000 lease₁) (coordinator.run [register 0, create 0])).2.2
      (env 1000 lease₁) _ ⟨rfl, rfl, rfl, rfl⟩ (registerOther_unseen _) hties
  rcases hanswer with hsame | ⟨id, hid, -⟩
  · exact hsame
  · exact hid.elim

end StarcoinMcp.Starmask
