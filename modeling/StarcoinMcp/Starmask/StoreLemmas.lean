import StarcoinMcp.Starmask.Coordinator

/-! How the request table answers after a write. A record that was read from the
store and written back with its ids unchanged never meets the unique index, so the
update succeeds and changes the row of that request only. -/

namespace StarcoinMcp.Starmask

namespace Store

/-- The wallet tables of the two stores agree. -/
def SameWallets (s s' : Store) : Prop :=
  s'.walletInstances = s.walletInstances ∧ s'.walletAccounts = s.walletAccounts ∧
    s'.walletAccountLabels = s.walletAccountLabels

theorem SameWallets.refl (s : Store) : s.SameWallets s := ⟨rfl, rfl, rfl⟩

theorem SameWallets.trans {s t u : Store} (h : s.SameWallets t) (h' : t.SameWallets u) :
    s.SameWallets u :=
  ⟨h'.1.trans h.1, h'.2.1.trans h.2.1, h'.2.2.trans h.2.2⟩

theorem getRequest_requestId {s : Store} {id : RequestId} {r : RequestRecord}
    (h : s.getRequest id = some r) : r.requestId = id := Table.key_of_find h

theorem mem_requests_iff {s : Store} {r : RequestRecord} :
    r ∈ s.requests.rows ↔ s.getRequest r.requestId = some r := Table.mem_iff_find

theorem mem_of_getRequest {s : Store} {id : RequestId} {r : RequestRecord}
    (h : s.getRequest id = some r) : r ∈ s.requests.rows := Table.mem_of_find h

theorem eq_of_clientRequestId {s : Store} {r r' : RequestRecord} (hr : r ∈ s.requests.rows)
    (hr' : r' ∈ s.requests.rows) (h : r.clientRequestId = r'.clientRequestId) : r = r' :=
  List.inj_on_of_nodup_map s.clientIds hr hr' h

theorem getRequestByClientRequestId_of_mem {s : Store} {r : RequestRecord}
    (h : r ∈ s.requests.rows) : s.getRequestByClientRequestId r.clientRequestId = some r := by
  unfold getRequestByClientRequestId
  cases hf : s.requests.rows.find? (fun x => x.clientRequestId = r.clientRequestId) with
  | none =>
    have hnone := List.find?_eq_none.mp hf r h
    simp at hnone
  | some x =>
    have hx : x.clientRequestId = r.clientRequestId := by simpa using List.find?_some hf
    rw [eq_of_clientRequestId (List.mem_of_find?_eq_some hf) h hx]

theorem getRequestByClientRequestId_eq_none {s : Store} {id : ClientRequestId} :
    s.getRequestByClientRequestId id = none ↔ ∀ r ∈ s.requests.rows, r.clientRequestId ≠ id := by
  simp [getRequestByClientRequestId, List.find?_eq_none]

end Store

theorem orderBy_pairwise {scan : Scan RequestRecord} {rows : List RequestRecord} :
    (scan.orderBy RequestRecord.createdAt rows).Pairwise fun a b => a.createdAt ≤ b.createdAt :=
  List.pairwise_insertionSort _ _

namespace Store

/-! ## Updates of stored records -/

/-- `r` may be written back: its row exists and carries the same client request id. -/
def Rewritable (s : Store) (r : RequestRecord) : Prop :=
  ∃ r₀, s.getRequest r.requestId = some r₀ ∧ r₀.clientRequestId = r.clientRequestId

/-- The store after an update that is known to succeed. -/
def writeRequest (s : Store) (r : RequestRecord) : Store :=
  match s.updateRequest r with
  | .ok (_, s') => s'
  | .error _ => s

theorem Rewritable.unique {s : Store} {r : RequestRecord} (h : s.Rewritable r) :
    ∀ x ∈ s.requests.rows, x.requestId ≠ r.requestId → x.clientRequestId ≠ r.clientRequestId := by
  obtain ⟨r₀, hr₀, hc⟩ := h
  intro x hx hne he
  have hxr : x = r₀ := eq_of_clientRequestId hx (mem_of_getRequest hr₀) (he.trans hc.symm)
  exact hne (hxr ▸ getRequest_requestId hr₀)

theorem updateRequest_eq {s : Store} {r : RequestRecord} (h : s.Rewritable r) :
    s.updateRequest r = .ok (r, s.writeRequest r) := by
  unfold writeRequest updateRequest
  rw [dif_pos h.unique]

theorem writeRequest_requests {s : Store} {r : RequestRecord} (h : s.Rewritable r) :
    (s.writeRequest r).requests = s.requests.update r := by
  unfold writeRequest updateRequest
  rw [dif_pos h.unique]

theorem getRequest_writeRequest {s : Store} {r : RequestRecord} (h : s.Rewritable r) (id : RequestId) :
    (s.writeRequest r).getRequest id = if id = r.requestId then some r else s.getRequest id := by
  unfold getRequest
  rw [writeRequest_requests h, Table.find_update]
  by_cases hid : id = r.requestId
  · obtain ⟨r₀, hr₀, -⟩ := h
    have hfind : s.requests.find r.requestId = some r₀ := hr₀
    simp [hid, hfind]
  · simp [hid]

theorem sameWallets_writeRequest (s : Store) (r : RequestRecord) : s.SameWallets (s.writeRequest r) := by
  unfold writeRequest updateRequest
  split
  · rename_i heq
    split_ifs at heq <;> cases heq <;> exact ⟨rfl, rfl, rfl⟩
  · exact SameWallets.refl s

end Store

theorem reading_ok_bind {α β : Type} {f : Store → CoreResult α} {k : α → CoreM β} {s : Store} {a : α}
    (h : f s = .ok a) : (reading f >>= k) s = k a s :=
  FailState.bind_ok (show reading f s = (.ok a, s) by unfold reading; rw [h])

theorem reading_error_bind {α β : Type} {f : Store → CoreResult α} {k : α → CoreM β} {s : Store}
    {e : CoreError} (h : f s = .error e) : (reading f >>= k) s = (.error e, s) :=
  FailState.bind_error (show reading f s = (.error e, s) by unfold reading; rw [h])

theorem storeCall_ok {α : Type} {f : Store → Except RepositoryError (α × Store)} {s s' : Store} {a : α}
    (h : f s = .ok (a, s')) : storeCall f s = (.ok a, s') :=
  FailState.call_ok (by rw [h]; rfl)

theorem storeCall_error {α : Type} {f : Store → Except RepositoryError (α × Store)} {s : Store}
    {e : RepositoryError} (h : f s = .error e) : storeCall f s = (.error (.repository e), s) :=
  FailState.call_error (by rw [h]; rfl)

theorem updateRequest_apply {s : Store} {r : RequestRecord} (h : s.Rewritable r) :
    updateRequest r s = (.ok r, s.writeRequest r) := storeCall_ok (Store.updateRequest_eq h)

/-! ## Rewriting every request -/

/-- The requests of `s'` are those of `s`, each mapped through `f`; nothing else changed. -/
structure Rewritten (f : RequestRecord → RequestRecord) (s s' : Store) : Prop where
  requests : ∀ id, s'.getRequest id = (s.getRequest id).map f
  wallets : s.SameWallets s'

/-- A rewriting that leaves the two identifiers of a record alone. -/
def KeepsIds (f : RequestRecord → RequestRecord) : Prop :=
  ∀ r, (f r).requestId = r.requestId ∧ (f r).clientRequestId = r.clientRequestId

theorem Rewritten.refl (s : Store) : Rewritten id s s :=
  ⟨fun id => by simp, Store.SameWallets.refl s⟩

theorem Rewritten.trans {f g : RequestRecord → RequestRecord} {s t u : Store}
    (h : Rewritten f s t) (h' : Rewritten g t u) : Rewritten (g ∘ f) s u := by
  refine ⟨fun id => ?_, h.wallets.trans h'.wallets⟩
  rw [h'.requests, h.requests, Option.map_map]

theorem Rewritten.congr {f g : RequestRecord → RequestRecord} {s t : Store} (h : Rewritten f s t)
    (hfg : ∀ r ∈ s.requests.rows, f r = g r) : Rewritten g s t := by
  refine ⟨fun id => ?_, h.wallets⟩
  rw [h.requests]
  cases hr : s.getRequest id with
  | none => rfl
  | some r => simp [hfg r (Store.mem_of_getRequest hr)]

theorem rewritable_of_getRequest {s : Store} {id : RequestId} {r r' : RequestRecord}
    (h : s.getRequest id = some r) (hid : r'.requestId = r.requestId)
    (hc : r'.clientRequestId = r.clientRequestId) : s.Rewritable r' := by
  refine ⟨r, ?_, hc.symm⟩
  rw [hid, Store.getRequest_requestId h]
  exact h

theorem rewritten_writeRequest {s : Store} {id : RequestId} {r r' : RequestRecord}
    (h : s.getRequest id = some r) (hid : r'.requestId = r.requestId)
    (hc : r'.clientRequestId = r.clientRequestId) :
    Rewritten (fun x => if x.requestId = id then r' else x) s (s.writeRequest r') := by
  refine ⟨fun k => ?_, s.sameWallets_writeRequest r'⟩
  have hrid : r'.requestId = id := hid.trans (Store.getRequest_requestId h)
  rw [Store.getRequest_writeRequest (rewritable_of_getRequest h hid hc), hrid]
  by_cases hk : k = id
  · subst hk
    simp [h, Store.getRequest_requestId h]
  · rw [if_neg hk]
    cases hx : s.getRequest k with
    | none => rfl
    | some x => simp [Store.getRequest_requestId hx, hk]

/-- A loop over stored rows with distinct ids, each round of which rewrites its own row. -/
theorem foldlM_rewritten {γ : Type} (round : γ → RequestRecord → CoreM γ)
    (count : γ → RequestRecord → γ) (f : RequestRecord → RequestRecord) (P : RequestRecord → Prop)
    (hids : KeepsIds f)
    (hround : ∀ g r s, s.getRequest r.requestId = some r → P r →
      ∃ s', round g r s = (.ok (count g r), s') ∧
        Rewritten (fun x => if x.requestId = r.requestId then f r else x) s s') :
    ∀ (l : List RequestRecord) (s : Store) (g : γ),
      (∀ r ∈ l, s.getRequest r.requestId = some r ∧ P r) → (l.map RequestRecord.requestId).Nodup →
      ∃ s', l.foldlM round g s = (.ok (l.foldl count g), s') ∧
        Rewritten (fun x => if x ∈ l then f x else x) s s'
  | [], s, g, _, _ => ⟨s, rfl, (Rewritten.refl s).congr fun r _ => by simp⟩
  | r :: l, s, g, hl, hnodup => by
    obtain ⟨hr, hP⟩ := hl r (List.mem_cons_self ..)
    obtain ⟨s₁, hrun, hw₁⟩ := hround g r s hr hP
    rw [List.map_cons, List.nodup_cons] at hnodup
    -- the rows still to come are untouched by this round
    have hother : ∀ x ∈ l, x.requestId ≠ r.requestId :=
      fun x hx he => hnodup.1 (he ▸ List.mem_map_of_mem hx)
    have hl₁ : ∀ x ∈ l, s₁.getRequest x.requestId = some x ∧ P x := by
      intro x hx
      obtain ⟨hfind, hPx⟩ := hl x (List.mem_cons_of_mem _ hx)
      refine ⟨?_, hPx⟩
      rw [hw₁.requests, hfind]
      simp [hother x hx]
    obtain ⟨s₂, hrest, hw₂⟩ := foldlM_rewritten round count f P hids hround l s₁ (count g r) hl₁ hnodup.2
    refine ⟨s₂, ?_, (hw₁.trans hw₂).congr ?_⟩
    · rw [List.foldlM_cons, FailState.bind_ok hrun, hrest]
      rfl
    · intro x hx
      have hfx : s.getRequest x.requestId = some x := Store.mem_requests_iff.mp hx
      by_cases hxr : x.requestId = r.requestId
      · have hxeq : x = r := by
          rw [hxr, hr] at hfx
          exact (Option.some.inj hfx).symm
        subst hxeq
        have hnot : f x ∉ l := fun hm => hother _ hm (hids x).1
        simp [hnot]
      · have hne : x ≠ r := fun e => hxr (congrArg _ e)
        simp [hxr, hne]

/-! ## Reading one record, changing it and writing it back -/

theorem requireWalletInstance_error {w : WalletInstanceId} {s : Store} {e : CoreError}
    (h : requireWalletInstance w s = .error e) : s.getWalletInstance w = none := by
  unfold requireWalletInstance at h
  split at h
  · cases h
  · assumption

theorem requireWalletInstance_some {w : WalletInstanceId} {s : Store} {wallet : WalletInstanceRecord}
    (h : requireWalletInstance w s = .ok wallet) : s.getWalletInstance w = some wallet := by
  unfold requireWalletInstance at h
  split at h
  · next found hfound =>
    rw [hfound, Except.ok.inj h]
  · cases h

theorem requireWalletInstance_ok {w : WalletInstanceId} {s : Store} {wallet : WalletInstanceRecord}
    (h : requireWalletInstance w s = .ok wallet) : s.getWalletInstance w ≠ none := by
  rw [requireWalletInstance_some h]
  simp

theorem requireOwnedRequest_of_owned {id k : RequestId} {w : WalletInstanceId} {s : Store}
    {r : RequestRecord} (hr : s.getRequest k = some r) (hid : r.requestId = id)
    (hw : r.walletInstanceId = w) : requireOwnedRequest id w s = .ok r := by
  have hget : s.getRequest id = some r := by rw [← hid, Store.getRequest_requestId hr, hr]
  unfold requireOwnedRequest
  rw [hget]
  simp [hw]

theorem requireOwnedRequest_eq_ok {id : RequestId} {w : WalletInstanceId} {s : Store}
    {r : RequestRecord} (h : requireOwnedRequest id w s = .ok r) :
    s.getRequest id = some r ∧ r.walletInstanceId = w := by
  unfold requireOwnedRequest at h
  split at h
  · cases h
  · rename_i r' hr'
    split_ifs at h with hw
    cases h
    exact ⟨hr', not_not.mp hw⟩

/-- The shape of `mark_request_presented`, `resolve_request` and `reject_request`. -/
def rewriteOwned {α : Type} (id : RequestId) (w : WalletInstanceId)
    (f : RequestRecord → CoreResult RequestRecord) (g : RequestRecord → α) : CoreM α := do
  let request ← reading (requireOwnedRequest id w)
  let request ← FailState.lift (f request)
  let request ← updateRequest request
  pure (g request)

theorem rewriteOwned_ok {α : Type} {id : RequestId} {w : WalletInstanceId}
    {f : RequestRecord → CoreResult RequestRecord} {g : RequestRecord → α} {s : Store}
    {r r' : RequestRecord} (hown : requireOwnedRequest id w s = .ok r) (hf : f r = .ok r')
    (hid : r'.requestId = r.requestId) (hc : r'.clientRequestId = r.clientRequestId) :
    rewriteOwned id w f g s = (.ok (g r'), s.writeRequest r') := by
  have hr := (requireOwnedRequest_eq_ok hown).1
  unfold rewriteOwned
  rw [reading_ok_bind hown, hf, FailState.lift_ok_bind,
    FailState.bind_ok (updateRequest_apply (rewritable_of_getRequest hr hid hc))]
  rfl

theorem rewriteOwned_cases {α : Type} {id : RequestId} {w : WalletInstanceId}
    {f : RequestRecord → CoreResult RequestRecord} {g : RequestRecord → α} {s : Store}
    (hf : ∀ r r', s.getRequest id = some r → r.walletInstanceId = w → f r = .ok r' →
      r'.requestId = r.requestId ∧ r'.clientRequestId = r.clientRequestId) :
    (∃ e, rewriteOwned id w f g s = (.error e, s)) ∨
    ∃ r r', s.getRequest id = some r ∧ r.walletInstanceId = w ∧ f r = .ok r' ∧
      rewriteOwned id w f g s = (.ok (g r'), s.writeRequest r') ∧
      Rewritten (fun x => if x.requestId = id then r' else x) s (s.writeRequest r') := by
  cases hown : requireOwnedRequest id w s with
  | error e => exact .inl ⟨e, reading_error_bind hown⟩
  | ok r =>
    obtain ⟨hr, hw⟩ := requireOwnedRequest_eq_ok hown
    cases hfr : f r with
    | error e =>
      refine .inl ⟨e, ?_⟩
      unfold rewriteOwned
      rw [reading_ok_bind hown, hfr]
      rfl
    | ok r' =>
      obtain ⟨hid, hc⟩ := hf r r' hr hw hfr
      exact .inr ⟨r, r', hr, hw, hfr, rewriteOwned_ok hown hfr hid hc, rewritten_writeRequest hr hid hc⟩

end StarcoinMcp.Starmask
