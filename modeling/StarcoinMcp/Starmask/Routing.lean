import Mathlib.Data.List.Destutter
import StarcoinMcp.Starmask.Idempotency

/-! Which wallet a new request goes to. The rule is a statement about the tables, not about
the order of their rows: the caller's choice if it exposes the account, else the only instance
that does, provided it can serve the request now. A create command succeeds just when the rule
names a wallet. -/

namespace StarcoinMcp.Starmask

open Coordinator

/-! ## The rule -/

/-- The account table has a row for this address under this instance. -/
def Store.Exposes (s : Store) (address : String) (w : WalletInstanceId) : Prop :=
  ∃ a ∈ s.walletAccounts.rows, a.walletInstanceId = w ∧ a.address = address

/-- `w` is the caller's choice and exposes the account, or nothing was chosen and only `w` does. -/
def Store.Chosen (s : Store) (address : String) (target : Option WalletInstanceId)
    (w : WalletInstanceId) : Prop :=
  (target = some w ∧ s.Exposes address w) ∨
    (target = none ∧ s.Exposes address w ∧ ∀ w', s.Exposes address w' → w' = w)

/-- `w` is registered, advertises the capability of the kind and is connected. -/
def Store.Serves (s : Store) (kind : RequestKind) (w : WalletInstanceId) : Prop :=
  ∃ wallet, s.getWalletInstance w = some wallet ∧ capabilityForRequest kind ∈ wallet.capabilities ∧
    wallet.connected = true

/-- `w` is unlocked, or can unlock itself. -/
def Store.Unlockable (s : Store) (w : WalletInstanceId) : Prop :=
  ∃ wallet, s.getWalletInstance w = some wallet ∧
    (wallet.lockState = .unlocked ∨ WalletCapability.unlock ∈ wallet.capabilities)

/-- The account can sign. -/
def Store.Signs (s : Store) (address : String) (w : WalletInstanceId) : Prop :=
  ∃ account, s.getWalletAccount w address = some account ∧ account.isReadOnly = false

/-- The wallet for a request of this kind. -/
def Store.Routes (s : Store) (kind : RequestKind) (address : String) (target : Option WalletInstanceId)
    (w : WalletInstanceId) : Prop :=
  match kind with
  | .createAccount | .importAccount => target = some w ∧ s.Serves kind w
  | .signTransaction | .signMessage | .exportAccount =>
    s.Chosen address target w ∧ s.Serves kind w ∧ s.Unlockable w ∧ s.Signs address w

/-! ## Selecting an instance -/

section Selecting

variable {accounts accounts' : List WalletAccountRecord} {address : String} {w w' : WalletInstanceId}

def InstanceBefore (a b : WalletInstanceId) : Prop := a.value ≤ b.value

instance : Std.Antisymm InstanceBefore where
  antisymm a b hab hba := by
    have hvalue : a.value = b.value := String.le_antisymm hab hba
    cases a
    cases b
    cases hvalue
    rfl

instance : Std.Total InstanceBefore where
  total a b := String.le_total a.value b.value

instance : IsTrans WalletInstanceId InstanceBefore where
  trans _ _ _ hab hbc := String.le_trans hab hbc

instance : DecidableRel InstanceBefore := fun a b => inferInstanceAs (Decidable (a.value ≤ b.value))

/-- Sorted, what repeats stands side by side. -/
theorem exposingInstances_eq (accounts : List WalletAccountRecord) (address : String) :
    exposingInstances accounts address = (((accounts.filter fun a => a.address = address).map
      WalletAccountRecord.walletInstanceId).insertionSort InstanceBefore).dedup :=
  (List.pairwise_insertionSort InstanceBefore _).destutter_eq_dedup

theorem nodup_exposingInstances : (exposingInstances accounts address).Nodup := by
  rw [exposingInstances_eq]
  exact List.nodup_dedup _

theorem mem_exposingInstances : w ∈ exposingInstances accounts address ↔
    ∃ a ∈ accounts, a.walletInstanceId = w ∧ a.address = address := by
  rw [exposingInstances_eq, List.mem_dedup, List.mem_insertionSort, List.mem_map]
  simp only [List.mem_filter, decide_eq_true_eq]
  constructor
  · rintro ⟨a, ⟨ha, haddress⟩, hw⟩
    exact ⟨a, ha, hw, haddress⟩
  · rintro ⟨a, ha, hw, haddress⟩
    exact ⟨a, ⟨ha, haddress⟩, hw⟩

theorem selectInstance_ok_iff : selectInstance accounts address = .ok w ↔
    w ∈ exposingInstances accounts address ∧ ∀ w' ∈ exposingInstances accounts address, w' = w := by
  have hnodup : (exposingInstances accounts address).Nodup := nodup_exposingInstances
  unfold selectInstance
  generalize exposingInstances accounts address = found at hnodup
  match found with
  | [] => simp
  | [x] => simp [eq_comm]
  | x :: y :: rest =>
    have hne : x ≠ y := fun h => (List.nodup_cons.mp hnodup).1 (h ▸ List.mem_cons_self ..)
    constructor
    · intro h
      cases h
    · rintro ⟨-, hall⟩
      have hx := hall x (by simp)
      have hy := hall y (by simp)
      exact absurd (hx.trans hy.symm) hne

theorem selectInstance_of_two (hw : w ∈ exposingInstances accounts address)
    (hw' : w' ∈ exposingInstances accounts address) (hne : w ≠ w') :
    selectInstance accounts address = .error (sharedError .walletSelectionRequired
      "Multiple wallet instances expose the requested account") := by
  unfold selectInstance
  generalize exposingInstances accounts address = found at hw hw'
  match found with
  | [] => cases hw
  | [x] =>
    rw [List.mem_singleton.mp hw, List.mem_singleton.mp hw'] at hne
    exact absurd rfl hne
  | x :: y :: rest => rfl

/-- The order in which the accounts are listed does not matter. -/
theorem exposingInstances_perm (h : accounts.Perm accounts') :
    exposingInstances accounts address = exposingInstances accounts' address := by
  have hmap := (h.filter fun a => a.address = address).map WalletAccountRecord.walletInstanceId
  have hsorted : ((accounts.filter fun a => a.address = address).map
      WalletAccountRecord.walletInstanceId).insertionSort InstanceBefore =
      ((accounts'.filter fun a => a.address = address).map
        WalletAccountRecord.walletInstanceId).insertionSort InstanceBefore := by
    refine List.Perm.eq_of_pairwise' (List.pairwise_insertionSort InstanceBefore _)
      (List.pairwise_insertionSort InstanceBefore _) ?_
    exact ((List.perm_insertionSort _ _).trans hmap).trans (List.perm_insertionSort _ _).symm
  rw [exposingInstances_eq, exposingInstances_eq, hsorted]

end Selecting

/-! ## Resolving the wallet -/

section Resolving

variable {s : Store} {kind : RequestKind} {address : String} {target : Option WalletInstanceId}
  {w w' : WalletInstanceId}

theorem exposes_iff_listed : s.Exposes address w ↔
    ∃ a ∈ s.listWalletAccounts none, a.walletInstanceId = w ∧ a.address = address := by
  have hlist : ∀ b : WalletAccountRecord, b ∈ s.listWalletAccounts none ↔
      ∃ a ∈ s.walletAccounts.rows, s.joinedAccount a = b := by
    intro b
    simp [Store.listWalletAccounts]
  constructor
  · rintro ⟨a, ha, hw, haddress⟩
    exact ⟨s.joinedAccount a, (hlist _).mpr ⟨a, ha, rfl⟩, hw, haddress⟩
  · rintro ⟨b, hb, hw, haddress⟩
    obtain ⟨a, ha, rfl⟩ := (hlist b).mp hb
    exact ⟨a, ha, hw, haddress⟩

theorem exposes_iff_getWalletAccount : s.Exposes address w ↔
    (s.getWalletAccount w address).isSome = true := by
  unfold Store.getWalletAccount Store.Exposes
  rw [Option.isSome_map]
  constructor
  · rintro ⟨a, ha, hw, haddress⟩
    have hfind := Table.find_of_mem ha
    have hkey : a.key = (w, address) := Prod.ext hw haddress
    rw [hkey] at hfind
    rw [hfind]
    rfl
  · intro h
    obtain ⟨a, hfind⟩ := Option.isSome_iff_exists.mp h
    have hkey : a.key = (w, address) := Table.key_of_find hfind
    exact ⟨a, Table.mem_of_find hfind, congrArg Prod.fst hkey, congrArg Prod.snd hkey⟩

theorem resolveWalletInstanceForAccount_ok_iff :
    resolveWalletInstanceForAccount address target s = .ok w ↔ s.Chosen address target w := by
  unfold resolveWalletInstanceForAccount Store.Chosen
  cases target with
  | some chosen =>
    dsimp only
    simp only [reduceCtorEq, false_and, or_false, Option.some.injEq]
    constructor
    · intro h
      split_ifs at h with hnone
      obtain rfl := Except.ok.inj h
      refine ⟨rfl, exposes_iff_getWalletAccount.mpr ?_⟩
      simpa [Option.isSome_iff_ne_none] using hnone
    · rintro ⟨rfl, hexposes⟩
      have hsome := exposes_iff_getWalletAccount.mp hexposes
      rw [if_neg (by simpa [Option.isSome_iff_ne_none] using hsome)]
  | none =>
    dsimp only
    rw [selectInstance_ok_iff]
    simp only [mem_exposingInstances, ← exposes_iff_listed, reduceCtorEq, false_and, false_or, true_and]

theorem requireWalletInstance_ok_iff {wallet : WalletInstanceRecord} :
    requireWalletInstance w s = .ok wallet ↔ s.getWalletInstance w = some wallet := by
  unfold requireWalletInstance
  cases s.getWalletInstance w with
  | none => simp
  | some found => simp

theorem resolveWalletForSigning_ok_iff : resolveWalletForSigning kind address target s = .ok w ↔
    s.Chosen address target w ∧ s.Serves kind w ∧ s.Unlockable w ∧ s.Signs address w := by
  unfold resolveWalletForSigning
  simp only [bind_eq_ok_iff, guard_eq_ok_iff, requireWalletInstance_ok_iff,
    resolveWalletInstanceForAccount_ok_iff]
  constructor
  · rintro ⟨selected, hchosen, wallet, hwallet, hcapability, hconnected, hlock, haccount⟩
    cases hfound : s.getWalletAccount selected address with
    | none =>
      rw [hfound] at haccount
      cases haccount
    | some account =>
      rw [hfound] at haccount
      obtain ⟨hreadOnly, hw⟩ := guard_eq_ok haccount
      obtain rfl := Except.ok.inj hw
      refine ⟨hchosen, ⟨wallet, hwallet, by simpa using hcapability, by simpa using hconnected⟩,
        ⟨wallet, hwallet, ?_⟩, ⟨account, hfound, by simpa using hreadOnly⟩⟩
      by_contra hneither
      exact hlock (not_or.mp hneither)
  · rintro ⟨hchosen, ⟨wallet, hwallet, hcapability, hconnected⟩, ⟨wallet', hwallet', hlock⟩,
      ⟨account, hfound, hreadOnly⟩⟩
    obtain rfl : wallet = wallet' := Option.some.inj (hwallet.symm.trans hwallet')
    refine ⟨w, hchosen, wallet, hwallet, by simpa using hcapability, by simpa using hconnected, ?_, ?_⟩
    · rintro ⟨hlocked, hunable⟩
      rcases hlock with hunlocked | hable
      · exact hlocked hunlocked
      · exact hunable hable
    · rw [hfound]
      dsimp only
      rw [hreadOnly]
      rfl

/-- The rule is what the code does. -/
theorem resolveWalletForRequest_ok_iff :
    resolveWalletForRequest kind address target s = .ok w ↔ s.Routes kind address target w := by
  cases kind with
  | signTransaction | signMessage | exportAccount => exact resolveWalletForSigning_ok_iff
  | createAccount | importAccount =>
    unfold resolveWalletForRequest Store.Routes Store.Serves
    cases target with
    | none => simp
    | some chosen =>
      dsimp only
      simp only [bind_eq_ok_iff, guard_eq_ok_iff, requireWalletInstance_ok_iff, Option.some.injEq]
      constructor
      · rintro ⟨wallet, hwallet, hcapability, hconnected, hw⟩
        obtain rfl := Except.ok.inj hw
        exact ⟨rfl, wallet, hwallet, by simpa using hcapability, by simpa using hconnected⟩
      · rintro ⟨rfl, wallet, hwallet, hcapability, hconnected⟩
        exact ⟨wallet, hwallet, by simpa using hcapability, by simpa using hconnected, rfl⟩

/-- Two instances expose the account and the caller named neither. -/
theorem resolveWalletForRequest_of_two (hkind : kind ≠ .createAccount ∧ kind ≠ .importAccount)
    (hw : s.Exposes address w) (hw' : s.Exposes address w') (hne : w ≠ w') :
    resolveWalletForRequest kind address none s = .error (sharedError .walletSelectionRequired
      "Multiple wallet instances expose the requested account") := by
  have hselect := selectInstance_of_two (mem_exposingInstances.mpr (exposes_iff_listed.mp hw))
    (mem_exposingInstances.mpr (exposes_iff_listed.mp hw')) hne
  have hsigning : resolveWalletForSigning kind address none s = .error (sharedError
      .walletSelectionRequired "Multiple wallet instances expose the requested account") := by
    unfold resolveWalletForSigning
    rw [show resolveWalletInstanceForAccount address none s = _ from hselect]
    rfl
  cases kind with
  | signTransaction | signMessage | exportAccount => exact hsigning
  | createAccount => exact absurd rfl hkind.1
  | importAccount => exact absurd rfl hkind.2

end Resolving

/-! ## Creating -/

section Creating

variable {c : Coordinator} {env : Env} {s : Store} {args : CreateRequestArgs} {id : RequestId}
  {t : TimestampMs}

theorem insertRequest_of_unused {r : RequestRecord} (hid : s.getRequest r.requestId = none)
    (hclient : s.getRequestByClientRequestId r.clientRequestId = none) :
    ∃ s', s.insertRequest r = .ok (r, s') := by
  have hc : ∀ x ∈ s.requests.rows, x.clientRequestId ≠ r.clientRequestId := by
    intro x hx heq
    have hnone := List.find?_eq_none.mp hclient x hx
    simp [heq] at hnone
  unfold Store.insertRequest
  rw [dif_pos hc]
  split
  · next hi =>
    have hsome := Table.insert_isSome.mpr hid
    rw [hi] at hsome
    cases hsome
  · exact ⟨_, rfl⟩

/-- With a new key, a clock in range and a new id, `create_request` does what routing decides. -/
theorem createRequest_of_route (hfresh : s.getRequestByClientRequestId args.clientRequestId = none)
    (hclock : checkedAddSeconds (env.now 0) (c.clampTtl args.ttlSeconds) = some t)
    (hid : env.newRequestId = .ok id) (hnew : s.getRequest id = none) :
    match resolveWalletForRequest args.kind args.accountAddress args.walletInstanceId s with
    | .error e => c.createRequest env args s = (.error e, s)
    | .ok w => ∃ r s', c.createRequest env args s = (.ok (projectRequestSummary r), s') ∧
        s'.getRequest id = some r ∧ r.requestId = id ∧ r.walletInstanceId = w := by
  unfold createRequest
  rw [FailState.read_bind, hfresh]
  dsimp only
  cases hroute : resolveWalletForRequest args.kind args.accountAddress args.walletInstanceId s with
  | error e => exact reading_error_bind hroute
  | ok w =>
    have hlease : addLease (env.now 0) (c.clampTtl args.ttlSeconds)
        "request expiration overflowed timestamp range" = .ok t := by
      unfold addLease
      rw [hclock]
    generalize hr : newRequest args (calculatePayloadHash c.sha256 args.payload) id w (env.now 0) t = r
    have hrid : r.requestId = id := by rw [← hr]; rfl
    obtain ⟨s', hins⟩ : ∃ s', s.insertRequest r = .ok (r, s') := by
      refine insertRequest_of_unused (by rwa [hrid]) ?_
      rw [← hr]
      exact hfresh
    refine ⟨r, s', ?_, ?_, hrid, by rw [← hr]; rfl⟩
    · rw [reading_ok_bind hroute, hlease, FailState.lift_ok_bind, hid, FailState.lift_ok_bind, hr]
      exact FailState.bind_ok (storeCall_ok hins)
    · rw [(insertRequest_ok hins).2.2, if_pos hrid.symm]

/-- A create command that fails leaves the store as it was. -/
theorem create_failed {command : CoordinatorCommand} {e : CoreError}
    (hargs : command.createArgs = some args)
    (h : (c.dispatch env command s).1 = .error e) : (c.dispatch env command s).2 = s := by
  rw [dispatch_create hargs] at h ⊢
  cases hpolicy : c.policyCheck command with
  | error e => rfl
  | ok u =>
    rw [hpolicy, FailState.lift_ok_bind, FailState.map_apply] at h
    rw [FailState.lift_ok_bind, FailState.map_apply]
    cases hcheck : argumentCheck args with
    | error e => rfl
    | ok u' =>
      rw [hcheck, FailState.lift_ok_bind] at h
      rw [FailState.lift_ok_bind]
      rcases createRequest_cases c env s args with ⟨r, -, hrun⟩ | ⟨-, e, hrun⟩ |
        ⟨-, r, s', -, -, -, -, hrun⟩
      · rw [hrun]
      · rw [hrun]
      · rw [hrun] at h
        cases h

end Creating

/-- On every reachable store a create command with a new key succeeds just when the rule names a
wallet, and the request is stored for that wallet; two instances that expose the account without a
choice are an error in whatever order the accounts are listed; a failure changes nothing. -/
theorem create_routes_exactly (c : Coordinator) (steps : List Step) (env : Env)
    {command : CoordinatorCommand} {args : CreateRequestArgs} {t : TimestampMs} {id : RequestId}
    (hargs : command.createArgs = some args) (hpolicy : c.policyCheck command = .ok ())
    (hcheck : argumentCheck args = .ok ())
    (hfresh : (c.run steps).getRequestByClientRequestId args.clientRequestId = none)
    (hclock : checkedAddSeconds (env.now 0) (c.clampTtl args.ttlSeconds) = some t)
    (hid : env.newRequestId = .ok id) (hnew : (c.run steps).getRequest id = none) :
    ((∃ summary, (c.dispatch env command (c.run steps)).1 = .ok (.requestCreated summary)) ↔
      ∃ w, (c.run steps).Routes args.kind args.accountAddress args.walletInstanceId w) ∧
    (∀ w, (c.run steps).Routes args.kind args.accountAddress args.walletInstanceId w →
      ∃ r, (c.dispatch env command (c.run steps)).2.getRequest id = some r ∧ r.walletInstanceId = w) ∧
    (∀ w w', args.kind ≠ .createAccount ∧ args.kind ≠ .importAccount → args.walletInstanceId = none →
      (c.run steps).Exposes args.accountAddress w → (c.run steps).Exposes args.accountAddress w' →
      w ≠ w' →
      (c.dispatch env command (c.run steps)).1 = .error (sharedError .walletSelectionRequired
        "Multiple wallet instances expose the requested account") ∧
      ∀ accounts, accounts.Perm ((c.run steps).listWalletAccounts none) →
        selectInstance accounts args.accountAddress = .error (sharedError .walletSelectionRequired
          "Multiple wallet instances expose the requested account")) ∧
    ∀ e, (c.dispatch env command (c.run steps)).1 = .error e →
      (c.dispatch env command (c.run steps)).2 = c.run steps := by
  have hrun := createRequest_of_route hfresh hclock hid hnew
  have hdispatch : c.dispatch env command (c.run steps) = _ :=
    dispatch_create_of_checks hargs hpolicy hcheck
  refine ⟨?_, ?_, ?_, fun e h => create_failed hargs h⟩
  · constructor
    · rintro ⟨summary, hsummary⟩
      cases hroute : resolveWalletForRequest args.kind args.accountAddress args.walletInstanceId
          (c.run steps) with
      | ok w => exact ⟨w, resolveWalletForRequest_ok_iff.mp hroute⟩
      | error e =>
        rw [hroute] at hrun
        rw [hdispatch, hrun] at hsummary
        cases hsummary
    · rintro ⟨w, hroute⟩
      rw [resolveWalletForRequest_ok_iff.mpr hroute] at hrun
      obtain ⟨r, s', hcreated, -⟩ := hrun
      exact ⟨projectRequestSummary r, by rw [hdispatch, hcreated]; rfl⟩
  · intro w hroute
    rw [resolveWalletForRequest_ok_iff.mpr hroute] at hrun
    obtain ⟨r, s', hcreated, hr, -, hw⟩ := hrun
    refine ⟨r, ?_, hw⟩
    rw [hdispatch, hcreated]
    exact hr
  · intro w w' hkind hnone hw hw' hne
    constructor
    · rw [hnone, resolveWalletForRequest_of_two hkind hw hw' hne] at hrun
      rw [hdispatch, hrun]
      rfl
    · intro accounts hperm
      unfold selectInstance
      rw [exposingInstances_perm hperm]
      exact selectInstance_of_two (mem_exposingInstances.mpr (exposes_iff_listed.mp hw))
        (mem_exposingInstances.mpr (exposes_iff_listed.mp hw')) hne

namespace Session

def secondWallet : WalletInstanceId := ⟨"wallet-2", .refl false⟩

/-- A browser wallet that exposes the account `0x1`. -/
def expose (w : WalletInstanceId) : Step where
  env := env 0 lease₁
  command := .registerBackend
    { walletInstanceId := w
      backendKind := .starmaskExtension
      transportKind := .nativeMessaging
      approvalSurface := .browserUi
      instanceLabel := "browser"
      extensionId := "extension-1"
      extensionVersion := "1.0.0"
      protocolVersion := 2
      capabilities := [.signMessage]
      backendMetadata := ⟨"null"⟩
      profileHint := none
      lockState := .unlocked
      accounts := [⟨w, "0x1", none, none, true, false, false, 0⟩] }

def signHello (target : Option WalletInstanceId) : CreateSignMessageCommand :=
  ⟨⟨"client-1", .refl false⟩, "0x1", target, "hello", .utf8, none, none, none⟩

end Session

open Session in
/-- Two wallets expose the account: without a choice the command is refused, with one it is served. -/
theorem create_routes_exactly_two :
    (∃ e, (coordinator.dispatch (env 1000 lease₁) (.createSignMessage (signHello none))
      (coordinator.run [expose wallet, expose secondWallet])).1 = .error e) ∧
    ∃ r, (coordinator.dispatch (env 1000 lease₁) (.createSignMessage (signHello (some secondWallet)))
      (coordinator.run [expose wallet, expose secondWallet])).2.getRequest request = some r ∧
      r.walletInstanceId = secondWallet := by
  have hfresh : (coordinator.run [expose wallet, expose secondWallet]).getRequestByClientRequestId
      (signHello none).clientRequestId = none := by decide +kernel
  have hnew : (coordinator.run [expose wallet, expose secondWallet]).getRequest request = none := by
    decide +kernel
  have hexposes : ∀ w ∈ [wallet, secondWallet],
      (coordinator.run [expose wallet, expose secondWallet]).Exposes "0x1" w := by
    intro w hw
    refine exposes_iff_getWalletAccount.mpr ?_
    revert w
    decide +kernel
  have hroute : resolveWalletForRequest .signMessage "0x1" (some secondWallet)
      (coordinator.run [expose wallet, expose secondWallet]) = .ok secondWallet := by decide +kernel
  have hargs : ∀ target, (CoordinatorCommand.createSignMessage (signHello target)).createArgs =
      some (signMessageArgs (signHello target)) := fun _ => rfl
  have hclock : checkedAddSeconds 1000 (coordinator.clampTtl none) = some 301000 := by decide
  constructor
  · obtain ⟨-, -, hambiguous, -⟩ := create_routes_exactly coordinator [expose wallet, expose secondWallet]
      (env 1000 lease₁) (hargs none) rfl (by decide) hfresh hclock rfl hnew
    exact ⟨_, (hambiguous wallet secondWallet (by decide) rfl (hexposes wallet (by simp))
      (hexposes secondWallet (by simp)) (by decide)).1⟩
  · obtain ⟨-, hserved, -⟩ := create_routes_exactly coordinator [expose wallet, expose secondWallet]
      (env 1000 lease₁) (hargs (some secondWallet)) rfl (by decide) hfresh hclock rfl hnew
    exact hserved secondWallet (resolveWalletForRequest_ok_iff.mp hroute)

end StarcoinMcp.Starmask
