import StarcoinMcp.Starmask.Runs

/-! Client request ids as idempotency keys. A create command that succeeded fixes the
request behind its key for the rest of the run: whatever happens to the request
or to its wallet, the same command finds it again, and a different one is refused. -/

namespace StarcoinMcp.Starmask

open Coordinator

/-- The policy hook each create method asks first. -/
def Coordinator.policyCheck (c : Coordinator) : CoordinatorCommand → CoreResult Unit
  | .createAccount command => c.policy.checkCreateAccount command
  | .createExportAccount command => c.policy.checkCreateExportAccount command
  | .createImportAccount command => c.policy.checkCreateImportAccount command
  | .createSignTransaction command => c.policy.checkCreateSignTransaction command
  | .createSignMessage command => c.policy.checkCreateSignMessage command
  | _ => .ok ()

/-- The argument check of `create_import_account_request`; the other four have none. -/
def argumentCheck (args : CreateRequestArgs) : CoreResult Unit :=
  if args.kind = .importAccount ∧ Text.isBlank args.accountAddress = true then
    .error (sharedError .invalidAccount "account_address is required for import requests")
  else .ok ()

section Create

variable {c : Coordinator} {env : Env} {s : Store} {command : CoordinatorCommand}
  {args : CreateRequestArgs}

theorem argumentCheck_of_kind (h : args.kind ≠ .importAccount) : argumentCheck args = .ok () :=
  if_neg fun hk => h hk.1

theorem checked_map {x : CoreResult Unit} {m m' : CoreM CreateRequestResult}
    (h : (CoordinatorResponse.requestCreated <$> m) s = (CoordinatorResponse.requestCreated <$> m') s) :
    (CoordinatorResponse.requestCreated <$> (FailState.lift x >>= fun _ => m)) s =
      (FailState.lift x >>= fun _ => CoordinatorResponse.requestCreated <$> m') s := by
  rw [FailState.map_apply]
  cases x with
  | error e => rfl
  | ok u =>
    rw [FailState.map_apply] at h
    exact h

/-- Every create command is its checks followed by `create_request`. -/
theorem dispatch_create (h : command.createArgs = some args) :
    c.dispatch env command s =
      (FailState.lift (c.policyCheck command) >>= fun _ => CoordinatorResponse.requestCreated <$>
        (FailState.lift (argumentCheck args) >>= fun _ => c.createRequest env args)) s := by
  cases command <;> simp only [CoordinatorCommand.createArgs, reduceCtorEq, Option.some.injEq] at h <;>
    subst h
  case createImportAccount command =>
    refine checked_map ?_
    unfold argumentCheck
    cases hblank : Text.isBlank command.accountAddress <;> simp [importAccountArgs, hblank]
  all_goals
    refine checked_map ?_
    rw [argumentCheck_of_kind RequestKind.noConfusion]
    rfl

theorem dispatch_create_of_checks (h : command.createArgs = some args)
    (hpolicy : c.policyCheck command = .ok ()) (hargs : argumentCheck args = .ok ()) :
    c.dispatch env command s =
      ((c.createRequest env args s).1.map .requestCreated, (c.createRequest env args s).2) := by
  rw [dispatch_create h, hpolicy, hargs]
  simp only [FailState.lift_ok_bind, FailState.map_apply]

/-- A create command that succeeded passed its checks. -/
theorem dispatch_create_ok {reply : CoordinatorResponse} (h : command.createArgs = some args)
    (hok : (c.dispatch env command s).1 = .ok reply) :
    c.policyCheck command = .ok () ∧ argumentCheck args = .ok () := by
  rw [dispatch_create h] at hok
  cases hpolicy : c.policyCheck command with
  | error e =>
    rw [hpolicy, FailState.lift_error_bind] at hok
    cases hok
  | ok u =>
    cases hargs : argumentCheck args with
    | error e =>
      rw [hpolicy, hargs, FailState.lift_ok_bind, FailState.map_apply, FailState.lift_error_bind] at hok
      cases hok
    | ok u' => exact ⟨rfl, rfl⟩

/-! ## The request behind a key -/

/-- What the arguments of a create command fix of a request, whatever its state. -/
structure Fulfils (c : Coordinator) (args : CreateRequestArgs) (r : RequestRecord) : Prop where
  clientRequestId : r.clientRequestId = args.clientRequestId
  payloadHash : r.payloadHash = calculatePayloadHash c.sha256 args.payload
  accountAddress : r.accountAddress = args.accountAddress
  walletInstanceId : ∀ w, args.walletInstanceId = some w → r.walletInstanceId = w

theorem Fulfils.of_identity {r r' : RequestRecord} (h : Fulfils c args r)
    (hid : r'.identity = r.identity) : Fulfils c args r' := by
  simp only [RequestRecord.identity, Prod.mk.injEq] at hid
  obtain ⟨-, hclient, -, hwallet, haccount, -, hhash, -⟩ := hid
  exact ⟨hclient.trans h.clientRequestId, hhash.trans h.payloadHash, haccount.trans h.accountAddress,
    fun w hw => hwallet.trans (h.walletInstanceId w hw)⟩

theorem sameRequest_iff {r : RequestRecord} (hclient : r.clientRequestId = args.clientRequestId) :
    c.sameRequest args r = true ↔ Fulfils c args r := by
  unfold sameRequest
  rw [decide_eq_true_eq]
  constructor
  · rintro ⟨hhash, haccount, hwallet⟩
    refine ⟨hclient, hhash, haccount, fun w hw => ?_⟩
    rw [hw] at hwallet
    simpa [eq_comm] using hwallet
  · intro h
    refine ⟨h.payloadHash, h.accountAddress, ?_⟩
    cases hw : args.walletInstanceId with
    | none => rfl
    | some w => simp [h.walletInstanceId w hw]

theorem resolveWalletInstanceForAccount_explicit {address : String} {w w' : WalletInstanceId}
    (h : resolveWalletInstanceForAccount address (some w) s = .ok w') : w' = w := by
  unfold resolveWalletInstanceForAccount at h
  dsimp only at h
  split_ifs at h
  exact (Except.ok.inj h).symm

theorem resolveWalletForSigning_ok {kind : RequestKind} {address : String}
    {selected : Option WalletInstanceId} {w : WalletInstanceId}
    (h : resolveWalletForSigning kind address selected s = .ok w) :
    resolveWalletInstanceForAccount address selected s = .ok w := by
  obtain ⟨w', hw', h₁⟩ := bind_eq_ok h
  obtain ⟨wallet, hwallet, h₂⟩ := bind_eq_ok h₁
  obtain ⟨-, h₃⟩ := guard_eq_ok h₂
  obtain ⟨-, h₄⟩ := guard_eq_ok h₃
  obtain ⟨-, h₅⟩ := guard_eq_ok h₄
  dsimp only at h₅
  split at h₅
  · cases h₅
  · obtain ⟨-, h₆⟩ := guard_eq_ok h₅
    obtain rfl := Except.ok.inj h₆
    exact hw'

/-- A wallet named by the caller is the one selected, or the request is refused. -/
theorem resolveWalletForRequest_explicit {kind : RequestKind} {address : String}
    {w w' : WalletInstanceId} (h : resolveWalletForRequest kind address (some w) s = .ok w') : w' = w := by
  cases kind with
  | createAccount | importAccount =>
    obtain ⟨wallet, hwallet, h₁⟩ := bind_eq_ok h
    obtain ⟨-, h₂⟩ := guard_eq_ok h₁
    obtain ⟨-, h₃⟩ := guard_eq_ok h₂
    exact (Except.ok.inj h₃).symm
  | signTransaction | signMessage | exportAccount =>
    exact resolveWalletInstanceForAccount_explicit (resolveWalletForSigning_ok h)

/-- The request a successful create command answered with. -/
theorem create_answer {summary : CreateRequestResult} (hargs : command.createArgs = some args)
    (hok : (c.dispatch env command s).1 = .ok (.requestCreated summary)) :
    ∃ r, (c.dispatch env command s).2.getRequest r.requestId = some r ∧
      summary = projectRequestSummary r ∧ Fulfils c args r := by
  obtain ⟨hpolicy, hcheck⟩ := dispatch_create_ok hargs hok
  rw [dispatch_create_of_checks hargs hpolicy hcheck] at hok ⊢
  rcases createRequest_cases c env s args with ⟨r, hfind, hrun⟩ | ⟨-, e, hrun⟩ |
    ⟨-, r, s', hroute, hrec, -, hins, hrun⟩
  · rw [hrun] at hok ⊢
    have hmem : r ∈ s.requests.rows := List.mem_of_find?_eq_some hfind
    have hclient : r.clientRequestId = args.clientRequestId := by simpa using List.find?_some hfind
    cases hsame : c.sameRequest args r with
    | false => simp [hsame, Except.map] at hok
    | true =>
      have hsummary : projectRequestSummary r = summary := by simpa [hsame, Except.map] using hok
      exact ⟨r, Store.mem_requests_iff.mp hmem, hsummary.symm, (sameRequest_iff hclient).mp hsame⟩
  · rw [hrun] at hok
    cases hok
  · rw [hrun] at hok ⊢
    have hsummary : projectRequestSummary r = summary := by simpa [Except.map] using hok
    refine ⟨r, ?_, hsummary.symm, ?_⟩
    · rw [(insertRequest_ok hins).2.2, if_pos rfl]
    · rw [hrec]
      refine ⟨rfl, rfl, rfl, fun w hw => ?_⟩
      rw [hw] at hroute
      exact resolveWalletForRequest_explicit hroute

/-- A create command whose key is taken answers from the stored request and writes nothing. -/
theorem create_again (env : Env) {r : RequestRecord} (hargs : command.createArgs = some args)
    (hpolicy : c.policyCheck command = .ok ()) (hcheck : argumentCheck args = .ok ())
    (hr : r ∈ s.requests.rows) (hclient : r.clientRequestId = args.clientRequestId) :
    c.dispatch env command s =
      (if c.sameRequest args r then .ok (.requestCreated (projectRequestSummary r))
        else .error (sharedError .idempotencyKeyConflict
          "client_request_id already exists with a different payload or signing target"), s) := by
  have hfind : s.getRequestByClientRequestId args.clientRequestId = some r := by
    rw [← hclient]
    exact Store.getRequestByClientRequestId_of_mem hr
  rw [dispatch_create_of_checks hargs hpolicy hcheck]
  rcases createRequest_cases c env s args with ⟨r', hfind', hrun⟩ | ⟨hnone, -⟩ | ⟨hnone, -⟩
  · obtain rfl : r = r' := Option.some.inj (hfind.symm.trans hfind')
    rw [hrun]
    cases c.sameRequest args r <;> rfl
  · rw [hfind] at hnone
    cases hnone
  · rw [hfind] at hnone
    cases hnone

end Create

/-- The two commands ask for the same thing. -/
def SameAsked (args args' : CreateRequestArgs) : Prop :=
  args'.payload = args.payload ∧ args'.accountAddress = args.accountAddress ∧
    (args'.walletInstanceId = args.walletInstanceId ∨ args'.walletInstanceId = none)

/-- The second command asks for something else than the request created by the first, which is
bound to the wallet `w`. -/
def Differs (args args' : CreateRequestArgs) (w : WalletInstanceId) : Prop :=
  args'.kind ≠ args.kind ∨ args'.payload ≠ args.payload ∨ args'.accountAddress ≠ args.accountAddress ∨
    ∃ w', args'.walletInstanceId = some w' ∧ w' ≠ w

/-- Idempotent creation over whole runs: `x` is a create command that succeeded, `y` any later
create command with the same key that the policy admits. -/
theorem create_idempotent (c : Coordinator) (hsha : CollisionFree c.sha256) (before after : List Step)
    (x y : Step) {args args' : CreateRequestArgs} {summary : CreateRequestResult}
    (hx : x.command.createArgs = some args)
    (hok : c.reply (c.run before) x = .ok (.requestCreated summary))
    (hy : y.command.createArgs = some args') (hkey : args'.clientRequestId = args.clientRequestId)
    (hpolicy : c.policyCheck y.command = .ok ()) :
    (∀ r₁ ∈ (c.run (before ++ x :: after)).requests.rows,
      ∀ r₂ ∈ (c.run (before ++ x :: after)).requests.rows,
        r₁.clientRequestId = r₂.clientRequestId → r₁ = r₂) ∧
    (∀ w, args.walletInstanceId = some w → summary.walletInstanceId = w) ∧
    (SameAsked args args' →
      c.step (c.run (before ++ x :: after)) y = c.run (before ++ x :: after) ∧
      ∃ again, c.reply (c.run (before ++ x :: after)) y = .ok (.requestCreated again) ∧
        again.requestId = summary.requestId) ∧
    (argumentCheck args' = .ok () → Differs args args' summary.walletInstanceId →
      c.step (c.run (before ++ x :: after)) y = c.run (before ++ x :: after) ∧
      ∃ message, c.reply (c.run (before ++ x :: after)) y =
        .error (sharedError .idempotencyKeyConflict message)) := by
  obtain ⟨r, hr, hsummary, hfulfils⟩ := create_answer hx hok
  have hr₀ : (c.run (before ++ [x])).getRequest r.requestId = some r := by
    rw [run_snoc]
    exact hr
  obtain ⟨r', hr', hid⟩ := run_identity (before ++ [x]) after hr₀
  rw [List.append_assoc, List.singleton_append] at hr'
  have hmem := Store.mem_of_getRequest hr'
  have hfulfils' := hfulfils.of_identity hid
  have hwallet : r'.walletInstanceId = summary.walletInstanceId := by
    rw [hsummary]
    exact congrArg (·.2.2.2.1) hid
  have hclient := hfulfils'.clientRequestId.trans hkey.symm
  refine ⟨fun r₁ h₁ r₂ h₂ => Store.eq_of_clientRequestId h₁ h₂, ?_, ?_, ?_⟩
  · intro w hw
    rw [hsummary]
    exact hfulfils.walletInstanceId w hw
  · rintro ⟨hpayload, haccount, hw⟩
    have hcheck : argumentCheck args' = .ok () := by
      have hkind : args'.kind = args.kind := by
        rw [← createArgs_kind hx, ← createArgs_kind hy, hpayload]
      unfold argumentCheck
      rw [hkind, haccount]
      exact (dispatch_create_ok hx hok).2
    have hsame : c.sameRequest args' r' = true := by
      refine (sameRequest_iff hclient).mpr ⟨hclient, ?_, ?_, fun w hw' => ?_⟩
      · rw [hpayload]
        exact hfulfils'.payloadHash
      · rw [haccount]
        exact hfulfils'.accountAddress
      · rcases hw with hw | hw
        · exact hfulfils'.walletInstanceId w (hw.symm.trans hw')
        · rw [hw] at hw'
          cases hw'
    have hrun := create_again (c := c) y.env hy hpolicy hcheck hmem hclient
    rw [hsame] at hrun
    refine ⟨congrArg Prod.snd hrun, projectRequestSummary r', congrArg Prod.fst hrun, ?_⟩
    rw [hsummary]
    exact requestId_of_identity hid
  · intro hcheck hdiff
    have hnot : c.sameRequest args' r' = false := by
      rw [Bool.eq_false_iff]
      intro hsame
      have hboth := (sameRequest_iff hclient).mp hsame
      -- the digest is collision-free, so equal hashes mean equal payloads and kinds
      have hpayload : args'.payload = args.payload :=
        hsha.payload_eq (hboth.payloadHash.symm.trans hfulfils'.payloadHash)
      rcases hdiff with hk | hp | ha | ⟨w', hw', hne⟩
      · exact hk (by rw [← createArgs_kind hx, ← createArgs_kind hy, hpayload])
      · exact hp hpayload
      · exact ha (hboth.accountAddress.symm.trans hfulfils'.accountAddress)
      · exact hne ((hboth.walletInstanceId w' hw').symm.trans hwallet)
    have hrun := create_again (c := c) y.env hy hpolicy hcheck hmem hclient
    rw [hnot] at hrun
    exact ⟨congrArg Prod.snd hrun, _, congrArg Prod.fst hrun⟩

namespace Session

def payload : RequestPayload := .createAccount ⟨none, none⟩

/-- Any bytes, spelled one character a byte. -/
def spelled (bytes : ByteArray) : PayloadHash :=
  ⟨String.ofList ('#' :: bytes.data.toList.map fun b => Char.ofNat b.toNat),
    Text.isBlank_of_mem (c := '#') (by simp) (by decide)⟩

/-- SHA-256 where the session needs it. -/
def digest (bytes : ByteArray) : PayloadHash :=
  if bytes.data = (encodePayload payload).data then
    ⟨"561189d471f7375f45be4db1816de105e69033fa1b160cd8aabfa5f57fe46120", by decide⟩
  else spelled bytes

theorem toNat_charOfNat {n : Nat} (h : n < 256) : (Char.ofNat n).toNat = n := by
  unfold Char.ofNat
  rw [dif_pos (Or.inl (by omega))]
  rfl

theorem spelled_injective : Function.Injective spelled := by
  intro a b h
  have hchars := congrArg (fun x : PayloadHash => x.value.toList) h
  simp only [spelled, String.toList_ofList, List.cons.injEq, true_and] at hchars
  have hlist : a.data.toList = b.data.toList := by
    refine List.map_injective_iff.mpr (fun u v huv => ?_) hchars
    have hnat := congrArg Char.toNat huv
    rw [toNat_charOfNat u.toNat_lt, toNat_charOfNat v.toNat_lt] at hnat
    exact UInt8.toNat_inj.mp hnat
  exact ByteArray.ext (Array.toList_inj.mp hlist)

theorem spelled_ne_digest (bytes : ByteArray) :
    spelled bytes ≠ digest (encodePayload payload) := by
  intro h
  have hchars := congrArg (fun x : PayloadHash => x.value.toList.head?) h
  rw [digest, if_pos rfl] at hchars
  simp only [spelled, String.toList_ofList, List.head?_cons] at hchars
  exact absurd hchars (by decide)

theorem digest_of_ne {bytes : ByteArray} (h : bytes ≠ encodePayload payload) :
    digest bytes = spelled bytes :=
  if_neg fun hdata => h (ByteArray.ext hdata)

theorem digest_collisionFree : CollisionFree digest := by
  intro p q h
  by_cases hp : encodePayload p = encodePayload payload <;>
    by_cases hq : encodePayload q = encodePayload payload
  · exact hp.trans hq.symm
  · rw [hp, digest_of_ne hq] at h
    exact absurd h.symm (spelled_ne_digest _)
  · rw [hq, digest_of_ne hp] at h
    exact absurd h (spelled_ne_digest _)
  · rw [digest_of_ne hp, digest_of_ne hq] at h
    exact spelled_injective h

end Session

open Session in
/-- The request has expired meanwhile, and the command comes again with another time to live. -/
theorem create_idempotent_after_expiry :
    ∃ summary again, Coordinator.reply ⟨.default "0.1.0", allowAllPolicy, digest⟩
        (Coordinator.run ⟨.default "0.1.0", allowAllPolicy, digest⟩ [register 0]) (create 0) =
          .ok (.requestCreated summary) ∧
      Coordinator.reply ⟨.default "0.1.0", allowAllPolicy, digest⟩
        (Coordinator.run ⟨.default "0.1.0", allowAllPolicy, digest⟩
          ([register 0] ++ create 0 :: [tick 60000]))
        ⟨env 90000 lease₁, .createAccount ⟨⟨"client-1", by decide⟩, wallet, none, none, some 600⟩⟩ =
          .ok (.requestCreated again) ∧ again.requestId = summary.requestId := by
  have hfirst : Coordinator.reply ⟨.default "0.1.0", allowAllPolicy, digest⟩
      (Coordinator.run ⟨.default "0.1.0", allowAllPolicy, digest⟩ [register 0]) (create 0) =
        .ok (.requestCreated
          ⟨request, ⟨"client-1", by decide⟩, .createAccount, .created, wallet, 0, 60000⟩) := by
    rfl
  obtain ⟨-, -, hsame, -⟩ := create_idempotent ⟨.default "0.1.0", allowAllPolicy, digest⟩
    digest_collisionFree [register 0] [tick 60000] (create 0)
    ⟨env 90000 lease₁, .createAccount ⟨⟨"client-1", by decide⟩, wallet, none, none, some 600⟩⟩
    rfl hfirst rfl rfl rfl
  obtain ⟨-, again, hagain, hid⟩ := hsame ⟨rfl, rfl, .inl rfl⟩
  exact ⟨_, again, hfirst, hagain, hid⟩

end StarcoinMcp.Starmask
