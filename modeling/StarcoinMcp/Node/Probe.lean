import StarcoinMcp.Node.Bootstrap
import StarcoinMcp.Node.Queries
import StarcoinMcp.Node.RpcClient

/-! The startup probe, and what it is good for: the tools that ask for a capability go on to
the methods that the probe has tried. Against an endpoint whose methods stay the same, no tool
that the probe vouches for is told that a method is missing. -/

namespace StarcoinMcp.Node

open Prog

/-! ## The probe -/

/-- The `rpc_code` among an error's details. -/
def rpcCode (error : SharedError) : Option Number :=
  match (error.details.bind (Value.get "rpc_code")) with
  | some (.number n) => some n
  | _ => none

def isInvalidParamsError (error : SharedError) : Bool := rpcCode error = some (.negInt (-32602))

namespace NodeRpcClient

variable (vmProfile : VmProfile)

def probeMethodSupported (method : String) (params : Value) : Query Bool := do
  match ← call method params with
  | .ok _ => pure true
  | .error error =>
    if error.code = .unsupportedOperation then pure false
    else if error.retryable then throw error
    else pure (isInvalidParamsError error)

/-- The first of the methods that the endpoint knows settles the question. -/
def supportsAnyMethod : List String → Value → Query Bool
  | [], _ => pure false
  | method :: rest, params => do
    let supported ← probeMethodSupported method params
    if supported then pure true else supportsAnyMethod rest params

def supportsBlockListing : Query Bool :=
  probeMethodSupported "chain.get_blocks_by_number"
    (.array [.null, .number (.posInt 1),
      .object [("reverse", .bool false), ("decode", .bool true), ("raw", .bool false)]])

def supportsTransactionLookup : Query Bool :=
  supportsAnyMethod (vmProfile.transactionMethods "chain.get_transaction2" "chain.get_transaction")
    (.array [.string zeroHash, .object [("decode", .bool true)]])

def supportsTransactionInfoLookup : Query Bool :=
  supportsAnyMethod
    (vmProfile.transactionMethods "chain.get_transaction_info2" "chain.get_transaction_info")
    (.array [.string zeroHash])

def supportsTransactionEventsByHash : Query Bool :=
  supportsAnyMethod
    (vmProfile.transactionMethods "chain.get_events_by_txn_hash2" "chain.get_events_by_txn_hash")
    (.array [.string zeroHash, .object [("decode", .bool true)]])

def zeroAddress : String := "0x00000000000000000000000000000000"

/-- The listing by the second version that stands in for two of the probes. -/
def probeVm2Listing : Query Bool :=
  probeMethodSupported "state2.list_resource"
    (vm2ListResourcesParams ⟨zeroAddress, true, 0, 1, none, []⟩)

def supportsAccountStateLookup : Query Bool :=
  if vmProfile = .vm2Only then probeVm2Listing
  else probeMethodSupported "state.get_account_state" (.array [.string zeroAddress])

def supportsEventsQuery : Query Bool :=
  probeMethodSupported "chain.get_events"
    (.array [.object [], .object [("limit", .number (.posInt 1)), ("decode", .bool true)]])

def supportsResourceListing : Query Bool :=
  if vmProfile = .vm2Only then probeVm2Listing
  else probeMethodSupported "state.list_resource"
    (.array [.string zeroAddress, .object [("decode", .bool true),
      ("start_index", .number (.posInt 0)), ("max_size", .number (.posInt 1))]])

def supportsModuleListing : Query Bool :=
  if vmProfile = .vm2Only then
    probeMethodSupported "state2.list_code" (listCodeParams zeroAddress true none)
  else probeMethodSupported "state.list_code"
    (.array [.string zeroAddress, .object [("resolve", .bool true)]])

def supportsAbiResolution : Query Bool := do
  let function ← supportsAnyMethod
    (vmProfile.transactionMethods "contract2.resolve_function" "contract.resolve_function")
    (.array [.string "0x1::Account::balance"])
  let module ← supportsAnyMethod
    (vmProfile.transactionMethods "contract2.resolve_module" "contract.resolve_module")
    (.array [.string "0x1::Account"])
  let struct ← supportsAnyMethod
    (vmProfile.transactionMethods "contract2.resolve_struct" "contract.resolve_struct")
    (.array [.string "0x1::Account::Account"])
  pure (function && module && struct)

def supportsViewCall : Query Bool :=
  supportsAnyMethod (vmProfile.transactionMethods "contract2.call_v2" "contract.call_v2")
    (.array [.object [("function_id", .string "0x1::Account::balance"), ("type_args", .array []),
      ("args", .array [])]])

def supportsSubmission : Query Bool := do
  let gasPrice ← probeMethodSupported "txpool.gas_price" (.array [])
  let sequence ← supportsAnyMethod
    (vmProfile.transactionMethods "txpool.next_sequence_number2" "txpool.next_sequence_number")
    (.array [.string zeroAddress])
  let submit ← supportsAnyMethod
    (vmProfile.transactionMethods "txpool.submit_hex_transaction2" "txpool.submit_hex_transaction")
    (.array [])
  pure (gasPrice && sequence && submit)

def supportsRawDryRun : Query Bool :=
  supportsAnyMethod (vmProfile.transactionMethods "contract2.dry_run_raw" "contract.dry_run_raw")
    (.array [.string "0x00", .string "0x00"])

/-- A capability that is only looked for in one mode. -/
def probedIf (mode : Bool) (supports : Query Bool) : Query Bool :=
  if mode then supports else pure false

def probe (modeTransaction : Bool) : Query EffectiveProbe := do
  let _ ← callAs asBool "node.status" (.array [])
  let _ ← chainInfoUncached
  let _ ← nodeInfo
  let blockLookup ← probeMethodSupported "chain.get_block_by_number"
    (.array [.number (.posInt 0), .null])
  let blockListing ← supportsBlockListing
  let transactionLookup ← supportsTransactionLookup vmProfile
  let transactionInfoLookup ← supportsTransactionInfoLookup vmProfile
  let transactionEventsByHash ← supportsTransactionEventsByHash vmProfile
  let accountStateLookup ← supportsAccountStateLookup vmProfile
  let eventsQuery ← supportsEventsQuery
  let resourceListing ← supportsResourceListing vmProfile
  let moduleListing ← supportsModuleListing vmProfile
  let abiResolution ← supportsAbiResolution vmProfile
  let viewCall ← supportsViewCall vmProfile
  let transactionSubmission ← probedIf modeTransaction (supportsSubmission vmProfile)
  let rawDryRun ← probedIf modeTransaction (supportsRawDryRun vmProfile)
  pure {
    supportsNodeInfo := true
    supportsChainInfo := true
    supportsBlockLookup := blockLookup
    supportsBlockListing := blockListing
    supportsTransactionLookup := transactionLookup
    supportsTransactionInfoLookup := transactionInfoLookup
    supportsTransactionEventsByHash := transactionEventsByHash
    supportsAccountStateLookup := accountStateLookup
    supportsEventsQuery := eventsQuery
    supportsResourceListing := resourceListing
    supportsModuleListing := moduleListing
    supportsAbiResolution := abiResolution
    supportsViewCall := viewCall
    supportsTransactionSubmission := transactionSubmission
    supportsRawDryRun := rawDryRun }

end NodeRpcClient

/-! ## An endpoint whose methods stay the same -/

/-- The endpoint was reached and has no such method. -/
def saysMissing {α : Type} : Except SharedError α → Bool
  | .ok _ => false
  | .error error => error.code = .unsupportedOperation

/-- The answer says that a method is missing exactly where the endpoint does not have it. -/
def Truthful (serves : String → Bool) (vmProfile : VmProfile) : QueryEvent → Prop
  | ⟨.call method _, reply⟩ => saysMissing reply = !serves method
  | ⟨.getBlock _, found⟩ => saysMissing found = !serves "chain.get_block_by_number"
  | ⟨.nextSequenceNumber _, reply⟩ => saysMissing reply =
      !(vmProfile.transactionMethods "txpool.next_sequence_number2" "txpool.next_sequence_number").any
        serves
  | ⟨.tryExpensivePermit, _⟩ => True

/-- What a capability in the probe says of the endpoint. -/
structure Vouches (serves : String → Bool) (vmProfile : VmProfile) (probe : EffectiveProbe) : Prop where
  nodeInfo : serves "node.info" = true
  chainInfo : serves "chain.info" = true
  blockLookup : probe.supportsBlockLookup = true → serves "chain.get_block_by_number" = true
  blockListing : probe.supportsBlockListing = true → serves "chain.get_blocks_by_number" = true
  transactionLookup : probe.supportsTransactionLookup = true →
    (vmProfile.transactionMethods "chain.get_transaction2" "chain.get_transaction").any serves = true
  transactionInfoLookup : probe.supportsTransactionInfoLookup = true →
    (vmProfile.transactionMethods "chain.get_transaction_info2" "chain.get_transaction_info").any serves =
      true
  transactionEventsByHash : probe.supportsTransactionEventsByHash = true →
    (vmProfile.transactionMethods "chain.get_events_by_txn_hash2" "chain.get_events_by_txn_hash").any
      serves = true
  accountStateLookup : probe.supportsAccountStateLookup = true →
    serves (if vmProfile = .vm2Only then "state2.list_resource" else "state.get_account_state") = true
  eventsQuery : probe.supportsEventsQuery = true → serves "chain.get_events" = true
  resourceListing : probe.supportsResourceListing = true →
    serves (if vmProfile = .vm2Only then "state2.list_resource" else "state.list_resource") = true
  moduleListing : probe.supportsModuleListing = true →
    serves (if vmProfile = .vm2Only then "state2.list_code" else "state.list_code") = true
  resolveFunction : probe.supportsAbiResolution = true →
    (vmProfile.transactionMethods "contract2.resolve_function" "contract.resolve_function").any serves =
      true
  resolveModule : probe.supportsAbiResolution = true →
    (vmProfile.transactionMethods "contract2.resolve_module" "contract.resolve_module").any serves = true
  resolveStruct : probe.supportsAbiResolution = true →
    (vmProfile.transactionMethods "contract2.resolve_struct" "contract.resolve_struct").any serves = true
  viewCall : probe.supportsViewCall = true →
    (vmProfile.transactionMethods "contract2.call_v2" "contract.call_v2").any serves = true
  gasPrice : probe.supportsTransactionSubmission = true → serves "txpool.gas_price" = true
  nextSequenceNumber : probe.supportsTransactionSubmission = true →
    (vmProfile.transactionMethods "txpool.next_sequence_number2" "txpool.next_sequence_number").any
      serves = true
  submission : probe.supportsTransactionSubmission = true →
    (vmProfile.transactionMethods "txpool.submit_hex_transaction2" "txpool.submit_hex_transaction").any
      serves = true
  rawDryRun : probe.supportsRawDryRun = true →
    (vmProfile.transactionMethods "contract2.dry_run_raw" "contract.dry_run_raw").any serves = true

section Serving

variable {serves : String → Bool} {vmProfile : VmProfile} {α β : Type}

/-- What a method is tried with makes no difference to whether it is found. -/
theorem given_probeMethodSupported (method : String) (params : Value) :
    Given (Truthful serves vmProfile) (Yields fun b => b = true → serves method = true)
      (NodeRpcClient.probeMethodSupported method params) := by
  apply given_ask_bind
  intro reply htruthful
  have hserves : saysMissing reply = !serves method := htruthful
  cases reply with
  | ok value =>
    have hknown : serves method = true := by simpa [saysMissing] using hserves
    exact fun _ => hknown
  | error error =>
    apply given_ite
    · intro _ htrue
      cases htrue
    · intro hcode
      have hknown : serves method = true := by simpa [saysMissing, hcode] using hserves
      apply given_ite
      · intro _
        trivial
      · intro _ _
        exact hknown

theorem given_supportsAnyMethod (methods : List String) (params : Value) :
    Given (Truthful serves vmProfile) (Yields fun b => b = true → methods.any serves = true)
      (NodeRpcClient.supportsAnyMethod methods params) := by
  induction methods with
  | nil =>
    intro htrue
    cases htrue
  | cons method rest ih =>
    apply (given_probeMethodSupported method params).bind_yields
    intro supported hsupported
    apply given_ite
    · intro hb _
      rw [List.any_cons, hsupported hb, Bool.true_or]
    · intro _
      apply ih.imp
      rintro (error | b) hb
      · trivial
      · intro htrue
        rw [List.any_cons, hb htrue, Bool.or_true]

/-- A call ends like the endpoint's answer to it, where its result cannot be taken for a missing
method. -/
theorem given_callAs {reading : Reading α} (hreading : ∀ v, saysMissing (reading v) = false)
    (method : String) (params : Value) :
    Given (Truthful serves vmProfile) (fun r => saysMissing r = !serves method)
      (NodeRpcClient.callAs reading method params) := by
  apply given_ask_bind
  intro reply htruthful
  have hserves : saysMissing reply = !serves method := htruthful
  apply given_lift.mpr
  cases reply with
  | ok value => exact (hreading value).trans hserves
  | error error => exact hserves

/-- A call that succeeded was of a method that the endpoint has. -/
theorem served_of_callAs {reading : Reading α} (hreading : ∀ v, saysMissing (reading v) = false)
    (method : String) (params : Value) :
    Given (Truthful serves vmProfile) (Yields fun _ => serves method = true)
      (NodeRpcClient.callAs reading method params) := by
  apply (given_callAs hreading method params).imp
  rintro (error | value) hserves
  · trivial
  · simpa [saysMissing, Yields] using hserves

theorem given_callFirstAvailable {reading : Reading α}
    (hreading : ∀ v, saysMissing (reading v) = false) (methods : List String) (params : Value) :
    Given (Truthful serves vmProfile) (fun r => saysMissing r = !methods.any serves)
      (NodeRpcClient.callFirstAvailable reading methods params) := by
  suffices h : ∀ rest, Given (Truthful serves vmProfile) (fun r => saysMissing r = !rest.any serves)
      (NodeRpcClient.callFirstAvailable.go reading methods params rest) from h methods
  intro rest
  induction rest with
  | nil => rfl
  | cons method rest ih =>
    apply Given.bind (R := fun r => ∃ r', r = .ok r' ∧ saysMissing r' = !serves method)
    · apply Given.attempt
      apply (given_callAs hreading method params).imp
      intro r hr
      exact ⟨r, rfl, hr⟩
    · rintro outcome ⟨_, ⟨⟩, hserves⟩
      rw [List.any_cons]
      cases outcome with
      | ok value =>
        have hknown : serves method = true := by simpa [saysMissing] using hserves
        show saysMissing (.ok value) = _
        rw [hknown, Bool.true_or]
        rfl
      | error error =>
        apply given_ite
        · intro hcode
          have hunknown : serves method = false := by simpa [saysMissing, hcode] using hserves
          rw [hunknown, Bool.false_or]
          exact ih
        · intro hcode
          have hknown : serves method = true := by simpa [saysMissing, hcode] using hserves
          rw [hknown, Bool.true_or]
          show saysMissing (.error error) = _
          simp [saysMissing, hcode]
    · rintro error ⟨_, ⟨⟩, _⟩

theorem given_probedIf {mode : Bool} {p : Query Bool} {P : Prop}
    (hp : Given (Truthful serves vmProfile) (Yields fun b => b = true → P) p) :
    Given (Truthful serves vmProfile) (Yields fun b => b = true → P)
      (NodeRpcClient.probedIf mode p) := by
  apply given_ite
  · intro _
    exact hp
  · intro _ htrue
    cases htrue

theorem given_supportsAccountStateLookup :
    Given (Truthful serves vmProfile)
      (Yields fun b => b = true → serves
        (if vmProfile = .vm2Only then "state2.list_resource" else "state.get_account_state") = true)
      (NodeRpcClient.supportsAccountStateLookup vmProfile) := by
  unfold NodeRpcClient.supportsAccountStateLookup
  split <;> exact given_probeMethodSupported _ _

theorem given_supportsResourceListing :
    Given (Truthful serves vmProfile)
      (Yields fun b => b = true → serves
        (if vmProfile = .vm2Only then "state2.list_resource" else "state.list_resource") = true)
      (NodeRpcClient.supportsResourceListing vmProfile) := by
  unfold NodeRpcClient.supportsResourceListing
  split <;> exact given_probeMethodSupported _ _

theorem given_supportsModuleListing :
    Given (Truthful serves vmProfile)
      (Yields fun b => b = true → serves
        (if vmProfile = .vm2Only then "state2.list_code" else "state.list_code") = true)
      (NodeRpcClient.supportsModuleListing vmProfile) := by
  unfold NodeRpcClient.supportsModuleListing
  split <;> exact given_probeMethodSupported _ _

theorem given_supportsAbiResolution :
    Given (Truthful serves vmProfile)
      (Yields fun b => b = true →
        (vmProfile.transactionMethods "contract2.resolve_function" "contract.resolve_function").any
            serves = true ∧
          (vmProfile.transactionMethods "contract2.resolve_module" "contract.resolve_module").any
              serves = true ∧
            (vmProfile.transactionMethods "contract2.resolve_struct" "contract.resolve_struct").any
              serves = true)
      (NodeRpcClient.supportsAbiResolution vmProfile) := by
  apply (given_supportsAnyMethod _ _).bind_yields
  intro function hfunction
  apply (given_supportsAnyMethod _ _).bind_yields
  intro module hmodule
  apply (given_supportsAnyMethod _ _).bind_yields
  intro struct hstruct htrue
  obtain ⟨hboth, hthird⟩ := (Bool.and_eq_true _ _).mp htrue
  obtain ⟨hfirst, hsecond⟩ := (Bool.and_eq_true _ _).mp hboth
  exact ⟨hfunction hfirst, hmodule hsecond, hstruct hthird⟩

theorem given_supportsSubmission :
    Given (Truthful serves vmProfile)
      (Yields fun b => b = true → serves "txpool.gas_price" = true ∧
        (vmProfile.transactionMethods "txpool.next_sequence_number2"
            "txpool.next_sequence_number").any serves = true ∧
          (vmProfile.transactionMethods "txpool.submit_hex_transaction2"
            "txpool.submit_hex_transaction").any serves = true)
      (NodeRpcClient.supportsSubmission vmProfile) := by
  apply (given_probeMethodSupported _ _).bind_yields
  intro gasPrice hgasPrice
  apply (given_supportsAnyMethod _ _).bind_yields
  intro sequence hsequence
  apply (given_supportsAnyMethod _ _).bind_yields
  intro submit hsubmit htrue
  obtain ⟨hboth, hthird⟩ := (Bool.and_eq_true _ _).mp htrue
  obtain ⟨hfirst, hsecond⟩ := (Bool.and_eq_true _ _).mp hboth
  exact ⟨hgasPrice hfirst, hsequence hsecond, hsubmit hthird⟩

theorem saysMissing_asValue (v : Value) : saysMissing (asValue v) = false := rfl

theorem saysMissing_asOptional (v : Value) : saysMissing (asOptional v) = false := rfl

theorem saysMissing_asVec (v : Value) : saysMissing (asVec v) = false := by
  unfold asVec
  split <;> rfl

theorem saysMissing_asBool (v : Value) : saysMissing (asBool v) = false := by
  unfold asBool
  split <;> rfl

/-- A capability is in the probe only where the endpoint has the methods behind it. -/
theorem probe_vouches (modeTransaction : Bool) :
    Given (Truthful serves vmProfile) (Yields (Vouches serves vmProfile))
      (NodeRpcClient.probe vmProfile modeTransaction) := by
  apply (served_of_callAs saysMissing_asBool _ _).bind_yields
  intro status _
  apply (served_of_callAs saysMissing_asValue _ _).bind_yields
  intro chain hchain
  apply (served_of_callAs saysMissing_asValue _ _).bind_yields
  intro node hnode
  apply (given_probeMethodSupported _ _).bind_yields
  intro blockLookup hblockLookup
  apply (given_probeMethodSupported _ _).bind_yields
  intro blockListing hblockListing
  apply (given_supportsAnyMethod _ _).bind_yields
  intro transactionLookup htransactionLookup
  apply (given_supportsAnyMethod _ _).bind_yields
  intro transactionInfoLookup htransactionInfoLookup
  apply (given_supportsAnyMethod _ _).bind_yields
  intro transactionEventsByHash htransactionEventsByHash
  apply given_supportsAccountStateLookup.bind_yields
  intro accountStateLookup haccountStateLookup
  apply (given_probeMethodSupported _ _).bind_yields
  intro eventsQuery heventsQuery
  apply given_supportsResourceListing.bind_yields
  intro resourceListing hresourceListing
  apply given_supportsModuleListing.bind_yields
  intro moduleListing hmoduleListing
  apply given_supportsAbiResolution.bind_yields
  intro abiResolution habiResolution
  apply (given_supportsAnyMethod _ _).bind_yields
  intro viewCall hviewCall
  apply (given_probedIf given_supportsSubmission).bind_yields
  intro submission hsubmission
  apply (given_probedIf (given_supportsAnyMethod _ _)).bind_yields
  intro rawDryRun hrawDryRun
  exact {
    nodeInfo := hnode
    chainInfo := hchain
    blockLookup := hblockLookup
    blockListing := hblockListing
    transactionLookup := htransactionLookup
    transactionInfoLookup := htransactionInfoLookup
    transactionEventsByHash := htransactionEventsByHash
    accountStateLookup := haccountStateLookup
    eventsQuery := heventsQuery
    resourceListing := hresourceListing
    moduleListing := hmoduleListing
    resolveFunction := fun h => (habiResolution h).1
    resolveModule := fun h => (habiResolution h).2.1
    resolveStruct := fun h => (habiResolution h).2.2
    viewCall := hviewCall
    gasPrice := fun h => (hsubmission h).1
    nextSequenceNumber := fun h => (hsubmission h).2.1
    submission := fun h => (hsubmission h).2.2
    rawDryRun := hrawDryRun }

end Serving

/-! ## Requests that find their methods -/

/-- Against a truthful endpoint, the program does not end with a missing method. -/
def Supported (serves : String → Bool) (vmProfile : VmProfile) {α : Type} (p : Query α) : Prop :=
  Given (Truthful serves vmProfile) (fun r => saysMissing r = false) p

section Supported

variable {serves : String → Bool} {vmProfile : VmProfile} {α β : Type}

theorem supported_pure {a : α} : Supported serves vmProfile (pure a : Query α) := rfl

theorem supported_throw {error : SharedError} (h : error.code ≠ .unsupportedOperation) :
    Supported serves vmProfile (throw error : Query α) := by
  show decide (error.code = .unsupportedOperation) = false
  exact decide_eq_false h

theorem supported_lift {x : Except SharedError α} (h : saysMissing x = false) :
    Supported serves vmProfile (lift x : Query α) := given_lift.mpr h

theorem Supported.bind {p : Query α} {f : α → Query β} (hp : Supported serves vmProfile p)
    (hf : ∀ a, Supported serves vmProfile (f a)) : Supported serves vmProfile (p >>= f) :=
  Given.bind hp (fun a _ => hf a) fun _ h => h

/-- A check of the capability that is there. -/
theorem supported_ensureCapability {capability : Bool} (message : String) (h : capability = true) :
    Supported serves vmProfile (lift (ensureCapability capability message)) := by
  apply supported_lift
  rw [h]
  rfl

/-- An error of the first part that is handled unless it is something else than a missing method. -/
theorem Supported.attempt_bind {p : Query α} {f : Except SharedError α → Query β}
    (hp : Supported serves vmProfile p)
    (hf : ∀ x, saysMissing x = false → Supported serves vmProfile (f x)) :
    Supported serves vmProfile (p.attempt >>= f) := by
  apply Given.bind (R := fun r => ∃ x, r = .ok x ∧ saysMissing x = false)
  · apply Given.attempt
    apply Given.imp hp
    intro x hx
    exact ⟨x, rfl, hx⟩
  · rintro x ⟨_, ⟨⟩, hx⟩
    exact hf x hx
  · rintro error ⟨_, ⟨⟩, _⟩

/-- Whatever the first part ends with, it is taken as a value. -/
theorem supported_attempt_bind {p : Query α} {f : Except SharedError α → Query β}
    (hf : ∀ x, Supported serves vmProfile (f x)) :
    Supported serves vmProfile (p.attempt >>= f) := by
  apply Given.bind (R := fun r => ∃ x, r = .ok x)
  · apply Given.attempt
    induction p with
    | ret a => exact ⟨_, rfl⟩
    | fail e => exact ⟨_, rfl⟩
    | halt why => exact trivial
    | op o k ih => exact fun x _ => ih x
  · intro x _
    exact hf x
  · rintro error ⟨_, ⟨⟩⟩

theorem supported_callAs {reading : Reading α} (hreading : ∀ v, saysMissing (reading v) = false)
    {method : String} (params : Value) (h : serves method = true) :
    Supported serves vmProfile (NodeRpcClient.callAs reading method params) := by
  apply (given_callAs hreading method params).imp
  intro r hr
  rw [hr, h]
  rfl

theorem supported_callFirstAvailable {reading : Reading α}
    (hreading : ∀ v, saysMissing (reading v) = false) {methods : List String} (params : Value)
    (h : methods.any serves = true) :
    Supported serves vmProfile (NodeRpcClient.callFirstAvailable reading methods params) := by
  apply (given_callFirstAvailable hreading methods params).imp
  intro r hr
  rw [hr, h]
  rfl

theorem supported_optionalCallValue (method : String) (params : Value) :
    Supported serves vmProfile (NodeRpcClient.optionalCallValue method params) := by
  apply supported_attempt_bind
  intro x
  cases x with
  | ok value => exact supported_pure
  | error error =>
    apply given_ite
    · intro _
      exact supported_pure
    · exact supported_throw

theorem supported_cachedValue {held : Option Value} {loader : Query Value}
    (h : Supported serves vmProfile loader) :
    Supported serves vmProfile (NodeRpcClient.cachedValue held loader) := by
  cases held with
  | some value => exact supported_pure
  | none => exact h

theorem saysMissing_extractU64 (value : Value) (path : List String) :
    saysMissing (extractU64 value path) = false := by
  unfold extractU64
  split <;> rfl

theorem saysMissing_extractString (value : Value) (path : List String) :
    saysMissing (extractString value path) = false := by
  unfold extractString
  split <;> rfl

theorem saysMissing_bind {x : Except SharedError α} {f : α → Except SharedError β}
    (hx : saysMissing x = false) (hf : ∀ a, saysMissing (f a) = false) :
    saysMissing (x >>= f) = false := by
  cases x with
  | ok a => exact hf a
  | error error => exact hx

theorem saysMissing_extractU8 (value : Value) (path : List String) :
    saysMissing (extractU8 value path) = false := by
  apply saysMissing_bind (saysMissing_extractU64 value path)
  intro n
  split <;> rfl

theorem saysMissing_extractNetwork (nodeInfo : Value) :
    saysMissing (extractNetwork nodeInfo) = false := by
  unfold extractNetwork
  split <;> rfl

theorem saysMissing_headLagWarnings (warnHeadLag : Duration) (nodeStatus : Value)
    (chainInfo : Option Value) :
    saysMissing (headLagWarnings warnHeadLag nodeStatus chainInfo) = false := by
  cases chainInfo with
  | none => rfl
  | some chainInfo =>
    apply saysMissing_bind (saysMissing_extractU64 nodeStatus _)
    intro nowSeconds
    apply saysMissing_bind (saysMissing_extractU64 chainInfo _)
    intro headTimestamp
    show saysMissing (if _ then _ else _) = false
    split <;> rfl

/-! ### The listings -/

theorem supported_listResourcesViaVm2 {req : ListingRequest}
    (h : serves "state2.list_resource" = true) :
    Supported serves vmProfile (NodeRpcClient.listResourcesViaVm2 req) := by
  have hcall : Supported serves vmProfile
      (NodeRpcClient.askValue "state2.list_resource" (vm2ListResourcesParams req)) := by
    apply given_ask_bind
    intro reply hserves
    have hknown : saysMissing reply = !serves "state2.list_resource" := hserves
    exact supported_lift (hknown.trans (by rw [h]; rfl))
  apply hcall.bind
  intro value
  apply Supported.bind
  · apply supported_lift
    unfold validateListResourcesResponse
    split <;> rfl
  · intro _
    exact supported_pure

/-- A second listing that the endpoint cannot make leaves the first one. -/
theorem supported_retryViaVm2 (req : ListingRequest) (value : Value) :
    Supported serves vmProfile (NodeRpcClient.retryViaVm2 req value) := by
  apply supported_attempt_bind
  intro x
  cases x with
  | ok vm2Value => exact supported_pure
  | error error =>
    apply given_ite
    · intro _
      exact supported_pure
    · exact supported_throw

theorem supported_listResources {req : ListingRequest}
    (h : serves (if vmProfile = .vm2Only then "state2.list_resource" else "state.list_resource") =
      true) :
    Supported serves vmProfile (NodeRpcClient.listResources vmProfile req) := by
  apply given_ite
  · intro hvm
    rw [if_pos hvm] at h
    exact supported_listResourcesViaVm2 h
  · intro hvm
    rw [if_neg hvm] at h
    apply given_ask_bind
    intro reply hserves
    have hknown : saysMissing reply = false := by
      have hsame : saysMissing reply = !serves "state.list_resource" := hserves
      rw [hsame, h]
      rfl
    apply given_ite
    · intro _
      exact supported_lift hknown
    · intro _
      cases reply with
      | ok value =>
        apply given_ite
        · intro _
          exact supported_pure
        · intro _
          exact supported_retryViaVm2 req value
      | error error =>
        apply given_ite
        · intro hcode
          have hmissing : saysMissing (.error error : Except SharedError Value) = true :=
            decide_eq_true hcode
          rw [hknown] at hmissing
          cases hmissing
        · exact supported_throw

theorem supported_repairState (address : String) (state : Option Value) :
    Supported serves vmProfile (NodeRpcClient.repairState vmProfile address state) := by
  apply supported_attempt_bind
  intro x
  cases x with
  | ok found =>
    cases found with
    | some vm2State => exact supported_pure
    | none => exact supported_pure
  | error error =>
    apply given_ite
    · intro _
      exact supported_pure
    · exact supported_throw

theorem supported_getAccountState {address : String}
    (h : serves (if vmProfile = .vm2Only then "state2.list_resource"
      else "state.get_account_state") = true) :
    Supported serves vmProfile (NodeRpcClient.getAccountState vmProfile address) := by
  apply given_ite
  · intro hvm
    rw [if_pos hvm] at h
    apply (supported_listResourcesViaVm2 h).bind
    intro resources
    exact supported_pure
  · intro hvm
    rw [if_neg hvm] at h
    apply given_ask_bind
    intro reply hserves
    have hknown : saysMissing reply = false := by
      have hsame : saysMissing reply = !serves "state.get_account_state" := hserves
      rw [hsame, h]
      rfl
    cases reply with
    | ok value =>
      dsimp only
      cases NodeRpcClient.optional value with
      | some state =>
        apply given_ite
        · intro _
          exact supported_pure
        · intro _
          exact supported_repairState address (some state)
      | none => exact supported_repairState address none
    | error error =>
      apply given_ite
      · intro hcode
        have hmissing : saysMissing (.error error : Except SharedError Value) = true :=
          decide_eq_true hcode
        rw [hknown] at hmissing
        cases hmissing
      · exact supported_throw

theorem supported_getPrimaryStcBalanceResource (address : String) :
    Supported serves vmProfile (NodeRpcClient.getPrimaryStcBalanceResource vmProfile address) := by
  apply given_ite
  · intro _
    exact supported_pure
  · intro _
    apply given_ask_bind
    intro reply _
    cases reply with
    | ok resource => exact supported_pure
    | error error =>
      apply given_ite
      · intro _
        exact supported_pure
      · exact supported_throw

theorem supported_listCode {address : String} {resolve : Bool} {stateRoot : Option String}
    (h : serves (if vmProfile = .vm2Only then "state2.list_code" else "state.list_code") = true) :
    Supported serves vmProfile (NodeRpcClient.listCode vmProfile address resolve stateRoot) := by
  apply given_ask_bind
  intro reply hserves
  apply supported_lift
  have hsame : saysMissing reply =
      !serves (if vmProfile = .vm2Only then "state2.list_code" else "state.list_code") := hserves
  rw [hsame, h]
  rfl

/-! ### The tools -/

theorem supported_takeExpensivePermit :
    Supported serves vmProfile QueryContext.takeExpensivePermit := by
  apply given_ask_bind
  intro free _
  apply given_ite
  · intro _
    exact supported_pure
  · intro _
    apply supported_throw
    intro h
    cases h

theorem supported_resolveStateRoot {blockNumber : Option UInt64}
    (h : blockNumber.isSome = true → serves "chain.get_block_by_number" = true) :
    Supported serves vmProfile (QueryContext.resolveStateRoot blockNumber) := by
  cases blockNumber with
  | none => exact supported_pure
  | some number =>
    apply given_ask_bind
    intro found hserves
    have hknown : saysMissing found = false := by
      have hsame : saysMissing found = !serves "chain.get_block_by_number" := hserves
      rw [hsame, h rfl]
      rfl
    apply (supported_lift hknown).bind
    intro block
    cases block with
    | none =>
      apply supported_throw
      intro hcode
      cases hcode
    | some block =>
      dsimp only
      cases extractOptionalString block ["header", "state_root"] with
      | some stateRoot => exact supported_pure
      | none =>
        apply supported_throw
        intro hcode
        cases hcode

theorem supported_orWarning {name : String} {part : Query α} (h : Supported serves vmProfile part) :
    Supported serves vmProfile (orWarning name part) := by
  apply h.attempt_bind
  intro x hx
  cases x with
  | ok value => exact supported_pure
  | error error =>
    apply given_ite
    · intro _
      exact supported_pure
    · intro _
      exact supported_lift (x := .error error) hx

/-- A hint that cannot be had is no failure. -/
theorem supported_loadOptionalNextSequenceNumberHint (address : String) :
    Supported serves vmProfile (QueryContext.loadOptionalNextSequenceNumberHint address) := by
  apply given_ask_bind
  intro reply _
  apply supported_lift
  unfold AppContext.degradeSequenceLookup
  cases reply with
  | ok hint => rfl
  | error error =>
    by_cases hcode : error.code = .unsupportedOperation
    · have hdegrades : isDegradableSequenceLookupError error = true := by
        simp [isDegradableSequenceLookupError, hcode]
      simp [hdegrades, saysMissing]
    · cases hdegrades : isDegradableSequenceLookupError error with
      | true => simp [hdegrades, saysMissing]
      | false => simp [hdegrades, saysMissing, hcode]

end Supported

namespace NodeRpcClient

def submitHexTransaction (vmProfile : VmProfile) (signedTxnBcsHex : String) : Query String := do
  let hashValue ← callFirstAvailable asValue
    (vmProfile.transactionMethods "txpool.submit_hex_transaction2" "txpool.submit_hex_transaction")
    (.array [.string signedTxnBcsHex])
  lift (extractSubmissionHash hashValue)

end NodeRpcClient

/-- What is asked of the endpoint, each with what it returns: the query tools, and the calls that
only the transaction tools make. -/
inductive EndpointRequest : Type → Type
  | chainStatus : EndpointRequest ChainStatusOutput
  | nodeHealth : EndpointRequest NodeHealthOutput
  | getBlock (input : GetBlockInput) : EndpointRequest GetBlockOutput
  | listBlocks (input : ListBlocksInput) : EndpointRequest ListBlocksOutput
  | getTransaction (input : GetTransactionInput) : EndpointRequest GetTransactionOutput
  | getEvents (input : GetEventsInput) : EndpointRequest GetEventsOutput
  | getAccountOverview (input : GetAccountOverviewInput) : EndpointRequest GetAccountOverviewOutput
  | listResources (input : ListResourcesInput) : EndpointRequest ListResourcesOutput
  | listModules (input : ListModulesInput) : EndpointRequest ListModulesOutput
  | resolveFunctionAbi (functionId : String) : EndpointRequest Value
  | resolveStructAbi (structTag : String) : EndpointRequest Value
  | resolveModuleAbi (moduleId : String) : EndpointRequest Value
  | callViewFunction (input : CallViewFunctionInput) : EndpointRequest CallViewFunctionOutput
  | gasPrice : EndpointRequest UInt64
  | nextSequenceNumber (address : String) : EndpointRequest (Option UInt64)
  | dryRunRaw (rawTxnBcsHex senderPublicKey : String) : EndpointRequest Value
  | submitHexTransaction (signedTxnBcsHex : String) : EndpointRequest String

namespace EndpointRequest

def run (ctx : ToolContext) : {α : Type} → EndpointRequest α → Query α
  | _, .chainStatus => ctx.chainStatus
  | _, .nodeHealth => ctx.nodeHealth
  | _, .getBlock input => ToolContext.getBlock input
  | _, .listBlocks input => ctx.listBlocks input
  | _, .getTransaction input => ctx.getTransaction input
  | _, .getEvents input => ctx.getEvents input
  | _, .getAccountOverview input => ctx.getAccountOverview input
  | _, .listResources input => ctx.listResources input
  | _, .listModules input => ctx.listModules input
  | _, .resolveFunctionAbi functionId => ctx.resolveFunctionAbi functionId
  | _, .resolveStructAbi structTag => ctx.resolveStructAbi structTag
  | _, .resolveModuleAbi moduleId => ctx.resolveModuleAbi moduleId
  | _, .callViewFunction input => ctx.callViewFunction input
  | _, .gasPrice => NodeRpcClient.gasPrice
  | _, .nextSequenceNumber address => NodeRpcClient.nextSequenceNumber ctx.config.vmProfile address
  | _, .dryRunRaw rawTxnBcsHex senderPublicKey =>
    NodeRpcClient.dryRunRaw ctx.config.vmProfile rawTxnBcsHex senderPublicKey
  | _, .submitHexTransaction signedTxnBcsHex =>
    NodeRpcClient.submitHexTransaction ctx.config.vmProfile signedTxnBcsHex

/-- The probe has tried the methods that the request needs. It tries none for a block's hash. -/
def vouched (probe : EffectiveProbe) : {α : Type} → EndpointRequest α → Bool
  | _, .chainStatus | _, .nodeHealth => true
  | _, .getBlock input =>
    input.blockHash.isNone && input.blockNumber.isSome && probe.supportsBlockLookup
  | _, .listBlocks _ => probe.supportsBlockListing
  | _, .getTransaction _ => probe.supportsTransactionLookup
  | _, .getEvents _ => probe.supportsEventsQuery
  | _, .getAccountOverview input =>
    probe.supportsAccountStateLookup && (!input.includeResources || probe.supportsResourceListing) &&
      (!input.includeModules || probe.supportsModuleListing)
  | _, .listResources input =>
    probe.supportsResourceListing && (input.blockNumber.isNone || probe.supportsBlockLookup)
  | _, .listModules input =>
    probe.supportsModuleListing && (input.blockNumber.isNone || probe.supportsBlockLookup)
  | _, .resolveFunctionAbi _ | _, .resolveStructAbi _ | _, .resolveModuleAbi _ =>
    probe.supportsAbiResolution
  | _, .callViewFunction _ => probe.supportsViewCall
  | _, .gasPrice | _, .nextSequenceNumber _ | _, .submitHexTransaction _ =>
    probe.supportsTransactionSubmission
  | _, .dryRunRaw _ _ => probe.supportsRawDryRun

end EndpointRequest

section Requests

variable {ctx : ToolContext} {serves : String → Bool}

theorem supported_chainInfo (h : serves "chain.info" = true) :
    Supported serves ctx.config.vmProfile ctx.chainInfo :=
  supported_cachedValue (supported_callAs saysMissing_asValue _ h)

theorem supported_chainStatus
    (hv : Vouches serves ctx.config.vmProfile ctx.startupProbe) :
    Supported serves ctx.config.vmProfile ctx.chainStatus := by
  apply (supported_callAs saysMissing_asValue _ hv.nodeInfo).bind
  intro nodeInfo
  apply (supported_chainInfo hv.chainInfo).bind
  intro chainInfo
  apply (supported_optionalCallValue _ _).bind
  intro peers
  apply (supported_optionalCallValue _ _).bind
  intro syncStatus
  apply (supported_lift (saysMissing_extractNetwork nodeInfo)).bind
  intro network
  apply (supported_lift (saysMissing_extractU8 chainInfo _)).bind
  intro chainId
  apply (supported_lift (saysMissing_extractString chainInfo _)).bind
  intro genesisHash
  apply (supported_lift (saysMissing_extractU64 chainInfo _)).bind
  intro headBlockNumber
  apply (supported_lift (saysMissing_extractString chainInfo _)).bind
  intro headBlockHash
  apply (supported_lift (saysMissing_extractU64 nodeInfo _)).bind
  intro nowSeconds
  exact supported_pure

theorem supported_nodeHealth
    (hv : Vouches serves ctx.config.vmProfile ctx.startupProbe) :
    Supported serves ctx.config.vmProfile ctx.nodeHealth := by
  have hinfo : Supported serves ctx.config.vmProfile NodeRpcClient.nodeInfo :=
    supported_callAs saysMissing_asValue _ hv.nodeInfo
  apply hinfo.attempt_bind
  intro outcome hknown
  cases outcome with
  | error error =>
    apply given_ite
    · intro _
      exact supported_pure
    · intro _
      exact supported_lift (x := .error error) hknown
  | ok nodeStatus =>
    apply (supported_orWarning (supported_chainInfo hv.chainInfo)).bind
    intro chainInfo
    apply (supported_orWarning (supported_optionalCallValue _ _)).bind
    intro peers
    apply (supported_orWarning (supported_optionalCallValue _ _)).bind
    intro sync
    apply (supported_orWarning (supported_optionalCallValue _ _)).bind
    intro txpool
    apply (supported_lift (saysMissing_headLagWarnings _ nodeStatus chainInfo.1)).bind
    intro lag
    exact supported_pure

theorem supported_getBlock {input : GetBlockInput}
    (hv : Vouches serves ctx.config.vmProfile ctx.startupProbe)
    (h : (EndpointRequest.getBlock input).vouched ctx.startupProbe = true) :
    Supported serves ctx.config.vmProfile (ToolContext.getBlock input) := by
  obtain ⟨blockHash, blockNumber, decode, includeRaw⟩ := input
  obtain ⟨hselector, hlookup⟩ := (Bool.and_eq_true _ _).mp h
  obtain ⟨hnone, hsome⟩ := (Bool.and_eq_true _ _).mp hselector
  obtain rfl := Option.isNone_iff_eq_none.mp hnone
  obtain ⟨number, rfl⟩ := Option.isSome_iff_exists.mp hsome
  apply (supported_callAs saysMissing_asOptional _ (hv.blockLookup hlookup)).bind
  intro block
  exact supported_pure

theorem supported_getTransaction (input : GetTransactionInput)
    (hv : Vouches serves ctx.config.vmProfile ctx.startupProbe)
    (h : ctx.startupProbe.supportsTransactionLookup = true) :
    Supported serves ctx.config.vmProfile (ctx.getTransaction input) := by
  apply (supported_ensureCapability _ h).bind
  intro _
  apply (supported_callFirstAvailable saysMissing_asOptional _ (hv.transactionLookup h)).bind
  intro transaction
  apply Supported.bind
  · apply given_ite
    · intro hinfo
      exact supported_callFirstAvailable saysMissing_asOptional _ (hv.transactionInfoLookup hinfo)
    · intro _
      exact supported_pure
  · intro transactionInfo
    apply Supported.bind
    · apply given_ite
      · intro hevents
        simp only [Bool.and_eq_true] at hevents
        exact supported_callFirstAvailable saysMissing_asVec _
          (hv.transactionEventsByHash hevents.1.2)
      · intro _
        exact supported_pure
    · intro events
      exact supported_pure

theorem supported_getEvents (input : GetEventsInput)
    (hv : Vouches serves ctx.config.vmProfile ctx.startupProbe)
    (h : ctx.startupProbe.supportsEventsQuery = true) :
    Supported serves ctx.config.vmProfile (ctx.getEvents input) := by
  apply (supported_ensureCapability _ h).bind
  intro _
  apply supported_takeExpensivePermit.bind
  intro _
  apply (supported_callAs saysMissing_asVec _ (hv.eventsQuery h)).bind
  intro events
  exact supported_pure

theorem supported_loadResources (input : GetAccountOverviewInput)
    (hv : Vouches serves ctx.config.vmProfile ctx.startupProbe)
    (h : input.includeResources = true → ctx.startupProbe.supportsResourceListing = true) :
    Supported serves ctx.config.vmProfile (ctx.loadResources input) := by
  apply given_ite
  · intro hincluded
    apply (supported_ensureCapability _ (h hincluded)).bind
    intro _
    apply supported_takeExpensivePermit.bind
    intro _
    apply (supported_listResources (hv.resourceListing (h hincluded))).bind
    intro listed
    apply (supported_getPrimaryStcBalanceResource _).bind
    intro primaryStore
    exact supported_pure
  · intro _
    exact supported_pure

theorem supported_loadModules (input : GetAccountOverviewInput)
    (hv : Vouches serves ctx.config.vmProfile ctx.startupProbe)
    (h : input.includeModules = true → ctx.startupProbe.supportsModuleListing = true) :
    Supported serves ctx.config.vmProfile (ctx.loadModules input) := by
  apply given_ite
  · intro hincluded
    apply (supported_ensureCapability _ (h hincluded)).bind
    intro _
    apply supported_takeExpensivePermit.bind
    intro _
    apply (supported_listCode (hv.moduleListing (h hincluded))).bind
    intro listed
    exact supported_pure
  · intro _
    exact supported_pure

theorem supported_getAccountOverview {input : GetAccountOverviewInput}
    (hv : Vouches serves ctx.config.vmProfile ctx.startupProbe)
    (h : (EndpointRequest.getAccountOverview input).vouched ctx.startupProbe = true) :
    Supported serves ctx.config.vmProfile (ctx.getAccountOverview input) := by
  simp only [EndpointRequest.vouched, Bool.and_eq_true, Bool.or_eq_true, Bool.not_eq_true'] at h
  obtain ⟨⟨hstate, hresources⟩, hmodules⟩ := h
  apply (supported_ensureCapability _ hstate).bind
  intro _
  apply (supported_getAccountState (hv.accountStateLookup hstate)).bind
  intro state
  apply (supported_loadOptionalNextSequenceNumberHint _).bind
  intro hint
  apply (supported_loadResources input hv fun hincluded => hresources.resolve_left
    (by simp [hincluded])).bind
  intro part
  apply (supported_loadModules input hv fun hincluded => hmodules.resolve_left
    (by simp [hincluded])).bind
  intro modules
  exact supported_pure

/-- The block to list from is looked up where one is given. -/
theorem blockLookup_of_vouched {blockNumber : Option UInt64}
    (hv : Vouches serves ctx.config.vmProfile ctx.startupProbe)
    (h : (blockNumber.isNone || ctx.startupProbe.supportsBlockLookup) = true) :
    blockNumber.isSome = true → serves "chain.get_block_by_number" = true := by
  intro hsome
  apply hv.blockLookup
  cases blockNumber with
  | none => cases hsome
  | some number => exact h

theorem supported_queryListResources {input : ListResourcesInput}
    (hv : Vouches serves ctx.config.vmProfile ctx.startupProbe)
    (h : (EndpointRequest.listResources input).vouched ctx.startupProbe = true) :
    Supported serves ctx.config.vmProfile (ctx.listResources input) := by
  obtain ⟨hlisting, hblock⟩ := (Bool.and_eq_true _ _).mp h
  apply (supported_ensureCapability _ hlisting).bind
  intro _
  apply supported_takeExpensivePermit.bind
  intro _
  apply (supported_resolveStateRoot (blockLookup_of_vouched hv hblock)).bind
  intro stateRoot
  apply (supported_listResources (hv.resourceListing hlisting)).bind
  intro listed
  exact supported_pure

theorem supported_listModules {input : ListModulesInput}
    (hv : Vouches serves ctx.config.vmProfile ctx.startupProbe)
    (h : (EndpointRequest.listModules input).vouched ctx.startupProbe = true) :
    Supported serves ctx.config.vmProfile (ctx.listModules input) := by
  obtain ⟨hlisting, hblock⟩ := (Bool.and_eq_true _ _).mp h
  apply (supported_ensureCapability _ hlisting).bind
  intro _
  apply supported_takeExpensivePermit.bind
  intro _
  apply (supported_resolveStateRoot (blockLookup_of_vouched hv hblock)).bind
  intro stateRoot
  apply (supported_listCode (hv.moduleListing hlisting)).bind
  intro listed
  exact supported_pure

/-- The three ABI tools: the capability, the cache, and one of two methods. -/
theorem supported_resolveAbi {held : Option Value} {methods : List String} {params : Value}
    {wrap : Value → Value} (h : ctx.startupProbe.supportsAbiResolution = true)
    (hmethods : methods.any serves = true) :
    Supported serves ctx.config.vmProfile (do
      ctx.ensureAbiResolution
      let abi ← NodeRpcClient.cachedValue held
        (NodeRpcClient.callFirstAvailable asValue methods params)
      pure (wrap abi)) := by
  apply (supported_ensureCapability _ h).bind
  intro _
  apply (supported_cachedValue
    (supported_callFirstAvailable saysMissing_asValue _ hmethods)).bind
  intro abi
  exact supported_pure

theorem supported_callViewFunction (input : CallViewFunctionInput)
    (hv : Vouches serves ctx.config.vmProfile ctx.startupProbe)
    (h : ctx.startupProbe.supportsViewCall = true) :
    Supported serves ctx.config.vmProfile (ctx.callViewFunction input) := by
  apply (supported_ensureCapability _ h).bind
  intro _
  apply (supported_callFirstAvailable saysMissing_asVec _ (hv.viewCall h)).bind
  intro values
  exact supported_pure

theorem supported_gasPrice {vmProfile : VmProfile} (h : serves "txpool.gas_price" = true) :
    Supported serves vmProfile NodeRpcClient.gasPrice := by
  apply (supported_callAs saysMissing_asValue _ h).bind
  intro value
  cases value.parseU64 with
  | some price => exact supported_pure
  | none =>
    apply supported_throw
    intro hcode
    cases hcode

theorem supported_submitHexTransaction {vmProfile : VmProfile} (signedTxnBcsHex : String)
    (h : (vmProfile.transactionMethods "txpool.submit_hex_transaction2"
      "txpool.submit_hex_transaction").any serves = true) :
    Supported serves vmProfile (NodeRpcClient.submitHexTransaction vmProfile signedTxnBcsHex) := by
  apply (supported_callFirstAvailable saysMissing_asValue _ h).bind
  intro hashValue
  apply supported_lift
  unfold extractSubmissionHash
  split <;> rfl

/-- A request that the probe vouches for finds its methods. -/
theorem supported_of_vouched (hv : Vouches serves ctx.config.vmProfile ctx.startupProbe) {α : Type}
    (request : EndpointRequest α) (h : request.vouched ctx.startupProbe = true) :
    Supported serves ctx.config.vmProfile (request.run ctx) := by
  cases request with
  | chainStatus => exact supported_chainStatus hv
  | nodeHealth => exact supported_nodeHealth hv
  | getBlock input => exact supported_getBlock hv h
  | listBlocks input =>
    apply (supported_callAs saysMissing_asVec _ (hv.blockListing h)).bind
    intro blocks
    exact supported_pure
  | getTransaction input => exact supported_getTransaction input hv h
  | getEvents input => exact supported_getEvents input hv h
  | getAccountOverview input => exact supported_getAccountOverview hv h
  | listResources input => exact supported_queryListResources hv h
  | listModules input => exact supported_listModules hv h
  | resolveFunctionAbi functionId => exact supported_resolveAbi h (hv.resolveFunction h)
  | resolveStructAbi structTag => exact supported_resolveAbi h (hv.resolveStruct h)
  | resolveModuleAbi moduleId => exact supported_resolveAbi h (hv.resolveModule h)
  | callViewFunction input => exact supported_callViewFunction input hv h
  | gasPrice => exact supported_gasPrice (hv.gasPrice h)
  | nextSequenceNumber address =>
    apply (supported_callFirstAvailable saysMissing_asOptional _ (hv.nextSequenceNumber h)).bind
    intro value
    exact supported_pure
  | dryRunRaw rawTxnBcsHex senderPublicKey =>
    exact supported_callFirstAvailable saysMissing_asValue _ (hv.rawDryRun h)
  | submitHexTransaction signedTxnBcsHex =>
    exact supported_submitHexTransaction signedTxnBcsHex (hv.submission h)

end Requests

/-! ## What a started server can rely on -/

namespace EndpointRequest

/-- What a server does not start without. -/
def required (mode : Mode) : {α : Type} → EndpointRequest α → Bool
  | _, .chainStatus | _, .nodeHealth | _, .getTransaction _ => true
  | _, .getBlock input => input.blockHash.isNone && input.blockNumber.isSome
  | _, .gasPrice | _, .nextSequenceNumber _ | _, .dryRunRaw _ _ | _, .submitHexTransaction _ =>
    mode = .transaction
  | _, _ => false

/-- What `bootstrap` asks of the probe. -/
theorem capabilities_of_bootstrap {vm : Vm2} {config : RuntimeConfig} {startupProbe : EffectiveProbe}
    {nodeInfo chainInfo : Value} {observedAt : Instant} {ctx : AppContext} {s : Shared}
    (h : bootstrap vm config startupProbe nodeInfo chainInfo observedAt = .ok (ctx, s)) :
    ctx.startupProbe.supportsBlockLookup = true ∧ ctx.startupProbe.supportsTransactionLookup = true ∧
      (ctx.config.mode = .transaction → ctx.startupProbe.supportsTransactionSubmission = true ∧
        ctx.startupProbe.supportsRawDryRun = true) := by
  obtain ⟨_, hcheck, hctx⟩ := bind_eq_ok h
  obtain ⟨rfl, rfl⟩ := Prod.mk.inj (Except.ok.inj hctx)
  obtain ⟨_, -, hcheck⟩ := bind_eq_ok hcheck
  dsimp only at hcheck
  split at hcheck
  · cases hcheck
  · rename_i hquery
    split at hcheck
    · cases hcheck
    · rename_i htransaction
      simp only [Bool.or_eq_true, Bool.not_eq_true', not_or, Bool.not_eq_false] at hquery
      refine ⟨hquery.1, hquery.2, ?_⟩
      simpa using htransaction

theorem vouched_of_required {vm : Vm2} {config : RuntimeConfig} {startupProbe : EffectiveProbe}
    {nodeInfo chainInfo : Value} {observedAt : Instant} {ctx : AppContext} {s : Shared}
    (hstart : bootstrap vm config startupProbe nodeInfo chainInfo observedAt = .ok (ctx, s))
    {α : Type} (request : EndpointRequest α) (h : request.required ctx.config.mode = true) :
    request.vouched ctx.startupProbe = true := by
  obtain ⟨hblock, htransaction, hmode⟩ := capabilities_of_bootstrap hstart
  cases request with
  | chainStatus => rfl
  | nodeHealth => rfl
  | getTransaction input => exact htransaction
  | getBlock input => exact (Bool.and_eq_true _ _).mpr ⟨h, hblock⟩
  | gasPrice => exact (hmode (of_decide_eq_true h)).1
  | nextSequenceNumber address => exact (hmode (of_decide_eq_true h)).1
  | dryRunRaw rawTxnBcsHex senderPublicKey => exact (hmode (of_decide_eq_true h)).2
  | submitHexTransaction signedTxnBcsHex => exact (hmode (of_decide_eq_true h)).1
  | _ => cases h

end EndpointRequest

/-- A server that started against an endpoint whose methods stay the same is never told that a method
is missing, in any request that it needs in order to start or that its probe vouches for. -/
theorem requests_find_their_methods {serves : String → Bool} {ctx : ToolContext} {vm : Vm2}
    {config : RuntimeConfig} {startupProbe : EffectiveProbe} {nodeInfo chainInfo : Value}
    {observedAt : Instant} {s : Shared} {t d : List QueryEvent} {α : Type}
    {request : EndpointRequest α} {r : Except SharedError α}
    (hprobe : Ended (NodeRpcClient.probe config.vmProfile (config.mode = .transaction)) t
      (.ok startupProbe))
    (ht : ∀ e ∈ t, Truthful serves config.vmProfile e)
    (hstart : bootstrap vm config startupProbe nodeInfo chainInfo observedAt =
      .ok (ctx.toAppContext, s))
    (hrequest : request.required ctx.config.mode = true ∨ request.vouched ctx.startupProbe = true)
    (h : Ended (request.run ctx) d r) (hd : ∀ e ∈ d, Truthful serves config.vmProfile e) :
    saysMissing r = false := by
  have hvouched : request.vouched ctx.startupProbe = true := by
    rcases hrequest with hrequired | hvouched
    · exact EndpointRequest.vouched_of_required hstart request hrequired
    · exact hvouched
  obtain ⟨_, _, hctx⟩ := bind_eq_ok hstart
  have happ : (⟨vm, config, startupProbe⟩ : AppContext) = ctx.toAppContext :=
    (Prod.mk.inj (Except.ok.inj hctx)).1
  have hconfig : config = ctx.config := congrArg AppContext.config happ
  have hstartup : startupProbe = ctx.startupProbe := congrArg AppContext.startupProbe happ
  subst hconfig hstartup
  have hvouches : Vouches serves ctx.config.vmProfile ctx.startupProbe :=
    hprobe.given (probe_vouches _) ht
  exact h.given (supported_of_vouched hvouches request hvouched) hd

namespace Sample

/-- An endpoint that lists no resources of the second version. -/
def servesLegacy (method : String) : Bool := method ≠ "state2.list_resource"

def legacyReply : (o : QueryOp) → o.Ans
  | .call method _ =>
    if method = "state2.list_resource" then
      .error (.new .unsupportedOperation "rpc method state2.list_resource is not available")
    else if method = "node.status" then .ok (.bool true)
    else .ok .null
  | .getBlock _ => .ok none
  | .nextSequenceNumber _ => .ok none
  | .tryExpensivePermit => true

theorem truthful_legacyReply (o : QueryOp) : Truthful servesLegacy .auto ⟨o, legacyReply o⟩ := by
  cases o with
  | call method params =>
    show saysMissing (legacyReply (.call method params)) = !servesLegacy method
    unfold legacyReply servesLegacy
    by_cases hlisting : method = "state2.list_resource"
    · simp [hlisting, saysMissing, SharedError.new]
    · by_cases hstatus : method = "node.status" <;> simp [hlisting, hstatus, saysMissing]
  | getBlock number =>
    have hserved : servesLegacy "chain.get_block_by_number" = true := by decide
    show saysMissing (Except.ok none : Except SharedError (Option Value)) = _
    rw [hserved]
    rfl
  | nextSequenceNumber address =>
    have hserved : (VmProfile.auto.transactionMethods "txpool.next_sequence_number2"
        "txpool.next_sequence_number").any servesLegacy = true := by decide
    show saysMissing (Except.ok none : Except SharedError (Option UInt64)) = _
    rw [hserved]
    rfl
  | tryExpensivePermit => trivial

def toolCtx : ToolContext where
  toAppContext := ctx
  maxAccountResourceLimit := 100
  maxAccountModuleLimit := 50
  maxListResourcesSize := 100
  maxListBlocksCount := 100
  maxEventsLimit := 200
  maxListModulesSize := 50
  chainInfoHeld := none
  abiHeld := fun _ => none

def overview : EndpointRequest GetAccountOverviewOutput :=
  .getAccountOverview ⟨"0xb2", true, true, none, none⟩

/-- The run against this endpoint, where it ends. -/
theorem ended_legacy {α : Type} {p : Query α} {r : Except SharedError α}
    (h : (p.answeredBy legacyReply).map Prod.snd = some r) :
    ∃ d, Ended p d r ∧ ∀ e ∈ d, Truthful servesLegacy .auto e := by
  obtain ⟨⟨d, r'⟩, hrun, rfl⟩ := Option.map_eq_some_iff.mp h
  refine ⟨d, ended_of_answeredBy hrun, ?_⟩
  intro e he
  rw [eq_reply_of_answeredBy hrun e he]
  exact truthful_legacyReply e.1

theorem probe_legacy :
    ((NodeRpcClient.probe config.vmProfile (config.mode = .transaction)).answeredBy
      legacyReply).map Prod.snd = some (.ok probe) := by
  rfl

/-- The overview's listing falls back on the first version's answer. -/
theorem overview_finds_its_methods :
    ∃ d r, Ended (overview.run toolCtx) d r ∧ saysMissing r = false := by
  obtain ⟨t, hprobe, ht⟩ := ended_legacy probe_legacy
  obtain ⟨r, hr⟩ := Option.isSome_iff_exists.mp
    (by rfl : (((overview.run toolCtx).answeredBy legacyReply).map Prod.snd).isSome = true)
  obtain ⟨d, hrun, hd⟩ := ended_legacy hr
  have hcheck : checkStartup config probe nodeInfo chainInfo = .ok () := by decide +kernel
  have hstart : bootstrap vm config probe nodeInfo chainInfo 0 = .ok (toolCtx.toAppContext, start) := by
    unfold bootstrap
    rw [hcheck]
    rfl
  exact ⟨d, r, hrun, requests_find_their_methods hprobe ht hstart (.inr rfl) hrun hd⟩

end Sample

end StarcoinMcp.Node
