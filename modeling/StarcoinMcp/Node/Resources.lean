import StarcoinMcp.Lib.Interaction
import StarcoinMcp.Node.Calls

/-! Resource listings, from the endpoint's answer to what `list_resources` and
`get_account_overview` return. The endpoint lists resources as an object or as an array of
named entries; the client reads both forms, the tools only the first. -/

namespace StarcoinMcp.Node

open Prog

/-! ## Documents -/

def optionalString : Option String → Value
  | some s => .string s
  | none => .null

mutual

/-- Equality of documents: the order of an object's members is no part of it. -/
def sameValue : Value → Value → Bool
  | .null, .null => true
  | .bool a, .bool b => a == b
  | .number a, .number b => a == b
  | .string a, .string b => a == b
  | .array as, .array bs => sameItems as bs
  | .object as, .object bs => as.length == bs.length && sameEntries as bs
  | _, _ => false

def sameItems : List Value → List Value → Bool
  | [], [] => true
  | a :: as, b :: bs => sameValue a b && sameItems as bs
  | _, _ => false

def sameEntries : List (String × Value) → List (String × Value) → Bool
  | [], _ => true
  | (key, a) :: as, bs =>
    (match bs.find? fun b => b.1 = key with
      | some b => sameValue a b.2
      | none => false) && sameEntries as bs

end

/-! ## The client -/

/-- What the queries ask for. A call is answered with the result of its envelope; `getBlock` and
`nextSequenceNumber` are the client's methods as a whole. -/
inductive QueryOp
  | call (method : String) (params : Value)
  | getBlock (number : UInt64)
  | nextSequenceNumber (address : String)
  | tryExpensivePermit

abbrev QueryOp.Ans : QueryOp → Type
  | .call _ _ => Except SharedError Value
  | .getBlock _ => Except SharedError (Option Value)
  | .nextSequenceNumber _ => Except SharedError (Option UInt64)
  | .tryExpensivePermit => Bool

abbrev Query := Prog QueryOp QueryOp.Ans SharedError

abbrev QueryEvent := Answered QueryOp.Ans

/-- The arguments of `NodeRpcClient::list_resources`. -/
structure ListingRequest where
  address : String
  decode : Bool
  startIndex : UInt64
  maxSize : UInt64
  stateRoot : Option String
  resourceTypes : List String

def ListingRequest.filter (req : ListingRequest) : List (String × Value) :=
  [("decode", .bool req.decode), ("state_root", optionalString req.stateRoot),
    ("start_index", .number (.posInt req.startIndex)), ("max_size", .number (.posInt req.maxSize)),
    ("resource_types",
      if req.resourceTypes.isEmpty then .null else .array (req.resourceTypes.map .string))]

def legacyListResourcesParams (req : ListingRequest) : Value :=
  .array [.string req.address, .object req.filter]

def vm2ListResourcesParams (req : ListingRequest) : Value :=
  .array [.string req.address, .object (req.filter ++ [("primary_fungible_store", .object [])])]

def primaryFungibleStoreStructTag : String :=
  "0x00000000000000000000000000000001::fungible_asset::FungibleStore"

def vm2GetResourceParams (address resourceType : String) (decode : Bool) (stateRoot : Option String)
    (includePrimaryFungibleStore : Bool) : Value :=
  .array [.string address, .string resourceType,
    .object [("decode", .bool decode), ("state_root", optionalString stateRoot),
      ("primary_fungible_store", if includePrimaryFungibleStore then .object [] else .null)]]

/-- The parameters of `state.list_code` and of `state2.list_code`. -/
def listCodeParams (address : String) (resolve : Bool) (stateRoot : Option String) : Value :=
  .array [.string address,
    .object [("resolve", .bool resolve), ("state_root", optionalString stateRoot)]]

def validateListResourcesResponse (resources : Value) : Except SharedError Unit :=
  match resources.get "resources" with
  | some (.object _) | some (.array _) => .ok ()
  | _ => .error (.new .rpcUnavailable "state2.list_resource returned a malformed resources envelope")

def extractSequenceNumberFromObjectEntries (entries : List (String × Value)) : Option UInt64 :=
  (entries.find? fun e => Text.contains e.1 "::account::Account").bind fun e =>
    ((e.2.get "json").bind (Value.get "sequence_number")).bind Value.parseU64

/-- The name under which an array lists an entry. -/
def resourceName (resource : Value) : Option String := (resource.get "name").bind Value.asStr

def extractSequenceNumberFromArrayEntries (entries : List Value) : Option UInt64 :=
  (entries.find? fun resource =>
      ((resourceName resource).map fun name => Text.contains name "::account::Account").getD false).bind
    fun resource =>
      ((((resource.get "value").getD resource).get "json").bind (Value.get "sequence_number")).bind
        Value.parseU64

/-- The summary that stands in for an account state. -/
def summaryOf (sequenceNumber : Option UInt64) : Option Value :=
  sequenceNumber.map fun n => .object [("sequence_number", .number (.posInt n))]

def synthesizeAccountStateFromResources (resources : Value) : Option Value :=
  match resources.get "resources" with
  | some (.object entries) =>
    if entries.isEmpty then none else summaryOf (extractSequenceNumberFromObjectEntries entries)
  | some (.array entries) =>
    if entries.isEmpty then none else summaryOf (extractSequenceNumberFromArrayEntries entries)
  | _ => none

def resourceEntriesAreNonEmpty (value : Value) : Bool :=
  match value.get "resources" with
  | some (.object entries) => !entries.isEmpty
  | some (.array entries) => !entries.isEmpty
  | _ => false

/-- `Map::insert`: a member that is there keeps its place. -/
def insertMember (members : List (String × Value)) (key : String) (value : Value) :
    List (String × Value) :=
  if members.any fun m => m.1 = key then
    members.map fun m => if m.1 = key then (key, value) else m
  else members ++ [(key, value)]

def mergeAccountStateSummary (state repair : Value) : Value :=
  match state, repair with
  | .object members, .object repairs =>
    .object (repairs.foldl (fun members r =>
      match r.2 with
      | .null => members
      | value => insertMember members r.1 value) members)
  | _, .null => state
  | _, _ => repair

def legacyAccountStateHasSequenceNumber (state : Value) : Bool :=
  ((state.get "sequence_number").bind Value.parseU64).isSome

def accountResourceType : String := "0x1::account::Account"

namespace NodeRpcClient

/-- One call, with its error as a value. -/
def call (method : String) (params : Value) : Query (Except SharedError Value) :=
  ask (QueryOp.call method params)

/-- `call_value`, of which the endpoint's part is left to it. -/
def askValue (method : String) (params : Value) : Query Value := do
  let reply ← call method params
  lift reply

/-- A result that is read as an `Option`. -/
def optional : Value → Option Value
  | .null => none
  | value => some value

def listResourcesViaVm2 (req : ListingRequest) : Query Value := do
  let value ← askValue "state2.list_resource" (vm2ListResourcesParams req)
  lift (validateListResourcesResponse value)
  pure value

/-- The second listing, when the first has no entries. -/
def retryViaVm2 (req : ListingRequest) (value : Value) : Query Value := do
  match ← (listResourcesViaVm2 req).attempt with
  | .ok vm2Value => pure vm2Value
  | .error error => if error.code = .unsupportedOperation then pure value else throw error

def listResources (vmProfile : VmProfile) (req : ListingRequest) : Query Value :=
  if vmProfile = .vm2Only then listResourcesViaVm2 req
  else do
    let legacyResult ← call "state.list_resource" (legacyListResourcesParams req)
    if vmProfile = .vm1Only then lift legacyResult
    else
      match legacyResult with
      | .ok value =>
        if resourceEntriesAreNonEmpty value then pure value else retryViaVm2 req value
      | .error error =>
        if error.code = .unsupportedOperation then listResourcesViaVm2 req else throw error

def accountStateFromVm2Resources (address : String) : Query (Option Value) := do
  let resources ← listResourcesViaVm2 ⟨address, true, 0, 32, none, []⟩
  pure (synthesizeAccountStateFromResources resources)

def accountStateFromResourceListing (vmProfile : VmProfile) (address : String) :
    Query (Option Value) := do
  let resources ← listResources vmProfile ⟨address, true, 0, 20, none, [accountResourceType]⟩
  pure (synthesizeAccountStateFromResources resources)

/-- The state read from the listing, for a node that has none to offer (`state` is `none`) or one
without a sequence number. -/
def repairState (vmProfile : VmProfile) (address : String) (state : Option Value) :
    Query (Option Value) := do
  match ← (accountStateFromResourceListing vmProfile address).attempt with
  | .ok (some vm2State) =>
    pure (some (match state with
      | some state => mergeAccountStateSummary state vm2State
      | none => vm2State))
  | .ok none => pure state
  | .error error => if error.code = .unsupportedOperation then pure state else throw error

def getAccountState (vmProfile : VmProfile) (address : String) : Query (Option Value) :=
  if vmProfile = .vm2Only then accountStateFromVm2Resources address
  else do
    match ← call "state.get_account_state" (.array [.string address]) with
    | .ok value =>
      match optional value with
      | some state =>
        if legacyAccountStateHasSequenceNumber state then pure (some state)
        else repairState vmProfile address (some state)
      | none => repairState vmProfile address none
    | .error error =>
      if error.code = .unsupportedOperation then accountStateFromResourceListing vmProfile address
      else throw error

def listCode (vmProfile : VmProfile) (address : String) (resolve : Bool) (stateRoot : Option String) :
    Query Value :=
  askValue (if vmProfile = .vm2Only then "state2.list_code" else "state.list_code")
    (listCodeParams address resolve stateRoot)

def getPrimaryStcBalanceResource (vmProfile : VmProfile) (address : String) :
    Query (Option Value) :=
  if vmProfile = .vm1Only then pure none
  else do
    match ← call "state2.get_resource"
      (vm2GetResourceParams address primaryFungibleStoreStructTag true none true) with
    | .ok resource => pure (optional resource)
    | .error error => if error.code = .unsupportedOperation then pure none else throw error

end NodeRpcClient

/-! ## Entries -/

def namedResourceEntry (name : String) (value : Value) : Value :=
  .object [("name", .string name), ("value", value)]

def mapNamedEntries (container : Value) (field : String) : List Value :=
  match (container.get field).bind Value.asObject with
  | some entries => entries.map fun e => namedResourceEntry e.1 e.2
  | none => []

/-- What follows the first occurrence of `marker`. -/
def afterMarker (marker : List Char) : List Char → Option (List Char)
  | [] => Text.stripPrefix marker []
  | c :: cs =>
    match Text.stripPrefix marker (c :: cs) with
    | some rest => some rest
    | none => afterMarker marker cs

def extractGenericResourceToken (name container : String) : Option String :=
  (afterMarker (container ++ "<").toList name.toList).bind fun rest =>
    if rest.getLast? = some '>' then some (String.ofList rest.dropLast) else none

/-- An entry that `extract_balance_resources` keeps. -/
def isBalanceName (name : String) : Bool :=
  Text.contains name "Balance" || Text.contains name "balance" ||
    Text.contains name "::fungible_asset::FungibleStore" ||
    (extractGenericResourceToken name "CoinStore").isSome

def extractBalanceResources (resources balances : List Value) : List Value :=
  resources.foldl (fun balances resource =>
    match resourceName resource with
    | some name => if isBalanceName name then balances ++ [resource] else balances
    | none => balances) balances

/-- The token that an entry's name shows the account to accept. -/
def acceptedToken (name : String) : Option String :=
  match extractGenericResourceToken name "CoinStore" with
  | some token => some token
  | none => if Text.contains name "Token" || Text.contains name "token" then some name else none

def extractAcceptedTokens (resources : List Value) (acceptedTokens : List String) : List String :=
  resources.foldl (fun accepted resource =>
    match (resourceName resource).bind acceptedToken with
    | some token => if accepted.contains token then accepted else accepted ++ [token]
    | none => accepted) acceptedTokens

def sameResourceValue (candidate : Option Value) (expected : Value) : Bool :=
  match candidate with
  | none => false
  | some candidate =>
    sameValue candidate expected ||
      match (candidate.get "raw").bind Value.asStr, (expected.get "raw").bind Value.asStr with
      | some candidateRaw, some expectedRaw => candidateRaw == expectedRaw
      | _, _ => false

/-- The balances that stay beside the primary store. -/
def keptBesidePrimaryStore (stcToken : String) (primaryStore resource : Value) : Bool :=
  match resourceName resource with
  | none => true
  | some name =>
    if resourceName primaryStore = some name &&
        ((primaryStore.get "value").map (sameResourceValue (resource.get "value"))).getD false then
      false
    else ((extractGenericResourceToken name "CoinStore").map fun token => token != stcToken).getD true

def replaceStcBalanceWithPrimaryStore (stcToken : String) (balances : List Value)
    (primaryStore : Value) : List Value :=
  primaryStore :: balances.filter (keptBesidePrimaryStore stcToken primaryStore)

/-! ## The tools -/

/-- The context, with the limits of its configuration that the listings read. -/
structure QueryContext extends AppContext where
  maxAccountResourceLimit : UInt64
  maxAccountModuleLimit : UInt64
  maxListResourcesSize : UInt64

structure GetAccountOverviewInput where
  address : String
  includeResources : Bool
  includeModules : Bool
  resourceLimit : Option UInt64
  moduleLimit : Option UInt64

structure ListResourcesInput where
  address : String
  resourceType : Option String
  startIndex : Option UInt64
  maxSize : Option UInt64
  decode : Bool
  blockNumber : Option UInt64

structure GetAccountOverviewOutput where
  address : String
  onchainExists : Bool
  sequenceNumber : Option UInt64
  balances : List Value
  acceptedTokens : List String
  resources : Option (List Value)
  modules : Option (List Value)
  appliedResourceLimit : Option UInt64
  appliedModuleLimit : Option UInt64
  nextSequenceNumberHint : Option UInt64

structure ListResourcesOutput where
  address : String
  stateRoot : Option String
  resources : List Value
  effectiveMaxSize : UInt64

/-- What the overview takes from a listing. -/
structure ResourcePart where
  balances : List Value
  acceptedTokens : List String
  resources : Option (List Value)
  appliedResourceLimit : Option UInt64

/-- The listed entries with the balances and the tokens they show, and the primary store in the
place of the other STC balances. -/
def resourcePart (vm : Vm2) (limit : UInt64) (listed : Value) (primaryStore : Option Value) :
    ResourcePart :=
  let mapped := mapNamedEntries listed "resources"
  let balances := extractBalanceResources mapped []
  let acceptedTokens := extractAcceptedTokens mapped []
  let stcToken := vm.tokenText vm.stcTokenCode
  match primaryStore with
  | none => ⟨balances, acceptedTokens, some mapped, some limit⟩
  | some resource =>
    ⟨replaceStcBalanceWithPrimaryStore stcToken balances
        (namedResourceEntry primaryFungibleStoreStructTag resource),
      if acceptedTokens.contains stcToken then acceptedTokens else acceptedTokens ++ [stcToken],
      some mapped, some limit⟩

namespace QueryContext

variable (ctx : QueryContext)

def takeExpensivePermit : Query Unit := do
  let free ← ask QueryOp.tryExpensivePermit
  if free then pure ()
  else throw (SharedError.retry .rateLimited "max_inflight_expensive_requests is exhausted")

def resolveStateRoot : Option UInt64 → Query (Option String)
  | none => pure none
  | some number => do
    let found ← ask (QueryOp.getBlock number)
    match ← lift found with
    | none => throw (SharedError.new .blockNotFound s!"block {number} was not found")
    | some block =>
      match extractOptionalString block ["header", "state_root"] with
      | some stateRoot => pure (some stateRoot)
      | none =>
        throw (SharedError.new .rpcUnavailable s!"block {number} is missing header.state_root")

def loadOptionalNextSequenceNumberHint (address : String) : Query (Option UInt64) := do
  let reply ← ask (QueryOp.nextSequenceNumber address)
  lift (AppContext.degradeSequenceLookup reply)

def listResources (input : ListResourcesInput) : Query ListResourcesOutput := do
  lift (ensureCapability ctx.startupProbe.supportsResourceListing
    "resource listing is unavailable for this endpoint profile")
  takeExpensivePermit
  let effectiveMaxSize := min (input.maxSize.getD ctx.maxListResourcesSize) ctx.maxListResourcesSize
  let stateRoot ← resolveStateRoot input.blockNumber
  let listed ← NodeRpcClient.listResources ctx.config.vmProfile ⟨input.address, input.decode,
    input.startIndex.getD 0, effectiveMaxSize, stateRoot, input.resourceType.toList⟩
  pure ⟨input.address, stateRoot, mapNamedEntries listed "resources", effectiveMaxSize⟩

/-- The overview's listing of resources, when it is asked for. -/
def loadResources (input : GetAccountOverviewInput) : Query ResourcePart :=
  if input.includeResources then do
    lift (ensureCapability ctx.startupProbe.supportsResourceListing
      "resource listing is unavailable for this endpoint profile")
    takeExpensivePermit
    let effectiveLimit :=
      min (input.resourceLimit.getD ctx.maxAccountResourceLimit) ctx.maxAccountResourceLimit
    let listed ← NodeRpcClient.listResources ctx.config.vmProfile
      ⟨input.address, true, 0, effectiveLimit, none, []⟩
    let primaryStore ← NodeRpcClient.getPrimaryStcBalanceResource ctx.config.vmProfile input.address
    pure (resourcePart ctx.vm effectiveLimit listed primaryStore)
  else pure ⟨[], [], none, none⟩

/-- The overview's listing of modules, with the limit applied to it. -/
def loadModules (input : GetAccountOverviewInput) : Query (Option (List Value) × Option UInt64) :=
  if input.includeModules then do
    lift (ensureCapability ctx.startupProbe.supportsModuleListing
      "module listing is unavailable for this endpoint profile")
    takeExpensivePermit
    let effectiveLimit :=
      min (input.moduleLimit.getD ctx.maxAccountModuleLimit) ctx.maxAccountModuleLimit
    let listed ← NodeRpcClient.listCode ctx.config.vmProfile input.address true none
    pure (some ((mapNamedEntries listed "codes").take effectiveLimit.toNat), some effectiveLimit)
  else pure (none, none)

def getAccountOverview (input : GetAccountOverviewInput) : Query GetAccountOverviewOutput := do
  lift (ensureCapability ctx.startupProbe.supportsAccountStateLookup
    "account overview is unavailable for this endpoint profile")
  let state ← NodeRpcClient.getAccountState ctx.config.vmProfile input.address
  let nextSequenceNumberHint ← loadOptionalNextSequenceNumberHint input.address
  let part ← ctx.loadResources input
  let modules ← ctx.loadModules input
  pure {
    address := input.address
    onchainExists := state.isSome
    sequenceNumber := state.bind fun value => extractOptionalU64 value ["sequence_number"]
    balances := part.balances
    acceptedTokens := part.acceptedTokens
    resources := part.resources
    modules := modules.1
    appliedResourceLimit := part.appliedResourceLimit
    appliedModuleLimit := modules.2
    nextSequenceNumberHint := nextSequenceNumberHint }

end QueryContext

/-! ## Which response a run lists -/

def calledMethod : QueryOp → Option String
  | .call method _ => some method
  | _ => none

/-- A call that lists resources, in either version. -/
def isListing (o : QueryOp) : Bool :=
  calledMethod o = some "state.list_resource" || calledMethod o = some "state2.list_resource"

def listings (d : List QueryEvent) : List QueryEvent := d.filter fun e => isListing e.1

/-- The last listing of the run is a call of `state2.list_resource` that `response` answers. -/
def AnsweredWith (response : Value) (d : List QueryEvent) : Prop :=
  ∃ params, (listings d).getLast? = some ⟨.call "state2.list_resource" params, .ok response⟩

theorem listings_append (d d' : List QueryEvent) : listings (d ++ d') = listings d ++ listings d' :=
  List.filter_append ..

theorem listings_of_asks {α : Type} {p : Query α} {d : List QueryEvent} {r : Except SharedError α}
    (hp : Asks (fun o => !isListing o) p) (h : Ended p d r) : listings d = [] := by
  apply List.filter_eq_nil_iff.mpr
  intro e he
  have hnot := h.asked hp e he
  simpa using hnot

theorem listings_eq_self {α : Type} {p : Query α} {d : List QueryEvent} {r : Except SharedError α}
    (hp : Asks isListing p) (h : Ended p d r) : listings d = d := by
  apply List.filter_eq_self.mpr
  intro e he
  exact h.asked hp e he

namespace NodeRpcClient

theorem asks_listResourcesViaVm2 (req : ListingRequest) : Asks isListing (listResourcesViaVm2 req) := by
  have hcall : Asks isListing (askValue "state2.list_resource" (vm2ListResourcesParams req)) :=
    (asks_ask rfl).bind fun _ => asks_lift
  exact hcall.bind fun _ => asks_lift.bind fun _ => asks_pure

theorem asks_listResources (vmProfile : VmProfile) (req : ListingRequest) :
    Asks isListing (listResources vmProfile req) := by
  unfold listResources
  apply asks_ite (asks_listResourcesViaVm2 req)
  apply (asks_ask rfl : Asks isListing (call "state.list_resource" _)).bind
  intro legacyResult
  apply asks_ite asks_lift
  cases legacyResult with
  | ok value =>
    apply asks_ite asks_pure
    apply (asks_listResourcesViaVm2 req).attempt.bind
    intro retried
    cases retried with
    | ok vm2Value => exact asks_pure
    | error error => exact asks_ite asks_pure asks_throw
  | error error => exact asks_ite (asks_listResourcesViaVm2 req) asks_throw

theorem asks_listCode (vmProfile : VmProfile) (address : String) (resolve : Bool)
    (stateRoot : Option String) :
    Asks (fun o => !isListing o) (listCode vmProfile address resolve stateRoot) := by
  unfold listCode
  apply Asks.bind
  · apply asks_ask
    split <;> rfl
  · intro reply
    exact asks_lift

theorem asks_getPrimaryStcBalanceResource (vmProfile : VmProfile) (address : String) :
    Asks (fun o => !isListing o) (getPrimaryStcBalanceResource vmProfile address) := by
  unfold getPrimaryStcBalanceResource
  apply asks_ite asks_pure
  apply Asks.bind
  · exact asks_ask rfl
  · intro reply
    cases reply with
    | ok resource => exact asks_pure
    | error error => exact asks_ite asks_pure asks_throw

/-- A listing by the second version returns what it was answered with. -/
theorem of_listResourcesViaVm2 {req : ListingRequest} {d : List QueryEvent} {r : Except SharedError Value}
    (h : Ended (listResourcesViaVm2 req) d r) :
    ∃ reply, d = [⟨.call "state2.list_resource" (vm2ListResourcesParams req), reply⟩] ∧
      ((∃ value, reply = .ok value ∧
          r = (validateListResourcesResponse value).map fun _ => value) ∨
        ∃ error, reply = .error error ∧ r = .error error) := by
  obtain ⟨reply, d', rfl, hrest⟩ := ended_ask_bind.mp h
  refine ⟨reply, ?_⟩
  cases reply with
  | error error =>
    obtain ⟨rfl, rfl⟩ := ended_throw.mp hrest
    exact ⟨rfl, .inr ⟨error, rfl, rfl⟩⟩
  | ok value =>
    change Ended (lift (validateListResourcesResponse value) >>= fun _ => pure value) d' r at hrest
    cases hvalid : validateListResourcesResponse value with
    | ok u =>
      rw [hvalid] at hrest
      obtain ⟨rfl, rfl⟩ := ended_pure.mp hrest
      exact ⟨rfl, .inl ⟨value, rfl, by rw [hvalid]; rfl⟩⟩
    | error error =>
      rw [hvalid] at hrest
      obtain ⟨rfl, rfl⟩ := ended_throw.mp hrest
      exact ⟨rfl, .inl ⟨value, rfl, by rw [hvalid]; rfl⟩⟩

theorem validate_code {value : Value} {error : SharedError}
    (h : validateListResourcesResponse value = .error error) : error.code = .rpcUnavailable := by
  unfold validateListResourcesResponse at h
  split at h
  · cases h
  · cases h
  · obtain rfl := Except.error.inj h
    rfl

theorem eq_of_listResourcesViaVm2 {req : ListingRequest} {d : List QueryEvent} {value response : Value}
    {params : Value} (h : Ended (listResourcesViaVm2 req) d (.ok value))
    (hlast : d.getLast? = some ⟨.call "state2.list_resource" params, .ok response⟩) :
    value = response := by
  obtain ⟨reply, rfl, ⟨answer, rfl, hr⟩ | ⟨error, -, hr⟩⟩ := of_listResourcesViaVm2 h
  · cases hvalid : validateListResourcesResponse answer with
    | ok u =>
      rw [hvalid] at hr
      cases hr
      cases hlast
      rfl
    | error error =>
      rw [hvalid] at hr
      cases hr
  · cases hr

/-- The value returned is the answer to the last listing, where that is one by the second version
and has been answered. -/
theorem eq_of_listResources {vmProfile : VmProfile} {req : ListingRequest} {d : List QueryEvent}
    {value response : Value} {params : Value} (h : Ended (listResources vmProfile req) d (.ok value))
    (hlast : d.getLast? = some ⟨.call "state2.list_resource" params, .ok response⟩) :
    value = response := by
  unfold listResources at h
  split at h
  · exact eq_of_listResourcesViaVm2 h hlast
  · obtain ⟨legacyResult, d', rfl, hrest⟩ := ended_ask_bind.mp h
    -- the first call is one of the first version, so it is not the last
    have hne : d' ≠ [] := by
      rintro rfl
      have hmethod := congrArg (fun e => calledMethod e.1) (Option.some.inj hlast)
      simp [calledMethod] at hmethod
    rw [List.getLast?_cons_of_ne_nil hne] at hlast
    split at hrest
    · exact absurd (ended_lift.mp hrest).1 hne
    · cases legacyResult with
      | ok legacy =>
        dsimp only at hrest
        split at hrest
        · exact absurd (ended_pure.mp hrest).1 hne
        · obtain ⟨retried, d₁, d₂, rfl, hretry, hend⟩ := hrest.of_bind_ok
          obtain ⟨_, ⟨⟩, hvm2⟩ := hretry.of_attempt
          cases retried with
          | ok vm2Value =>
            obtain ⟨rfl, hvalue⟩ := ended_pure.mp hend
            rw [List.append_nil] at hlast
            cases hvalue
            exact eq_of_listResourcesViaVm2 hvm2 hlast
          | error error =>
            dsimp only at hend
            split at hend
            · rename_i hcode
              obtain ⟨rfl, -⟩ := ended_pure.mp hend
              rw [List.append_nil] at hlast
              obtain ⟨reply, rfl, ⟨answer, rfl, hr⟩ | ⟨e, rfl, hr⟩⟩ := of_listResourcesViaVm2 hvm2
              · cases hvalid : validateListResourcesResponse answer with
                | ok u =>
                  rw [hvalid] at hr
                  cases hr
                | error e =>
                  rw [hvalid] at hr
                  cases hr
                  rw [validate_code hvalid] at hcode
                  cases hcode
              · cases hlast
            · cases hend
      | error error =>
        dsimp only at hrest
        split at hrest
        · exact eq_of_listResourcesViaVm2 hrest hlast
        · cases hrest

theorem ne_nil_of_listResources {vmProfile : VmProfile} {req : ListingRequest} {d : List QueryEvent}
    {r : Except SharedError Value} (h : Ended (listResources vmProfile req) d r) : d ≠ [] := by
  unfold listResources at h
  split at h
  · obtain ⟨reply, rfl, -⟩ := of_listResourcesViaVm2 h
    exact List.cons_ne_nil _ _
  · obtain ⟨legacyResult, d', rfl, -⟩ := ended_ask_bind.mp h
    exact List.cons_ne_nil _ _

end NodeRpcClient

/-- The last listing of a run is the client's, when nothing after it lists resources. -/
theorem eq_of_answeredWith {vmProfile : VmProfile} {req : ListingRequest} {value response : Value}
    {before d after : List QueryEvent}
    (h : Ended (NodeRpcClient.listResources vmProfile req) d (.ok value)) (hafter : listings after = [])
    (hresponse : AnsweredWith response (before ++ d ++ after)) : value = response := by
  obtain ⟨params, hlast⟩ := hresponse
  have hd := listings_eq_self (NodeRpcClient.asks_listResources vmProfile req) h
  have hne := NodeRpcClient.ne_nil_of_listResources h
  rw [listings_append, listings_append, hafter, List.append_nil, hd, List.getLast?_append_of_ne_nil _ hne]
    at hlast
  exact NodeRpcClient.eq_of_listResources h hlast

namespace QueryContext

variable {ctx : QueryContext} {response : Value} {d : List QueryEvent}

theorem listings_of_loadModules {input : GetAccountOverviewInput}
    {r : Except SharedError (Option (List Value) × Option UInt64)}
    (h : Ended (ctx.loadModules input) d r) : listings d = [] := by
  apply listings_of_asks _ h
  unfold loadModules
  apply asks_ite _ asks_pure
  apply asks_lift.bind
  intro capable
  apply Asks.bind
  · apply (asks_ask rfl).bind
    intro free
    exact asks_ite asks_pure asks_throw
  · intro permit
    exact (NodeRpcClient.asks_listCode ..).bind fun listed => asks_pure

theorem resources_of_listResources {input : ListResourcesInput} {out : ListResourcesOutput}
    (h : Ended (ctx.listResources input) d (.ok out)) (hresponse : AnsweredWith response d) :
    out.resources = mapNamedEntries response "resources" := by
  obtain ⟨capable, d₁, d₂, rfl, -, h⟩ := h.of_bind_ok
  obtain ⟨permit, d₃, d₄, rfl, -, h⟩ := h.of_bind_ok
  obtain ⟨stateRoot, d₅, d₆, rfl, -, h⟩ := h.of_bind_ok
  obtain ⟨listed, d₇, d₈, rfl, hlisted, h⟩ := h.of_bind_ok
  obtain ⟨rfl, hout⟩ := ended_pure.mp h
  cases hout
  have hfirst : AnsweredWith response (d₁ ++ d₃ ++ d₅ ++ d₇ ++ []) := by
    simpa only [List.append_assoc] using hresponse
  have hsame := eq_of_answeredWith hlisted rfl hfirst
  rw [hsame]

theorem part_of_loadResources {input : GetAccountOverviewInput} {part : ResourcePart}
    {before after : List QueryEvent} (hincluded : input.includeResources = true)
    (h : Ended (ctx.loadResources input) d (.ok part)) (hafter : listings after = [])
    (hresponse : AnsweredWith response (before ++ d ++ after)) :
    ∃ limit primaryStore, part = resourcePart ctx.vm limit response primaryStore := by
  unfold loadResources at h
  rw [if_pos hincluded] at h
  obtain ⟨capable, d₁, d₂, rfl, -, h⟩ := h.of_bind_ok
  obtain ⟨permit, d₃, d₄, rfl, -, h⟩ := h.of_bind_ok
  obtain ⟨listed, d₅, d₆, rfl, hlisted, h⟩ := h.of_bind_ok
  obtain ⟨primaryStore, d₇, d₈, rfl, hprimary, h⟩ := h.of_bind_ok
  obtain ⟨rfl, hpart⟩ := ended_pure.mp h
  have hquiet := listings_of_asks (NodeRpcClient.asks_getPrimaryStcBalanceResource ..) hprimary
  have hlater : listings (d₇ ++ after) = [] := by
    rw [listings_append, hquiet, hafter, List.append_nil]
  have hlast : AnsweredWith response ((before ++ d₁ ++ d₃) ++ d₅ ++ (d₇ ++ after)) := by
    simpa only [List.append_assoc, List.append_nil] using hresponse
  have hsame := eq_of_answeredWith hlisted hlater hlast
  subst hsame
  exact ⟨_, primaryStore, Except.ok.inj hpart⟩

theorem part_of_getAccountOverview {input : GetAccountOverviewInput} {out : GetAccountOverviewOutput}
    (hincluded : input.includeResources = true)
    (h : Ended (ctx.getAccountOverview input) d (.ok out)) (hresponse : AnsweredWith response d) :
    ∃ limit primaryStore, ResourcePart.mk out.balances out.acceptedTokens out.resources
      out.appliedResourceLimit = resourcePart ctx.vm limit response primaryStore := by
  obtain ⟨capable, d₁, d₂, rfl, -, h⟩ := h.of_bind_ok
  obtain ⟨state, d₃, d₄, rfl, -, h⟩ := h.of_bind_ok
  obtain ⟨hint, d₅, d₆, rfl, -, h⟩ := h.of_bind_ok
  obtain ⟨part, d₇, d₈, rfl, hpart, h⟩ := h.of_bind_ok
  obtain ⟨modules, d₉, d₀, rfl, hmodules, h⟩ := h.of_bind_ok
  obtain ⟨rfl, hout⟩ := ended_pure.mp h
  cases hout
  have hquiet : listings (d₉ ++ []) = [] := by
    rw [List.append_nil]
    exact listings_of_loadModules hmodules
  have hlast : AnsweredWith response ((d₁ ++ d₃ ++ d₅) ++ d₇ ++ (d₉ ++ [])) := by
    simpa only [List.append_assoc] using hresponse
  exact part_of_loadResources hincluded hpart hquiet hlast

end QueryContext

/-! ## The two forms of a listing -/

/-- The entries of a response, in either form, each with its name and its value. -/
def members (response : Value) : List (Option String × Value) :=
  match response.get "resources" with
  | some (.object entries) => entries.map fun e => (some e.1, e.2)
  | some (.array entries) => entries.map fun e => (resourceName e, (e.get "value").getD e)
  | _ => []

/-- There is one entry for each entry of the response, with its name and its value. -/
def Lists (response : Value) (resources : List Value) : Prop :=
  resources.map (fun r => (resourceName r, r.get "value")) =
    (members response).map fun m => (m.1, some m.2)

def objectForm (entries : List (String × Value)) : Value := .object [("resources", .object entries)]

/-- The resources of a response are an array of these entries, each under its name. -/
def IsArrayOf (entries : List (String × Value)) (response : Value) : Prop :=
  response.get "resources" = some (.array (entries.map fun e => namedResourceEntry e.1 e.2))

/-- No entry of the response is lost on its way to what the tools return. -/
structure KeepsEntries (response : Value) : Prop where
  listed : ∀ (ctx : QueryContext) (input : ListResourcesInput) (d : List QueryEvent)
    (out : ListResourcesOutput), Ended (ctx.listResources input) d (.ok out) →
    AnsweredWith response d → Lists response out.resources
  overview : ∀ (ctx : QueryContext) (input : GetAccountOverviewInput) (d : List QueryEvent)
    (out : GetAccountOverviewOutput), Ended (ctx.getAccountOverview input) d (.ok out) →
    input.includeResources = true → AnsweredWith response d →
    ∃ resources, out.resources = some resources ∧ Lists response resources
  /-- What is derived from an array is what is derived from the object of the same entries. -/
  derived : ∀ entries, IsArrayOf entries response → ∀ vm limit primaryStore,
    resourcePart vm limit response primaryStore = resourcePart vm limit (objectForm entries) primaryStore
  sequenceNumber : ∀ entries, IsArrayOf entries response →
    synthesizeAccountStateFromResources response =
      synthesizeAccountStateFromResources (objectForm entries)

theorem get_objectForm (entries : List (String × Value)) :
    (objectForm entries).get "resources" = some (.object entries) := rfl

theorem mapNamedEntries_of_object {response : Value} {entries : List (String × Value)}
    (h : response.get "resources" = some (.object entries)) :
    mapNamedEntries response "resources" = entries.map fun e => namedResourceEntry e.1 e.2 := by
  unfold mapNamedEntries
  rw [h]
  rfl

theorem mapNamedEntries_of_array {response : Value} {entries : List Value}
    (h : response.get "resources" = some (.array entries)) :
    mapNamedEntries response "resources" = [] := by
  unfold mapNamedEntries
  rw [h]
  rfl

theorem lists_of_object {response : Value} {entries : List (String × Value)}
    (h : response.get "resources" = some (.object entries)) :
    Lists response (mapNamedEntries response "resources") := by
  unfold Lists members
  rw [mapNamedEntries_of_object h, h, List.map_map, List.map_map]
  apply List.map_congr_left
  intro e _
  rfl

theorem lists_of_array_iff {response : Value} {entries : List Value}
    (h : response.get "resources" = some (.array entries)) :
    Lists response (mapNamedEntries response "resources") ↔ entries = [] := by
  unfold Lists members
  rw [mapNamedEntries_of_array h, h]
  constructor
  · intro hmaps
    have hlength := congrArg List.length hmaps
    simp only [List.map_nil, List.length_nil, List.length_map] at hlength
    exact List.length_eq_zero_iff.mp hlength.symm
  · rintro rfl
    rfl

/-- The account entry is found in an array where it is found in the object, and read alike. -/
theorem synthesize_of_isArrayOf {response : Value} {entries : List (String × Value)}
    (h : IsArrayOf entries response) :
    synthesizeAccountStateFromResources response =
      synthesizeAccountStateFromResources (objectForm entries) := by
  have hfind : extractSequenceNumberFromArrayEntries
      (entries.map fun e => namedResourceEntry e.1 e.2) =
        extractSequenceNumberFromObjectEntries entries := by
    unfold extractSequenceNumberFromArrayEntries extractSequenceNumberFromObjectEntries
    rw [List.find?_map, Option.bind_map]
    rfl
  unfold synthesizeAccountStateFromResources
  rw [show response.get "resources" = _ from h, get_objectForm]
  dsimp only
  rw [hfind, List.isEmpty_map]

/-- The resources are an object, or an array without entries. -/
def ListedByName (response : Value) : Prop :=
  (∃ entries, response.get "resources" = some (.object entries)) ∨
    response.get "resources" = some (.array [])

theorem form_of_validate {response : Value} (h : validateListResourcesResponse response = .ok ()) :
    (∃ entries, response.get "resources" = some (.object entries)) ∨
      ∃ entries, response.get "resources" = some (.array entries) := by
  unfold validateListResourcesResponse at h
  split at h
  · exact .inl ⟨_, ‹_›⟩
  · exact .inr ⟨_, ‹_›⟩
  · cases h

theorem lists_of_listedByName {response : Value} (h : ListedByName response) :
    Lists response (mapNamedEntries response "resources") := by
  rcases h with ⟨entries, h⟩ | h
  · exact lists_of_object h
  · exact (lists_of_array_iff h).mpr rfl

/-- An array with the entries of a response that is listed by name has none. -/
theorem eq_nil_of_isArrayOf {response : Value} {entries : List (String × Value)}
    (h : ListedByName response) (harray : IsArrayOf entries response) : entries = [] := by
  unfold IsArrayOf at harray
  rcases h with ⟨members, h⟩ | h
  · rw [h] at harray
    cases harray
  · rw [h] at harray
    have hnil := Value.array.inj (Option.some.inj harray)
    exact List.map_eq_nil_iff.mp hnil.symm

theorem keepsEntries_of_listedByName {response : Value} (h : ListedByName response) :
    KeepsEntries response := by
  refine ⟨?_, ?_, ?_, ?_⟩
  · intro ctx input d out hended hresponse
    rw [QueryContext.resources_of_listResources hended hresponse]
    exact lists_of_listedByName h
  · intro ctx input d out hended hincluded hresponse
    obtain ⟨limit, primaryStore, hpart⟩ :=
      QueryContext.part_of_getAccountOverview hincluded hended hresponse
    have hresources : out.resources = some (mapNamedEntries response "resources") := by
      have hfield := congrArg ResourcePart.resources hpart
      cases primaryStore <;> exact hfield
    exact ⟨_, hresources, lists_of_listedByName h⟩
  · intro entries harray vm limit primaryStore
    obtain rfl := eq_nil_of_isArrayOf h harray
    have hmapped : mapNamedEntries response "resources" =
        mapNamedEntries (objectForm []) "resources" := by
      rw [mapNamedEntries_of_array harray, mapNamedEntries_of_object (get_objectForm [])]
      rfl
    unfold resourcePart
    rw [hmapped]
  · intro entries harray
    exact synthesize_of_isArrayOf harray

namespace Sample

/-- A context for an endpoint that serves the second version only. -/
def listingCtx : QueryContext where
  toAppContext := { ctx with config := { config with vmProfile := .vm2Only } }
  maxAccountResourceLimit := 100
  maxAccountModuleLimit := 50
  maxListResourcesSize := 100

def listingInput : ListResourcesInput := ⟨"0xb2", none, none, none, true, none⟩

def listingRun (response : Value) : List QueryEvent :=
  [⟨.tryExpensivePermit, true⟩,
    ⟨.call "state2.list_resource" (vm2ListResourcesParams ⟨"0xb2", true, 0, 100, none, []⟩),
      .ok response⟩]

/-- Whatever response is accepted, `list_resources` can be given it. -/
theorem ended_listing {response : Value} (h : validateListResourcesResponse response = .ok ()) :
    Ended (listingCtx.listResources listingInput) (listingRun response)
      (.ok ⟨"0xb2", none, mapNamedEntries response "resources", 100⟩) := by
  apply Ended.op
  apply Ended.op
  change Ended ((lift (validateListResourcesResponse response) >>= fun _ => pure response) >>=
    fun listed => pure (ListResourcesOutput.mk "0xb2" none (mapNamedEntries listed "resources") 100)) _ _
  rw [h]
  exact .ret _

theorem answeredWith_listing (response : Value) : AnsweredWith response (listingRun response) :=
  ⟨_, rfl⟩

end Sample

/-- An accepted response reaches the tools entry by entry exactly when its resources are an object or
there are none: `map_named_entries` takes an array of entries for no entries at all. -/
theorem entries_kept_iff {response : Value} (haccepted : validateListResourcesResponse response = .ok ()) :
    KeepsEntries response ↔ ListedByName response := by
  constructor
  · intro hkeeps
    have hlists := hkeeps.listed _ _ _ _ (Sample.ended_listing haccepted)
      (Sample.answeredWith_listing response)
    rcases form_of_validate haccepted with hobject | ⟨entries, harray⟩
    · exact .inl hobject
    · obtain rfl := (lists_of_array_iff harray).mp hlists
      exact .inr harray
  · exact keepsEntries_of_listedByName

namespace Sample

def coinStore : String × Value :=
  ("0x00000000000000000000000000000001::coin::CoinStore<0x00000000000000000000000000000042::usdt::USDT>",
    .object [("json", .object [("coin", .object [("value", .number (.posInt 9))])])])

end Sample

theorem entries_kept_of_object : KeepsEntries (objectForm [Sample.coinStore]) :=
  (entries_kept_iff rfl).mpr (.inl ⟨_, rfl⟩)

/-- The form that the sequence number is read from lists no balance and no token. -/
theorem array_of_entries_is_lost : ∃ response : Value,
    validateListResourcesResponse response = .ok () ∧ resourceEntriesAreNonEmpty response = true ∧
      IsArrayOf [Sample.coinStore] response ∧ ¬ KeepsEntries response := by
  refine ⟨.object [("resources", .array [namedResourceEntry Sample.coinStore.1 Sample.coinStore.2])],
    rfl, rfl, rfl, ?_⟩
  intro hkeeps
  have hlists := hkeeps.listed _ _ _ _ (Sample.ended_listing rfl) (Sample.answeredWith_listing _)
  have hnil := (lists_of_array_iff rfl).mp hlists
  exact absurd hnil (List.cons_ne_nil _ _)

end StarcoinMcp.Node
