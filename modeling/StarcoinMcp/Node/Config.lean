import StarcoinMcp.Node.Types
import StarcoinMcp.Lib.FailState

/-! The runtime configuration and what `validate` accepts. Of the endpoint URL only the
scheme and the host are looked at. -/

namespace StarcoinMcp.Node

structure EndpointUrl where
  scheme : String
  host : Option String
deriving DecidableEq, Repr

structure RuntimeConfig where
  rpcEndpointUrl : EndpointUrl
  mode : Mode
  vmProfile : VmProfile
  expectedChainId : Option UInt8
  expectedNetwork : Option String
  expectedGenesisHash : Option String
  requireGenesisHashMatch : Bool
  connectTimeout : Duration
  requestTimeout : Duration
  startupProbeTimeout : Duration
  allowedRpcHosts : List String
  allowInsecureRemoteTransport : Bool
  allowReadOnlyChainAutodetect : Bool
  defaultExpirationTtl : Duration
  maxExpirationTtl : Duration
  watchPollInterval : Duration
  watchTimeout : Duration
  maxHeadLag : Duration
  warnHeadLag : Duration
  allowSubmitWithoutPriorSimulation : Bool
  chainStatusCacheTtl : Duration
  maxSubmitBlockingTimeout : Duration
  maxWatchTimeout : Duration
  minWatchPollInterval : Duration
  maxPublishPackageBytes : UInt64
  maxConcurrentWatchRequests : ℕ
  maxInflightExpensiveRequests : ℕ

def isRemoteEndpoint (endpoint : EndpointUrl) : Bool :=
  match endpoint.host with
  | none => false
  | some host =>
    if host = "localhost" || host = "127.0.0.1" || host = "::1" then false
    else !(".local".toList.isSuffixOf host.toList)

def validateEndpoint (endpoint : EndpointUrl) (allowInsecureRemoteTransport : Bool)
    (allowedRpcHosts : List String) : Except String Unit := do
  if isRemoteEndpoint endpoint && endpoint.scheme != "https" && !allowInsecureRemoteTransport then
    throw "remote endpoints must use https unless allow_insecure_remote_transport is enabled"
  if !(endpoint.scheme == "http" || endpoint.scheme == "https") then
    throw "only http and https rpc endpoints are supported"
  if !allowedRpcHosts.isEmpty then
    match endpoint.host with
    | none => throw "rpc endpoint is missing a host"
    | some host =>
      if !allowedRpcHosts.contains host then
        throw s!"rpc endpoint host {host} is not allowed by allowed_rpc_hosts"

def validateModeRequirements (mode : Mode) (expectedChainId : Option UInt8)
    (expectedNetwork expectedGenesisHash : Option String) (requireGenesisHashMatch : Bool)
    (allowReadOnlyChainAutodetect isRemote : Bool) : Except String Unit :=
  match mode with
  | .transaction => do
    if expectedChainId.isNone then throw "transaction mode requires expected_chain_id"
    if expectedNetwork.isNone then throw "transaction mode requires expected_network"
    if isRemote && requireGenesisHashMatch && expectedGenesisHash.isNone then
      throw "remote transaction mode requires expected_genesis_hash when genesis matching is enabled"
  | .readOnly =>
    if (expectedChainId.isNone || expectedNetwork.isNone) && !allowReadOnlyChainAutodetect then
      throw ("read_only mode requires expected_chain_id and expected_network unless " ++
        "allow_read_only_chain_autodetect is enabled")
    else pure ()

def validateNonzero : List (String × Duration) → Except String Unit
  | [] => pure ()
  | (name, value) :: rest =>
    if value.isZero then throw s!"{name} must be greater than zero" else validateNonzero rest

namespace RuntimeConfig

def isRemote (config : RuntimeConfig) : Bool := isRemoteEndpoint config.rpcEndpointUrl

def validateClamps (config : RuntimeConfig) : Except String Unit := do
  if config.maxExpirationTtl.nanos < config.defaultExpirationTtl.nanos then
    throw "default_expiration_ttl_seconds cannot exceed max_expiration_ttl_seconds"
  validateNonzero [("connect_timeout_ms", config.connectTimeout),
    ("request_timeout_ms", config.requestTimeout),
    ("startup_probe_timeout_ms", config.startupProbeTimeout),
    ("watch_timeout_seconds", config.watchTimeout),
    ("max_submit_blocking_timeout_seconds", config.maxSubmitBlockingTimeout),
    ("max_watch_timeout_seconds", config.maxWatchTimeout),
    ("max_head_lag_seconds", config.maxHeadLag)]
  if config.watchPollInterval.isZero then
    throw "watch_poll_interval_seconds must be greater than zero"
  if config.minWatchPollInterval.isZero then
    throw "min_watch_poll_interval_seconds must be greater than zero"
  if config.maxHeadLag.nanos < config.warnHeadLag.nanos then
    throw "warn_head_lag_seconds cannot exceed max_head_lag_seconds"
  if config.maxConcurrentWatchRequests = 0 then
    throw "max_concurrent_watch_requests must be greater than zero"
  if config.maxInflightExpensiveRequests = 0 then
    throw "max_inflight_expensive_requests must be greater than zero"

def validate (config : RuntimeConfig) : Except String Unit := do
  validateEndpoint config.rpcEndpointUrl config.allowInsecureRemoteTransport config.allowedRpcHosts
  validateModeRequirements config.mode config.expectedChainId config.expectedNetwork
    config.expectedGenesisHash config.requireGenesisHashMatch config.allowReadOnlyChainAutodetect
    config.isRemote
  config.validateClamps

/-- An accepted configuration that may send transactions names its chain. -/
theorem pinned_of_validate {config : RuntimeConfig} (h : config.validate = .ok ())
    (hmode : config.mode = .transaction) :
    ∃ chainId network, config.expectedChainId = some chainId ∧
      config.expectedNetwork = some network := by
  unfold validate at h
  obtain ⟨_, _, h⟩ := bind_eq_ok h
  obtain ⟨_, hpins, _⟩ := bind_eq_ok h
  rw [hmode] at hpins
  unfold validateModeRequirements at hpins
  obtain ⟨hchain, hpins⟩ := guard_eq_ok hpins
  obtain ⟨hnetwork, _⟩ := guard_eq_ok hpins
  obtain ⟨chainId, hchain⟩ := Option.ne_none_iff_exists'.mp (by simpa using hchain)
  obtain ⟨network, hnetwork⟩ := Option.ne_none_iff_exists'.mp (by simpa using hnetwork)
  exact ⟨chainId, network, hchain, hnetwork⟩

end RuntimeConfig

end StarcoinMcp.Node
