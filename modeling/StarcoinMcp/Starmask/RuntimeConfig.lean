import StarcoinMcp.Starmask.Server

/-! The configuration of the daemon, as `RuntimeConfig::load` puts it together: the environment
goes before the configuration file, and the file before the defaults. Which file is read, what
TOML makes of it, the default paths and the checks of an account directory on disk come from
outside. -/

namespace StarcoinMcp.Starmask

inductive Channel
  | development | staging | production
deriving DecidableEq, Repr

inductive LocalPromptMode
  | ttyPrompt | desktopPrompt
deriving DecidableEq, Repr

def LocalPromptMode.approvalSurface : LocalPromptMode → ApprovalSurface
  | .ttyPrompt => .ttyPrompt
  | .desktopPrompt => .desktopPrompt

structure FileWalletBackendConfig where
  backendId : String
  backendKind : BackendKind
  enabled : Bool
  instanceLabel : String
  approvalSurface : ApprovalSurface
  allowedExtensionIds : Option (List String)
  nativeHostName : Option String
  profileHint : Option String
  accountDir : Option String
  promptMode : Option LocalPromptMode
  chainId : Option UInt8
  unlockCacheTtlSeconds : Option Nat
  requireStrictPermissions : Option Bool
deriving DecidableEq, Repr

structure FileConfig where
  channel : Option Channel := none
  allowedExtensionIds : Option (List String) := none
  nativeHostName : Option String := none
  socketPath : Option String := none
  databasePath : Option String := none
  logLevel : Option String := none
  maintenanceIntervalSeconds : Option Nat := none
  defaultRequestTtlSeconds : Option Nat := none
  minRequestTtlSeconds : Option Nat := none
  maxRequestTtlSeconds : Option Nat := none
  deliveryLeaseSeconds : Option Nat := none
  presentationLeaseSeconds : Option Nat := none
  heartbeatIntervalSeconds : Option Nat := none
  walletOfflineAfterSeconds : Option Nat := none
  resultRetentionSeconds : Option Nat := none
  walletBackends : Option (List FileWalletBackendConfig) := none
deriving DecidableEq, Repr

structure ServeArgs where
  socketPath : Option String
  databasePath : Option String
  logLevel : Option String
deriving DecidableEq, Repr

/-- What `load` reads besides its arguments. -/
structure ConfigSources where
  packageVersion : String
  /-- `env::var(key).ok()`. -/
  env : String → Option String
  /-- `load_file_config`. -/
  file : Except String FileConfig
  defaultSocketPath : String
  defaultDatabasePath : String
  validateLocalAccountDir : String → Bool → Except String String

structure RuntimeConfig where
  channel : Channel
  socketPath : String
  databasePath : String
  logLevel : String
  maintenanceInterval : DurationSeconds
  heartbeatInterval : DurationSeconds
  coordinator : CoordinatorConfig
  walletBackends : List WalletBackendConfig
deriving DecidableEq, Repr

/-! ## Backends -/

def readChannel (envValue : Option String) (fileValue : Option Channel) (default : Channel) :
    Except String Channel :=
  match envValue with
  | some "development" => .ok .development
  | some "staging" => .ok .staging
  | some "production" => .ok .production
  | some other => .error ("unsupported channel value: " ++ other)
  | none => .ok (fileValue.getD default)

def channelName : Channel → String
  | .development => "development"
  | .staging => "staging"
  | .production => "production"

def defaultNativeHostName (channel : Channel) : String := "com.starcoin.starmask." ++ channelName channel

/-- A `BTreeSet` of strings: sorted, without repetitions. -/
def sortedSet (values : List String) : List String := (values.insertionSort (· ≤ ·)).dedup

def readExtensionIds (envValue : Option String) (fileValue : Option (List String)) :
    Except String (List String) :=
  let rawValues := match envValue with
    | some envValue => (envValue.splitOn ",").map Text.trim
    | none => fileValue.getD []
  if rawValues.any Text.isBlank then .error "allowed_extension_ids contains an empty entry"
  else .ok (sortedSet (rawValues.map Text.trim))

def validateAllowedExtensionIds (channel : Channel) (allowedExtensionIds : List String) :
    Except String Unit :=
  if allowedExtensionIds.isEmpty then
    .error ("allowed_extension_ids must be configured for the " ++ channelName channel ++ " channel")
  else .ok ()

def readNonEmptyString (field value : String) : Except String String :=
  if Text.isBlank value then .error (field ++ " cannot be empty") else .ok (Text.trim value)

def extensionBackend (channel : Channel) (backend : FileWalletBackendConfig)
    (backendId instanceLabel : String)
    (seenExtensionIds : List String) : Except String StarmaskExtensionBackendConfig := do
  if backend.approvalSurface ≠ .browserUi then
    throw ("backend " ++ backendId ++ " must use approval_surface = browser_ui")
  let allowedExtensionIds ← readExtensionIds none backend.allowedExtensionIds
  validateAllowedExtensionIds channel allowedExtensionIds
  match allowedExtensionIds.find? fun extensionId => extensionId ∈ seenExtensionIds with
  | some extensionId =>
    throw ("extension id " ++ extensionId ++ " is configured by more than one backend")
  | none =>
    match backend.nativeHostName.filter fun value => !Text.isBlank value with
    | none => throw ("backend " ++ backendId ++ " must configure native_host_name")
    | some nativeHostName =>
      pure ⟨backendId, instanceLabel, backend.approvalSurface, allowedExtensionIds, nativeHostName,
        backend.profileHint⟩

def localBackend (sources : ConfigSources) (backend : FileWalletBackendConfig)
    (backendId instanceLabel : String) : Except String LocalAccountDirBackendConfig := do
  match backend.promptMode with
  | none => throw ("backend " ++ backendId ++ " must configure prompt_mode")
  | some promptMode =>
    if backend.approvalSurface ≠ .ttyPrompt ∧ backend.approvalSurface ≠ .desktopPrompt then
      throw ("backend " ++ backendId ++ " must use tty_prompt or desktop_prompt approval surface")
    if promptMode.approvalSurface ≠ backend.approvalSurface then
      throw ("backend " ++ backendId ++ " must use matching approval_surface and prompt_mode")
    if promptMode ≠ .ttyPrompt then
      throw ("backend " ++ backendId ++
        " must use prompt_mode = tty_prompt until desktop_prompt is implemented")
    match backend.accountDir with
    | none => throw ("backend " ++ backendId ++ " must configure account_dir")
    | some accountDir =>
      let _ ← sources.validateLocalAccountDir accountDir (backend.requireStrictPermissions.getD true)
      match backend.unlockCacheTtlSeconds with
      | none => throw ("backend " ++ backendId ++ " must configure unlock_cache_ttl_seconds")
      | some unlockCacheTtl =>
        if unlockCacheTtl = 0 then
          throw ("backend " ++ backendId ++ " unlock_cache_ttl_seconds must be greater than zero")
        if backend.chainId.isNone then
          throw ("backend " ++ backendId ++ " must configure chain_id")
        pure ⟨backendId, instanceLabel, backend.approvalSurface⟩

def phase2Backend (sources : ConfigSources) (channel : Channel) (backend : FileWalletBackendConfig)
    (backendId : String) (seenExtensionIds : List String) : Except String WalletBackendConfig := do
  let instanceLabel ← readNonEmptyString "instance_label" backend.instanceLabel
  match backend.backendKind with
  | .starmaskExtension =>
    let config ← extensionBackend channel backend backendId instanceLabel seenExtensionIds
    pure (.starmaskExtension config)
  | .localAccountDir =>
    let config ← localBackend sources backend backendId instanceLabel
    pure (.localAccountDir config)
  | .privateKeyDev => throw "validated above"

def extensionIdsOf : WalletBackendConfig → List String
  | .starmaskExtension config => config.allowedExtensionIds
  | .localAccountDir _ => []

/-- The loop of `build_phase2_backends`, with the ids seen so far. -/
def buildPhase2Backends (sources : ConfigSources) (channel : Channel) :
    List FileWalletBackendConfig → List String → List String → Except String (List WalletBackendConfig)
  | [], _, _ => .ok []
  | backend :: rest, seenBackendIds, seenExtensionIds =>
    let backendId := Text.trim backend.backendId
    if backendId.isEmpty then .error "backend_id cannot be empty"
    else if backendId ∈ seenBackendIds then .error ("duplicate backend_id configured: " ++ backendId)
    else if backend.backendKind = .privateKeyDev then
      .error "backend_kind private_key_dev is reserved for a future phase"
    else if !backend.enabled then
      buildPhase2Backends sources channel rest (backendId :: seenBackendIds) seenExtensionIds
    else do
      let parsed ← phase2Backend sources channel backend backendId seenExtensionIds
      let backends ← buildPhase2Backends sources channel rest (backendId :: seenBackendIds)
        (extensionIdsOf parsed ++ seenExtensionIds)
      pure (parsed :: backends)

def buildWalletBackends (sources : ConfigSources) (channel : Channel) (fileConfig : FileConfig) :
    Except String (List WalletBackendConfig) :=
  let legacyAllowedExtensionIdsEnv := sources.env "STARMASKD_ALLOWED_EXTENSION_IDS"
  let legacyNativeHostNameEnv := sources.env "STARMASKD_NATIVE_HOST_NAME"
  match fileConfig.walletBackends with
  | some fileBackends =>
    if fileConfig.allowedExtensionIds.isSome ∨ fileConfig.nativeHostName.isSome ∨
        legacyAllowedExtensionIdsEnv.isSome ∨ legacyNativeHostNameEnv.isSome then
      .error "legacy extension settings are not allowed when wallet_backends is configured"
    else buildPhase2Backends sources channel fileBackends [] []
  | none => do
    let allowedExtensionIds ← readExtensionIds legacyAllowedExtensionIdsEnv fileConfig.allowedExtensionIds
    validateAllowedExtensionIds channel allowedExtensionIds
    pure [.starmaskExtension ⟨"browser-default", "Browser Default", .browserUi, allowedExtensionIds,
      (legacyNativeHostNameEnv.or fileConfig.nativeHostName).getD (defaultNativeHostName channel), none⟩]

/-! ## Loading -/

/-- `Path::parent` is `None` for an empty path and for the root. -/
def hasParent (path : String) : Bool :=
  if path.startsWith "/" then (path.splitOn "/").any fun part => part ≠ "" ∧ part ≠ "."
  else !path.isEmpty

def validatePaths (socketPath databasePath : String) : Except String Unit :=
  if !hasParent socketPath then .error "socket path must have a parent directory"
  else if !hasParent databasePath then .error "database path must have a parent directory"
  else .ok ()

/-- A value that is not a number is the same as no value. -/
def ConfigSources.envU64 (sources : ConfigSources) (key : String) : Option Nat :=
  (sources.env key).bind fun value => (Text.parseUnsigned (2 ^ 64) value).toOption

/-- One of the durations: the environment, the file, the default. -/
def ConfigSources.seconds (sources : ConfigSources) (key : String) (fileValue : Option Nat)
    (default : Nat) : DurationSeconds :=
  ((sources.envU64 key).or fileValue).getD default

def coordinatorConfig (sources : ConfigSources) (fileConfig : FileConfig)
    (walletOfflineAfter : DurationSeconds) : CoordinatorConfig where
  daemonVersion := sources.packageVersion
  socketScope := "local-user"
  dbSchemaVersion := 2
  defaultRequestTtl :=
    sources.seconds "STARMASKD_DEFAULT_REQUEST_TTL_SECONDS" fileConfig.defaultRequestTtlSeconds 300
  minRequestTtl := sources.seconds "STARMASKD_MIN_REQUEST_TTL_SECONDS" fileConfig.minRequestTtlSeconds 30
  maxRequestTtl := sources.seconds "STARMASKD_MAX_REQUEST_TTL_SECONDS" fileConfig.maxRequestTtlSeconds 3600
  deliveryLeaseTtl := sources.seconds "STARMASKD_DELIVERY_LEASE_SECONDS" fileConfig.deliveryLeaseSeconds 30
  presentationLeaseTtl :=
    sources.seconds "STARMASKD_PRESENTATION_LEASE_SECONDS" fileConfig.presentationLeaseSeconds 45
  walletOfflineAfter := walletOfflineAfter
  resultRetention :=
    sources.seconds "STARMASKD_RESULT_RETENTION_SECONDS" fileConfig.resultRetentionSeconds 600

def RuntimeConfig.load (sources : ConfigSources) (args : ServeArgs) : Except String RuntimeConfig := do
  let fileConfig ← sources.file
  let channel ← readChannel (sources.env "STARMASKD_CHANNEL") fileConfig.channel .development
  let socketPath := ((args.socketPath.or (sources.env "STARMASKD_SOCKET_PATH")).or
    fileConfig.socketPath).getD sources.defaultSocketPath
  let databasePath := ((args.databasePath.or (sources.env "STARMASKD_DB_PATH")).or
    fileConfig.databasePath).getD sources.defaultDatabasePath
  let logLevel := ((args.logLevel.or (sources.env "STARMASKD_LOG_LEVEL")).or
    fileConfig.logLevel).getD "info"
  let maintenanceInterval := max (sources.seconds "STARMASKD_MAINTENANCE_INTERVAL_SECONDS"
    fileConfig.maintenanceIntervalSeconds 1) 1
  let heartbeatInterval := max (sources.seconds "STARMASKD_HEARTBEAT_INTERVAL_SECONDS"
    fileConfig.heartbeatIntervalSeconds 10) 1
  let walletOfflineAfter := sources.seconds "STARMASKD_WALLET_OFFLINE_AFTER_SECONDS"
    fileConfig.walletOfflineAfterSeconds 25
  if walletOfflineAfter ≤ heartbeatInterval then
    throw ("wallet_offline_after_seconds (" ++ toString walletOfflineAfter ++
      ") must be greater than heartbeat_interval_seconds (" ++ toString heartbeatInterval ++ ")")
  else do
    let walletBackends ← buildWalletBackends sources channel fileConfig
    if walletBackends.isEmpty then throw "at least one enabled wallet backend must be configured"
    else do
      validatePaths socketPath databasePath
      pure
        { channel := channel
          socketPath := socketPath
          databasePath := databasePath
          logLevel := logLevel
          maintenanceInterval := maintenanceInterval
          heartbeatInterval := heartbeatInterval
          coordinator := coordinatorConfig sources fileConfig walletOfflineAfter
          walletBackends := walletBackends }

/-- The only ordering among the durations that is checked. -/
theorem load_heartbeatInterval_lt {sources : ConfigSources} {args : ServeArgs} {config : RuntimeConfig}
    (h : RuntimeConfig.load sources args = .ok config) :
    config.heartbeatInterval < config.coordinator.walletOfflineAfter := by
  obtain ⟨fileConfig, -, h₁⟩ := bind_eq_ok h
  obtain ⟨channel, -, h₂⟩ := bind_eq_ok h₁
  dsimp only at h₂
  split_ifs at h₂ with hoffline
  obtain ⟨walletBackends, -, h₃⟩ := bind_eq_ok h₂
  split_ifs at h₃
  obtain ⟨-, -, h₄⟩ := bind_eq_ok h₃
  cases h₄
  exact not_le.mp hoffline

end StarcoinMcp.Starmask
