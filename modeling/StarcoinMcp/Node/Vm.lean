import StarcoinMcp.Lib.Value

/-! Transactions of the chain, in the types both workspaces take from the chain's own
crates. The crates themselves (the parsers, the printers, the BCS codec and the hash)
are a parameter, `Vm2`. -/

namespace StarcoinMcp

/-- `AccountAddress`: sixteen bytes. -/
structure AccountAddress where
  bytes : List UInt8
  length : bytes.length = 16
deriving DecidableEq, Repr

/-- `core_code_address()`, the account `0x1`. -/
def coreCodeAddress : AccountAddress := ⟨List.replicate 15 0 ++ [1], rfl⟩

mutual

inductive TypeTag
  | bool | u8 | u16 | u32 | u64 | u128 | u256 | address | signer
  | vector (item : TypeTag)
  | struct (tag : StructTag)

inductive StructTag
  | mk (address : AccountAddress) (module name : String) (typeParams : List TypeTag)

end

structure ModuleId where
  address : AccountAddress
  name : String
deriving DecidableEq, Repr

/-- A call of one function of a published module: `EntryFunction` in VM2, `ScriptFunction`
in VM1. Every argument is BCS already. -/
structure EntryFunction where
  module : ModuleId
  function : String
  tyArgs : List TypeTag
  args : List (List UInt8)

structure Script where
  code : List UInt8
  tyArgs : List TypeTag
  args : List (List UInt8)

structure Package where
  packageAddress : AccountAddress
  /-- The code of each module. -/
  modules : List (List UInt8)
  initScript : Option EntryFunction

inductive TransactionPayload
  | script (script : Script)
  | package (package : Package)
  | entryFunction (function : EntryFunction)

structure RawUserTransaction where
  sender : AccountAddress
  sequenceNumber : UInt64
  payload : TransactionPayload
  maxGasAmount : UInt64
  gasUnitPrice : UInt64
  expirationTimestampSecs : UInt64
  chainId : UInt8
  gasTokenCode : String

structure SignedUserTransaction where
  rawTxn : RawUserTransaction
  authenticator : List UInt8

inductive TransactionArgument
  | u8 (n : UInt8)
  | u16 (n : UInt16)
  | u32 (n : UInt32)
  | u64 (n : UInt64)
  | u128 (n : BitVec 128)
  | u256 (n : BitVec 256)
  | address (a : AccountAddress)
  | u8Vector (bytes : List UInt8)
  | bool (b : Bool)
deriving DecidableEq, Repr

structure TokenCode where
  address : AccountAddress
  module : String
  name : String
deriving DecidableEq, Repr

/-- The chain's crates, as far as the node context calls them. Errors are their texts. -/
structure Vm2 where
  decodeSigned : List UInt8 → Except String SignedUserTransaction
  encodeRaw : RawUserTransaction → Except String (List UInt8)
  /-- `SignedUserTransaction::id`, printed. -/
  transactionId : SignedUserTransaction → String
  decodePackage : List UInt8 → Except String Package
  /-- `TransactionRequest::from(raw_txn)`, serialized. -/
  transactionRequest : RawUserTransaction → Except String Value
  parseAddress : String → Except String AccountAddress
  addressText : AccountAddress → String
  parseTokenCode : String → Except String TokenCode
  tokenText : TokenCode → String
  tokenType : TokenCode → Except String StructTag
  /-- `G_STC_TOKEN_CODE`. -/
  stcTokenCode : TokenCode
  parseFunctionId : String → Except String (ModuleId × String)
  parseTypeTag : String → Except String TypeTag
  parseTransactionArgument : String → Except String TransactionArgument
  convertTxnArgs : List TransactionArgument → List (List UInt8)
  /-- `Identifier::new`. -/
  identifier : String → Except String String
  /-- `bcs_ext::to_bytes` of an address and of a `u128`. -/
  encodeAddress : AccountAddress → Except String (List UInt8)
  encodeU128 : BitVec 128 → Except String (List UInt8)

end StarcoinMcp
