import StarcoinMcp.Agent.TtyPrompt

/-! What the local account agent does with a request its user has approved: the decoding
that comes before a signature. -/

namespace StarcoinMcp.Agent

open Starmask (PulledRequest RequestKind MessageFormat RejectReasonCode)

structure RequestRejection where
  reasonCode : RejectReasonCode
  message : Option String
deriving DecidableEq, Repr

def RequestRejection.new (reasonCode : RejectReasonCode) (message : String) : RequestRejection :=
  ⟨reasonCode, some message⟩

/-- `ok_or_else`. -/
def required {α : Type} (value : Option α) (rejection : RequestRejection) :
    Except RequestRejection α :=
  match value with
  | some a => .ok a
  | none => .error rejection

theorem of_required {α : Type} {value : Option α} {rejection : RequestRejection} {a : α}
    (h : required value rejection = .ok a) : value = some a := by
  cases value with
  | none => cases h
  | some b => exact congrArg some (Except.ok.inj h)

def decodeSigningMessage (message : String) : MessageFormat → Except String (List UInt8)
  | .utf8 => .ok (Text.utf8 message)
  | .hex => decodeHexBytes message

/-- The bytes `sign_transaction` decodes and signs. -/
def transactionToSign (request : PulledRequest) : Except RequestRejection (List UInt8) := do
  let rawTxnHex ← required request.rawTxnBcsHex
    (.new .invalidTransactionPayload "Missing raw transaction payload")
  (decodeHexBytes rawTxnHex).mapError (.new .invalidTransactionPayload)

/-- The bytes `sign_message` signs. -/
def messageToSign (request : PulledRequest) : Except RequestRejection (List UInt8) := do
  let message ← required request.message (.new .invalidMessagePayload "Missing message payload")
  let format ← required request.messageFormat (.new .invalidMessagePayload "Missing message format")
  (decodeSigningMessage message format).mapError (.new .invalidMessagePayload)

/-- For this request the agent signs these bytes. -/
def Signs (request : PulledRequest) (bytes : List UInt8) : Prop :=
  (request.kind = .signTransaction ∧ transactionToSign request = .ok bytes) ∨
  (request.kind = .signMessage ∧ messageToSign request = .ok bytes)

end StarcoinMcp.Agent
