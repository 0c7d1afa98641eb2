import StarcoinMcp.Lib.Hex
import StarcoinMcp.Node.Vm
import StarcoinMcp.Starmask.Commands

/-! The approval card of the local account agent. A card is its lines, each a list of
characters without its line end; every section returns the lines it writes. -/

namespace StarcoinMcp.Agent

open Starmask (PulledRequest RequestKind MessageFormat)

/-- The chain's crates, as far as the card calls them. Errors are their texts. -/
structure Vm1 where
  /-- `bcs_ext::from_bytes` of a raw transaction, an address and a `u128`. -/
  decodeRaw : List UInt8 → Except String RawUserTransaction
  decodeAddress : List UInt8 → Except String AccountAddress
  decodeU128 : List UInt8 → Except String (BitVec 128)
  addressText : AccountAddress → String
  typeTagText : TypeTag → String

structure AccountInfo where
  isLocked : Bool
deriving DecidableEq, Repr

abbrev Card := List (List Char)

def cardInnerWidth : ℕ := 76

def previewSuffix : List Char := ['.', '.', '.']

/-! ## Text on a terminal -/

/-- `char::is_control`, the category `Cc`. -/
def isControl (c : Char) : Bool := c.toNat ≤ 0x1f || (0x7f ≤ c.toNat && c.toNat ≤ 0x9f)

/-- The ranges of `is_unicode_format_character`. -/
def formatCharacters : List (ℕ × ℕ) :=
  [(0x00ad, 0x00ad), (0x0600, 0x0605), (0x061c, 0x061c), (0x06dd, 0x06dd), (0x070f, 0x070f),
    (0x0890, 0x0891), (0x08e2, 0x08e2), (0x180e, 0x180e), (0x200b, 0x200f), (0x202a, 0x202e),
    (0x2060, 0x2064), (0x2066, 0x206f), (0xfeff, 0xfeff), (0xfff9, 0xfffb), (0x110bd, 0x110bd),
    (0x110cd, 0x110cd), (0x13430, 0x1343f), (0x1bca0, 0x1bca3), (0x1d173, 0x1d17a),
    (0xe0001, 0xe0001), (0xe0020, 0xe007f)]

def isUnicodeFormatCharacter (c : Char) : Bool :=
  formatCharacters.any fun (first, last) => first ≤ c.toNat && c.toNat ≤ last

def sanitizeChar (c : Char) : List Char :=
  if c = '\\' then ['\\', '\\']
  else if c = '\n' then ['\\', 'n']
  else if c = '\r' then ['\\', 'r']
  else if c = '\t' then ['\\', 't']
  else if isControl c || isUnicodeFormatCharacter c then
    "\\u\x7b".toList ++ Nat.toDigits 16 c.toNat ++ "\x7d".toList
  else [c]

def sanitizeForTty (input : List Char) : List Char := input.flatMap sanitizeChar

def truncateChars (input : List Char) (maxChars : ℕ) : List Char :=
  if input.length ≤ maxChars then input
  else if maxChars ≤ previewSuffix.length then previewSuffix.take maxChars
  else input.take (maxChars - previewSuffix.length) ++ previewSuffix

/-- The loop of `split_by_width`: `current` is the line being filled, up to `limit`. -/
def splitLoop (continuationWidth : ℕ) : List Char → ℕ → List Char → Card
  | current, _, [] => if current.isEmpty then [] else [current]
  | current, limit, c :: input =>
    if current.length = limit then
      current :: splitLoop continuationWidth [c] (max continuationWidth 1) input
    else splitLoop continuationWidth (current ++ [c]) limit input

def splitByWidth (input : List Char) (firstWidth continuationWidth : ℕ) : Card :=
  let lines := splitLoop continuationWidth [] (max firstWidth 1) input
  if lines.isEmpty then [[]] else lines

/-! ## Lines -/

def writeCardBorder : Card := [['+'] ++ List.replicate (cardInnerWidth + 2) '-' ++ ['+']]

def writeCardTextLine (text : List Char) : Card :=
  let preview := truncateChars text cardInnerWidth
  let padding := cardInnerWidth - preview.length
  [['|', ' '] ++ preview ++ List.replicate padding ' ' ++ [' ', '|']]

def writeCardSectionHeading (heading : String) : Card :=
  writeCardBorder ++ writeCardTextLine heading.toList

/-- What stands before a field's value. -/
def fieldPrefix (label : String) : List Char := [' ', ' '] ++ label.toList ++ [':', ' ']

def writeCardField (label value : String) (full : Bool) : Card :=
  let sanitized := sanitizeForTty value.toList
  let lead := fieldPrefix label
  let continuationLead := List.replicate lead.length ' '
  let firstWidth := cardInnerWidth - lead.length
  let continuationWidth := cardInnerWidth - continuationLead.length
  if !full then writeCardTextLine (lead ++ truncateChars sanitized firstWidth)
  else
    match splitByWidth sanitized firstWidth continuationWidth with
    | [] => []
    | first :: segments =>
      writeCardTextLine (lead ++ first) ++
        segments.flatMap fun segment => writeCardTextLine (continuationLead ++ segment)

def writeCardFieldPreview (label value : String) : Card := writeCardField label value false

def writeCardFieldFull (label value : String) : Card := writeCardField label value true

/-! ## Values -/

def stripHexMarker : List Char → List Char
  | '0' :: 'x' :: cs => cs
  | cs => cs

def decodeHexBytes (input : String) : Except String (List UInt8) :=
  (Hex.decode ((stripHexMarker input.toList).flatMap String.utf8EncodeChar)).mapError fun e =>
    "invalid hex payload: " ++ e.text

def formatHexBytes (bytes : List UInt8) : String := String.ofList ('0' :: 'x' :: Hex.encode bytes)

def formatExpiration (expirationTimestampSecs : UInt64) : String :=
  if expirationTimestampSecs.toNat = 2 ^ 64 - 1 then "never"
  else toString expirationTimestampSecs ++ " (unix seconds)"

def payloadTypeLabel : TransactionPayload → String
  | .script _ => "script"
  | .package _ => "package"
  | .entryFunction _ => "script_function"

def requestKindLabel : RequestKind → String
  | .signTransaction => "sign_transaction"
  | .signMessage => "sign_message"
  | .createAccount => "create_account"
  | .exportAccount => "export_account"
  | .importAccount => "import_account"

def messageFormatLabel : MessageFormat → String
  | .utf8 => "utf8"
  | .hex => "hex"

def formatOptionalPath (value : Option String) : String := value.getD "missing"

def requestedAccountLabel (accountAddress : String) : String :=
  if Text.isBlank accountAddress then "missing" else accountAddress

def formatFlag (value : Bool) : String := if value then "true" else "false"

def canonicalMessageByteLen (request : PulledRequest) : Except String (Option ℕ) :=
  match request.message, request.messageFormat with
  | some message, some .utf8 => .ok (some (Text.utf8 message).length)
  | some message, some .hex =>
    ((decodeHexBytes message).map fun bytes => some bytes.length).mapError fun e =>
      "invalid hex message: " ++ e
  | _, _ => .ok none

structure TransferDetails where
  recipient : String
  amount : String
  asset : Option String
deriving DecidableEq, Repr

namespace Vm1

variable (vm : Vm1)

def decodeRawTransaction (rawTxnBcsHex : String) : Except String RawUserTransaction := do
  let rawTxnBytes ← decodeHexBytes rawTxnBcsHex
  (vm.decodeRaw rawTxnBytes).mapError fun e => "Invalid raw transaction payload: " ++ e

def shortenAccountAddress (address : AccountAddress) : String :=
  match (vm.addressText address).toList with
  | '0' :: 'x' :: trimmed =>
    let withoutLeadingZeroes := trimmed.dropWhile (· == '0')
    if withoutLeadingZeroes.isEmpty then "0x0"
    else String.ofList ('0' :: 'x' :: withoutLeadingZeroes)
  | _ => vm.addressText address

def formatScriptFunctionTarget (f : EntryFunction) : String :=
  vm.shortenAccountAddress f.module.address ++ "::" ++ f.module.name ++ "::" ++ f.function

def formatTypeTags (typeTags : List TypeTag) : String :=
  ", ".intercalate (typeTags.map vm.typeTagText)

def decodeTransferScriptFunction (f : EntryFunction) : Option TransferDetails :=
  if f.module.address ≠ coreCodeAddress ∨ f.module.name ≠ "TransferScripts" then none
  else if f.function ≠ "peer_to_peer_v2" then none
  else
    match f.args with
    | [receiver, units] => do
      let recipient ← (vm.decodeAddress receiver).toOption
      let amount ← (vm.decodeU128 units).toOption
      some {
        recipient := vm.addressText recipient
        amount := toString amount.toNat
        asset := f.tyArgs.head?.map vm.typeTagText }
    | _ => none

/-! ## Sections -/

/-- A numbered line for each of `values`. -/
def writeNumbered (label : ℕ → String) (values : List String) : Card :=
  values.zipIdx.flatMap fun (value, index) => writeCardFieldFull (label (index + 1)) value

def writeRawArguments (args : List (List UInt8)) : Card :=
  writeNumbered (fun n => "Arg " ++ toString n) (args.map formatHexBytes)

def writeTypeArgs (tyArgs : List TypeTag) : Card :=
  if tyArgs.isEmpty then [] else writeCardFieldPreview "Type Args" (vm.formatTypeTags tyArgs)

def writeScriptFields (script : Script) (includeRawArgumentLines : Bool) : Card :=
  writeCardFieldPreview "Script Code Bytes" (toString script.code.length) ++
  vm.writeTypeArgs script.tyArgs ++
  writeCardFieldPreview "Argument Count" (toString script.args.length) ++
  if includeRawArgumentLines then writeRawArguments script.args else []

def writeTransferFields (f : EntryFunction) : Card :=
  match vm.decodeTransferScriptFunction f with
  | some details =>
    writeCardFieldPreview "Transaction Kind" "transfer" ++
    writeCardFieldPreview "Recipient" details.recipient ++
    writeCardFieldPreview "Amount" details.amount ++
    match details.asset with
    | some asset => writeCardFieldPreview "Asset" asset
    | none => []
  | none => writeCardFieldPreview "Argument Count" (toString f.args.length)

def writeScriptFunctionFields (f : EntryFunction) (includeRawArgumentLines : Bool) : Card :=
  writeCardFieldPreview "Target Function" (vm.formatScriptFunctionTarget f) ++
  vm.writeTypeArgs f.tyArgs ++
  vm.writeTransferFields f ++
  if includeRawArgumentLines then writeRawArguments f.args
  else
    match f.args with
    | [] => []
    | arg :: _ => writeCardFieldPreview "Argument Preview" (formatHexBytes arg)

def writePackageFields (package : Package) (includeRawArgumentLines : Bool) : Card :=
  writeCardFieldPreview "Package Address" (vm.addressText package.packageAddress) ++
  writeCardFieldPreview "Module Count" (toString package.modules.length) ++
  writeCardFieldPreview "Has Init Script" (toString package.initScript.isSome) ++
  if includeRawArgumentLines then
    writeNumbered (fun n => "Module " ++ toString n ++ " Bytes")
      (package.modules.map fun module => toString module.length)
  else []

def writeDecodedTransactionFields (rawTxn : RawUserTransaction) (includeRawArgumentLines : Bool) :
    Card :=
  writeCardFieldPreview "Chain ID" (toString rawTxn.chainId) ++
  writeCardFieldPreview "Sender" (vm.addressText rawTxn.sender) ++
  writeCardFieldPreview "Sequence Number" (toString rawTxn.sequenceNumber) ++
  writeCardFieldPreview "Payload Type" (payloadTypeLabel rawTxn.payload) ++
  writeCardFieldPreview "Gas Unit Price" (toString rawTxn.gasUnitPrice) ++
  writeCardFieldPreview "Max Gas Amount" (toString rawTxn.maxGasAmount) ++
  writeCardFieldPreview "Gas Token" rawTxn.gasTokenCode ++
  -- the product of two `u64` fits the `u128` it is computed in
  writeCardFieldPreview "Max Fee Budget"
    (toString (rawTxn.maxGasAmount.toNat * rawTxn.gasUnitPrice.toNat) ++ " " ++
      rawTxn.gasTokenCode) ++
  writeCardFieldPreview "Expiration" (formatExpiration rawTxn.expirationTimestampSecs) ++
  match rawTxn.payload with
  | .script script => vm.writeScriptFields script includeRawArgumentLines
  | .entryFunction f => vm.writeScriptFunctionFields f includeRawArgumentLines
  | .package package => vm.writePackageFields package includeRawArgumentLines

def writeTransactionSection (request : PulledRequest) : Card :=
  writeCardSectionHeading "Transaction" ++
  match request.rawTxnBcsHex with
  | some rawTxnBcsHex =>
    match vm.decodeRawTransaction rawTxnBcsHex with
    | .ok rawTxn => vm.writeDecodedTransactionFields rawTxn false
    | .error error =>
      writeCardFieldPreview "Decode Error" error ++
      writeCardFieldPreview "Raw BCS Preview" rawTxnBcsHex
  | none => writeCardFieldPreview "Raw Transaction BCS" "missing"

end Vm1

def writeRequestSection (request : PulledRequest) : Card :=
  writeCardSectionHeading "Request" ++
  writeCardFieldPreview "Request ID" request.requestId.value ++
  writeCardFieldPreview "Client Request ID (untrusted)" request.clientRequestId.value ++
  writeCardFieldPreview "Kind" (requestKindLabel request.kind) ++
  writeCardFieldPreview "Payload Hash" request.payloadHash.value ++
  writeCardFieldPreview "Resume Required" (toString request.resumeRequired) ++
  match request.presentationId with
  | some presentationId => writeCardFieldPreview "Presentation ID" presentationId.value
  | none => []

def writeAccountSection (request : PulledRequest) (accountInfo : AccountInfo) : Card :=
  writeCardSectionHeading "Account" ++
  writeCardFieldPreview "Account" request.accountAddress ++
  writeCardFieldPreview "Account Locked" (toString accountInfo.isLocked)

def writeCreateAccountSection : Card :=
  writeCardSectionHeading "Account Creation" ++
  writeCardFieldPreview "Operation" "create_local_account" ++
  writeCardFieldPreview "Password Handling"
    "password is entered locally on this terminal and is not sent by the host"

def writeExportAccountSection (request : PulledRequest) : Card :=
  writeCardSectionHeading "Account Export" ++
  writeCardFieldPreview "Operation" "export_local_account_private_key" ++
  writeCardFieldPreview "Output File" (formatOptionalPath request.outputFile) ++
  writeCardFieldPreview "Overwrite Existing File" (formatFlag request.force) ++
  writeCardFieldPreview "Password Handling"
    "account password is entered locally on this terminal and is not sent by the host"

def writeImportAccountSection (request : PulledRequest) : Card :=
  writeCardSectionHeading "Account Import" ++
  writeCardFieldPreview "Operation" "import_local_account_private_key" ++
  writeCardFieldPreview "Private Key File" (formatOptionalPath request.privateKeyFile) ++
  writeCardFieldPreview "Requested Account" (requestedAccountLabel request.accountAddress) ++
  writeCardFieldPreview "Password Handling"
    "new account password is entered locally on this terminal and is not sent by the host"

def writeMessageSection (request : PulledRequest) : Card :=
  writeCardSectionHeading "Message" ++
  (match request.messageFormat with
    | some format => writeCardFieldPreview "Message Format" (messageFormatLabel format)
    | none => []) ++
  (match canonicalMessageByteLen request with
    | .ok (some byteLen) => writeCardFieldPreview "Byte Length" (toString byteLen)
    | .ok none => []
    | .error error => writeCardFieldPreview "Message Decode Error" error) ++
  writeCardFieldPreview "Canonical Message" (request.message.getD "missing")

def writeContextSection (request : PulledRequest) : Card :=
  if request.displayHint.isNone && request.clientContext.isNone then []
  else
    writeCardSectionHeading "Context" ++
    (match request.displayHint with
      | some displayHint => writeCardFieldPreview "Display Hint (untrusted)" displayHint
      | none => []) ++
    match request.clientContext with
    | some clientContext => writeCardFieldPreview "Client Context (untrusted)" clientContext
    | none => []

def writeActionsSection : Card :=
  writeCardSectionHeading "Actions" ++
  writeCardTextLine "  [a] approve".toList ++
  writeCardTextLine "  [r] reject".toList ++
  writeCardTextLine "  [v] view raw canonical payload".toList

/-! ## Cards -/

def writeTitle (title : String) : Card :=
  writeCardBorder ++ writeCardTextLine title.toList ++ writeCardBorder

/-- The text of a card, an empty line before and after it. -/
def Card.text (card : Card) : List Char := ['\n'] ++ card.flatMap (· ++ ['\n']) ++ ['\n']

namespace Vm1

variable (vm : Vm1)

/-- The section that depends on the kind of the request. -/
def writeKindSection (request : PulledRequest) : Card :=
  match request.kind with
  | .signTransaction => vm.writeTransactionSection request
  | .signMessage => writeMessageSection request
  | .createAccount => writeCreateAccountSection
  | .exportAccount => writeExportAccountSection request
  | .importAccount => writeImportAccountSection request

def requestSummary (request : PulledRequest) (accountInfo : AccountInfo) : Card :=
  writeTitle "Starmask Local Signing Request" ++
  writeRequestSection request ++
  writeAccountSection request accountInfo ++
  vm.writeKindSection request ++
  writeContextSection request ++
  writeActionsSection ++
  writeCardBorder

def renderRequestSummary (request : PulledRequest) (accountInfo : AccountInfo) : List Char :=
  (vm.requestSummary request accountInfo).text

/-- What the raw view shows of the payload. -/
def writePayloadDetails (request : PulledRequest) : Card :=
  match request.kind with
  | .signTransaction =>
    writeCardSectionHeading "Raw Transaction" ++
    match request.rawTxnBcsHex with
    | some rawTxnBcsHex =>
      writeCardFieldFull "Raw Transaction BCS" rawTxnBcsHex ++
      match vm.decodeRawTransaction rawTxnBcsHex with
      | .ok rawTxn => vm.writeDecodedTransactionFields rawTxn true
      | .error error => writeCardFieldFull "Decode Error" error
    | none => writeCardFieldFull "Raw Transaction BCS" "missing"
  | .signMessage =>
    writeCardSectionHeading "Canonical Message" ++
    (match request.messageFormat with
      | some format => writeCardFieldFull "Message Format" (messageFormatLabel format)
      | none => []) ++
    writeCardFieldFull "Message" (request.message.getD "missing") ++
    match canonicalMessageByteLen request with
    | .ok (some byteLen) => writeCardFieldFull "Byte Length" (toString byteLen)
    | .ok none => []
    | .error error => writeCardFieldFull "Message Decode Error" error
  | .createAccount =>
    writeCardSectionHeading "Account Creation" ++
    writeCardFieldFull "Operation" "Create a new local account and add it to this wallet backend."
  | .exportAccount =>
    writeCardSectionHeading "Account Export" ++
    writeCardFieldFull "Operation"
      "Export one local account private key to a file on this machine." ++
    writeCardFieldFull "Account" request.accountAddress ++
    writeCardFieldFull "Output File" (formatOptionalPath request.outputFile) ++
    writeCardFieldFull "Overwrite Existing File" (formatFlag request.force)
  | .importAccount =>
    writeCardSectionHeading "Account Import" ++
    writeCardFieldFull "Operation"
      "Import one local account private key from a file on this machine." ++
    writeCardFieldFull "Requested Account" (requestedAccountLabel request.accountAddress) ++
    writeCardFieldFull "Private Key File" (formatOptionalPath request.privateKeyFile)

def rawPayloadDetails (request : PulledRequest) : Card :=
  writeTitle "Starmask Canonical Payload Details" ++
  writeCardSectionHeading "Diagnostics" ++
  writeCardFieldFull "Request ID" request.requestId.value ++
  writeCardFieldFull "Payload Hash" request.payloadHash.value ++
  writeCardFieldFull "Client Request ID (untrusted)" request.clientRequestId.value ++
  vm.writePayloadDetails request ++
  writeCardSectionHeading "Back" ++
  writeCardTextLine "Press enter on the next prompt and choose approve or reject.".toList ++
  writeCardBorder

def renderRawPayloadDetails (request : PulledRequest) : List Char :=
  (vm.rawPayloadDetails request).text

end Vm1

end StarcoinMcp.Agent
