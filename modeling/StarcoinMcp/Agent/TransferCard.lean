import StarcoinMcp.Agent.Card
import StarcoinMcp.Node.Rules

/-! The transfers of the node tools on the card of the agent. The builder calls the module
`transfer_scripts`, the card looks for `TransferScripts`: a prepared transfer is shown as
any other call, without its receiver and its amount. -/

namespace StarcoinMcp.Agent

open Node Prog
open Starmask (PulledRequest)

/-! ## What is prepared -/

section Prepared

variable {ctx : AppContext} {t : List Event}

/-- The bytes handed out are those of a transaction with the payload asked for. -/
def Carries (ctx : AppContext) (result : PreparationResult) (payload : TransactionPayload) : Prop :=
  ∃ rawTxn bytes, rawTxn.payload = payload ∧ ctx.vm.encodeRaw rawTxn = .ok bytes ∧
    result.rawTxnBcsHex = Hex.encode bytes

theorem meets_prepareTransaction_carries {sender : AccountAddress} {options : PrepareOptions}
    {payload : TransactionPayload} {kind : TransactionKind} {summary : Value}
    {details : Option AppContext.PreparedTransferDetails} :
    Meets (fun _ _ => True) (fun _ r => ∀ result, r = .ok result → Carries ctx result payload) t
      (ctx.prepareTransaction sender options payload kind summary details) := by
  unfold AppContext.prepareTransaction
  iterate 7 refine meets_bind_any (fun _ _ => ?_) fun _ _ _ h => nomatch h
  refine meets_lift_bind (fun rawTxnBcsHex hencoded => ?_) fun _ _ _ h => nomatch h
  obtain ⟨bytes, hraw, hhex⟩ := of_encodeHexBcs hencoded
  iterate 4 refine meets_bind_any (fun _ _ => ?_) fun _ _ _ h => nomatch h
  intro result hresult
  obtain rfl := Except.ok.inj hresult
  exact ⟨_, bytes, rfl, hraw, hhex⟩

/-- A transfer is a call of two arguments in the module the builder names. -/
def IsTransfer (ctx : AppContext) (payload : TransactionPayload) : Prop :=
  ∃ moduleName function tokenType receiverArg amountArg,
    ctx.vm.identifier "transfer_scripts" = .ok moduleName ∧
    payload = .entryFunction ⟨⟨coreCodeAddress, moduleName⟩, function, [.struct tokenType],
      [receiverArg, amountArg]⟩

theorem isTransfer_of_buildTransferPayload {receiver : AccountAddress} {amount : BitVec 128}
    {tokenCode : TokenCode} {payload : TransactionPayload}
    (h : buildTransferPayload ctx.vm receiver amount tokenCode = .ok payload) :
    IsTransfer ctx payload := by
  obtain ⟨tokenType, -, h⟩ := bind_eq_ok h
  obtain ⟨moduleName, hmodule, h⟩ := bind_eq_ok h
  obtain ⟨function, -, h⟩ := bind_eq_ok h
  obtain ⟨receiverArg, -, h⟩ := bind_eq_ok h
  obtain ⟨amountArg, -, h⟩ := bind_eq_ok h
  exact ⟨moduleName, function, tokenType, receiverArg, amountArg, mapError_eq_ok hmodule,
    (Except.ok.inj h).symm⟩

/-- The payload of a transfer, as `prepare_transfer` builds it from its input. -/
def transferPayload (vm : Vm2) (input : PrepareTransferInput) :
    Except SharedError TransactionPayload := do
  let receiver ← parseAddress vm "receiver" input.receiver
  let amount ← (Text.parseUnsigned (2 ^ 128) input.amount).mapError fun e =>
    SharedError.new .invalidAmount ("invalid transfer amount: " ++ e.text)
  let tokenCode ← parseTokenCode vm input.tokenCode
  buildTransferPayload vm receiver (BitVec.ofNat 128 amount) tokenCode

theorem isTransfer_of_transferPayload {input : PrepareTransferInput} {payload : TransactionPayload}
    (h : transferPayload ctx.vm input = .ok payload) : IsTransfer ctx payload := by
  obtain ⟨receiver, -, h⟩ := bind_eq_ok h
  obtain ⟨amount, -, h⟩ := bind_eq_ok h
  obtain ⟨tokenCode, -, h⟩ := bind_eq_ok h
  exact isTransfer_of_buildTransferPayload h

theorem meets_prepareTransfer_carries {input : PrepareTransferInput} :
    Meets (fun _ _ => True) (fun _ r => ∀ result, r = .ok result →
      ∃ payload, transferPayload ctx.vm input = .ok payload ∧ Carries ctx result payload) t
      (ctx.prepareTransfer input) := by
  unfold AppContext.prepareTransfer
  refine meets_lift_bind (fun sender _ => ?_) fun _ _ _ h => nomatch h
  refine meets_lift_bind (fun receiver hreceiver => ?_) fun _ _ _ h => nomatch h
  refine meets_lift_bind (fun amount hamount => ?_) fun _ _ _ h => nomatch h
  refine meets_lift_bind (fun tokenCode htoken => ?_) fun _ _ _ h => nomatch h
  refine meets_lift_bind (fun payload hpayload => ?_) fun _ _ _ h => nomatch h
  refine meets_prepareTransaction_carries.imp_post fun _ _ hcarries result hresult => ?_
  refine ⟨payload, ?_, hcarries result hresult⟩
  unfold transferPayload
  rw [hreceiver, hamount, htoken]
  exact hpayload

theorem returned_carries {s : Shared} {moves : List NodeMove} {i : ℕ} {input : PrepareTransferInput}
    {result : PreparationResult} (hcall : (ctx.system.run s moves).calls[i]? =
      some (.prepareTransfer input, .ret (.prepared result))) :
    ∃ payload, transferPayload ctx.vm input = .ok payload ∧ Carries ctx result payload := by
  have hmeets : Meets (fun _ _ => True) (fun _ r => ∀ result, r = .ok (.prepared result) →
      ∃ payload, transferPayload ctx.vm input = .ok payload ∧ Carries ctx result payload) []
      (ctx.program (.prepareTransfer input)) := by
    refine meets_prepareTransfer_carries.bind ?_ fun _ _ _ _ h => nomatch h
    intro d result h result' hresult'
    obtain rfl := ToolOutput.prepared.inj (Except.ok.inj hresult')
    exact h result rfl
  have hfollowed : System.Followed ctx.system _ := System.followed_run s moves
  exact hmeets.steps (hfollowed.calls i _ _ hcall) result rfl

end Prepared

/-! ## The card of a call that is no transfer -/

def callTexts : List String :=
  ["Starmask Local Signing Request", "Request", "Account", "Transaction", "Context", "Actions",
    "  [a] approve", "  [r] reject", "  [v] view raw canonical payload"]

def callLabels : List String :=
  ["Request ID", "Client Request ID (untrusted)", "Kind", "Payload Hash", "Resume Required",
    "Presentation ID", "Account", "Account Locked", "Chain ID", "Sender", "Sequence Number",
    "Payload Type", "Gas Unit Price", "Max Gas Amount", "Gas Token", "Max Fee Budget",
    "Expiration", "Target Function", "Type Args", "Argument Count", "Argument Preview",
    "Display Hint (untrusted)", "Client Context (untrusted)"]

/-- How the lines of such a card start. -/
def callLeads : List (List Char) :=
  ['+'] :: callTexts.map (fun text => '|' :: ' ' :: text.toList) ++
    callLabels.map fun label => '|' :: ' ' :: fieldPrefix label

theorem within_border : writeCardBorder.Within callLeads :=
  fun line hline => ⟨['+'], List.mem_cons_self .., lineOf_border line hline⟩

theorem within_textLine {text : String} (h : text ∈ callTexts) :
    (writeCardTextLine text.toList).Within callLeads := by
  have hfits : ∀ text ∈ callTexts, '\n' ∉ text.toList ++ [] ∧
      (text.toList ++ []).length ≤ cardInnerWidth := by decide +kernel
  intro line hline
  rw [← List.append_nil text.toList] at hline
  refine ⟨'|' :: ' ' :: text.toList, ?_, lineOf_textLine (hfits text h).1 (hfits text h).2 line hline⟩
  exact List.mem_append_left _ (List.mem_cons_of_mem _ (List.mem_map_of_mem h))

theorem within_heading {heading : String} (h : heading ∈ callTexts) :
    (writeCardSectionHeading heading).Within callLeads :=
  within_border.append (within_textLine h)

theorem within_preview {label : String} {value : String} (h : label ∈ callLabels) :
    (writeCardFieldPreview label value).Within callLeads := by
  have hfits : ∀ label ∈ callLabels, '\n' ∉ fieldPrefix label ∧
      (fieldPrefix label).length ≤ cardInnerWidth := by decide +kernel
  intro line hline
  refine ⟨'|' :: ' ' :: fieldPrefix label, ?_,
    lineOf_preview value (hfits label h).1 (hfits label h).2 line hline⟩
  exact List.mem_append_right _ (List.mem_map_of_mem h)

section Sections

variable {request : PulledRequest}

theorem within_requestSection : (writeRequestSection request).Within callLeads := by
  unfold writeRequestSection
  refine ((((((within_heading ?_).append (within_preview ?_)).append (within_preview ?_)).append
    (within_preview ?_)).append (within_preview ?_)).append (within_preview ?_)).append ?_
  case refine_7 =>
    cases request.presentationId with
    | none => exact within_nil
    | some presentationId => exact within_preview (by decide)
  all_goals decide

theorem within_accountSection {accountInfo : AccountInfo} :
    (writeAccountSection request accountInfo).Within callLeads :=
  ((within_heading (by decide)).append (within_preview (by decide))).append
    (within_preview (by decide))

theorem within_contextSection : (writeContextSection request).Within callLeads := by
  unfold writeContextSection
  split_ifs
  · exact within_nil
  · refine ((within_heading (by decide)).append ?_).append ?_
    · cases request.displayHint with
      | none => exact within_nil
      | some displayHint => exact within_preview (by decide)
    · cases request.clientContext with
      | none => exact within_nil
      | some clientContext => exact within_preview (by decide)

theorem within_actionsSection : writeActionsSection.Within callLeads :=
  (((within_heading (by decide)).append (within_textLine (by decide))).append
    (within_textLine (by decide))).append (within_textLine (by decide))

variable {vm : Vm1} {f : EntryFunction}

theorem within_scriptFunctionFields (h : vm.decodeTransferScriptFunction f = none) :
    (vm.writeScriptFunctionFields f false).Within callLeads := by
  unfold Vm1.writeScriptFunctionFields
  refine (((within_preview (by decide)).append ?_).append ?_).append ?_
  · unfold Vm1.writeTypeArgs
    split_ifs
    · exact within_nil
    · exact within_preview (by decide)
  · unfold Vm1.writeTransferFields
    rw [h]
    exact within_preview (by decide)
  · cases f.args with
    | nil => exact within_nil
    | cons arg args => exact within_preview (by decide)

theorem within_decodedTransactionFields {rawTxn : RawUserTransaction}
    (hpayload : rawTxn.payload = .entryFunction f)
    (h : vm.decodeTransferScriptFunction f = none) :
    (vm.writeDecodedTransactionFields rawTxn false).Within callLeads := by
  unfold Vm1.writeDecodedTransactionFields
  rw [hpayload]
  refine Card.Within.append ?_ (within_scriptFunctionFields h)
  refine ((((((((within_preview ?_).append (within_preview ?_)).append (within_preview ?_)).append
    (within_preview ?_)).append (within_preview ?_)).append (within_preview ?_)).append
    (within_preview ?_)).append (within_preview ?_)).append (within_preview ?_)
  all_goals decide

/-- A call the card does not take for a transfer has no line for a receiver or an amount. -/
theorem within_requestSummary {accountInfo : AccountInfo} {hex : String}
    {rawTxn : RawUserTransaction} (hkind : request.kind = .signTransaction)
    (hhex : request.rawTxnBcsHex = some hex) (hdecoded : vm.decodeRawTransaction hex = .ok rawTxn)
    (hpayload : rawTxn.payload = .entryFunction f)
    (h : vm.decodeTransferScriptFunction f = none) :
    (vm.requestSummary request accountInfo).Within callLeads := by
  have htransaction : (vm.writeKindSection request).Within callLeads := by
    unfold Vm1.writeKindSection Vm1.writeTransactionSection
    rw [hkind, hhex]
    dsimp only
    rw [hdecoded]
    exact (within_heading (by decide)).append (within_decodedTransactionFields hpayload h)
  have htitle : (writeTitle "Starmask Local Signing Request").Within callLeads :=
    (within_border.append (within_textLine (by decide))).append within_border
  exact (((((htitle.append within_requestSection).append within_accountSection).append
    htransaction).append within_contextSection).append within_actionsSection).append within_border

end Sections

theorem transferLabels_not_in_callLeads : ∀ label ∈ ["Recipient", "Amount"], ∀ lead ∈ callLeads,
    ¬ lead <+: '|' :: ' ' :: fieldPrefix label ∧ ¬ '|' :: ' ' :: fieldPrefix label <+: lead := by
  decide +kernel

/-! ## A prepared transfer on the card -/

theorem stripHexMarker_encode (bytes : List UInt8) :
    stripHexMarker (Hex.encode bytes) = Hex.encode bytes := by
  cases bytes with
  | nil => rfl
  | cons b bytes =>
    unfold Hex.encode Hex.encodeByte stripHexMarker
    split
    · next heq =>
      have hx := (List.cons.inj (List.cons.inj heq).2).1
      simp at hx
    · rfl

theorem decodeHexBytes_encode (bytes : List UInt8) :
    Agent.decodeHexBytes (String.ofList (Hex.encode bytes)) = .ok bytes := by
  unfold Agent.decodeHexBytes
  rw [String.toList_ofList, stripHexMarker_encode, Hex.decode_encode]
  rfl

theorem decodeTransferScriptFunction_eq_none {vm : Vm1} {f : EntryFunction}
    (h : f.module.name ≠ "TransferScripts") : vm.decodeTransferScriptFunction f = none := if_pos (.inr h)

theorem decodeRawTransaction_encode {vm : Vm1} {bytes : List UInt8} {rawTxn : RawUserTransaction}
    (h : vm.decodeRaw bytes = .ok rawTxn) :
    vm.decodeRawTransaction (String.ofList (Hex.encode bytes)) = .ok rawTxn := by
  unfold Vm1.decodeRawTransaction
  rw [decodeHexBytes_encode]
  show (vm.decodeRaw bytes).mapError _ = _
  rw [h]
  rfl

/-- Only a call into `TransferScripts` gets the lines of a transfer. -/
theorem not_showsField_of_module {vm : Vm1} {request : PulledRequest} {accountInfo : AccountInfo}
    {bytes : List UInt8} {rawTxn : RawUserTransaction} {f : EntryFunction}
    (hkind : request.kind = .signTransaction)
    (hraw : request.rawTxnBcsHex = some (String.ofList (Hex.encode bytes)))
    (hdecoded : vm.decodeRaw bytes = .ok rawTxn) (hpayload : rawTxn.payload = .entryFunction f)
    (hmodule : f.module.name ≠ "TransferScripts") :
    ¬ ShowsField "Recipient" (vm.renderRequestSummary request accountInfo) ∧
      ¬ ShowsField "Amount" (vm.renderRequestSummary request accountInfo) := by
  have hwithin : (vm.requestSummary request accountInfo).Within callLeads :=
    within_requestSummary hkind hraw (decodeRawTransaction_encode hdecoded) hpayload
      (decodeTransferScriptFunction_eq_none hmodule)
  exact ⟨hwithin.not_showsField (transferLabels_not_in_callLeads _ (by decide)),
    hwithin.not_showsField (transferLabels_not_in_callLeads _ (by decide))⟩

/-- The agent reads the bytes `hex` spells as a transaction with this payload. -/
def DecodesAs (vm : Vm1) (hex : List Char) (payload : TransactionPayload) : Prop :=
  ∀ bytes, hex = Hex.encode bytes →
    ∃ rawTxn, vm.decodeRaw bytes = .ok rawTxn ∧ rawTxn.payload = payload

theorem transfer_card_without_receiver (ctx : AppContext) (s : Shared) (moves : List NodeMove)
    {i : ℕ} {input : PrepareTransferInput} {result : PreparationResult}
    (hcall : (ctx.system.run s moves).calls[i]? =
      some (.prepareTransfer input, .ret (.prepared result)))
    (hname : ∀ name, ctx.vm.identifier "transfer_scripts" = .ok name → name = "transfer_scripts")
    (vm : Vm1) (hdecodes : ∀ payload, transferPayload ctx.vm input = .ok payload →
      DecodesAs vm result.rawTxnBcsHex payload)
    (request : PulledRequest) (hkind : request.kind = .signTransaction)
    (hraw : request.rawTxnBcsHex = some (String.ofList result.rawTxnBcsHex))
    (accountInfo : AccountInfo) :
    ¬ ShowsField "Recipient" (vm.renderRequestSummary request accountInfo) ∧
      ¬ ShowsField "Amount" (vm.renderRequestSummary request accountInfo) := by
  obtain ⟨payload, hpayload, rawTxn, bytes, -, -, hhex⟩ := returned_carries hcall
  obtain ⟨name, function, tokenType, receiverArg, amountArg, hidentifier, rfl⟩ :=
    isTransfer_of_transferPayload hpayload
  obtain ⟨rawTxn', hdecoded, hpayload'⟩ := hdecodes _ hpayload bytes hhex
  obtain rfl := hname name hidentifier
  rw [hhex] at hraw
  exact not_showsField_of_module hkind hraw hdecoded hpayload'
    (show "transfer_scripts" ≠ "TransferScripts" by decide)

deriving instance DecidableEq for PrepareOptions
deriving instance DecidableEq for PrepareTransferInput

namespace Sample

open Node.Sample

/-- Five units from `alice` to `bob`, with everything the endpoint would choose given. -/
def transferInput : PrepareTransferInput where
  senderPublicKey := none
  sequenceNumber := some 7
  maxGasAmount := none
  gasUnitPrice := some 1
  expirationTimeSecs := some 2000
  gasToken := none
  sender := addressText alice
  receiver := addressText bob
  amount := "5"
  tokenCode := none

def prepare : List NodeMove := .start (.prepareTransfer transferInput) :: answers 0 7 7

def afterPrepare : NodeWorld := Node.Sample.ctx.system.run Node.Sample.start prepare

/-- The preparation that is call `i`, once it has returned. -/
def prepared (w : NodeWorld) (i : ℕ) : Option (PrepareTransferInput × PreparationResult) :=
  match w.calls[i]? with
  | some (.prepareTransfer input, .ret (.prepared result)) => some (input, result)
  | _ => none

theorem calls_of_prepared {w : NodeWorld} {i : ℕ} {input : PrepareTransferInput}
    {result : PreparationResult} (h : prepared w i = some (input, result)) :
    w.calls[i]? = some (.prepareTransfer input, .ret (.prepared result)) := by
  unfold prepared at h
  split at h
  · next hcall =>
    cases h
    exact hcall
  · cases h

/-- The preparation returns the bytes of the sample transfer. -/
theorem prepared_transfer : ∃ result,
    afterPrepare.calls[0]? = some (.prepareTransfer transferInput, .ret (.prepared result)) ∧
    result.rawTxnBcsHex = Hex.encode rawBytes := by
  have hprepared : ((prepared afterPrepare 0).map fun p => (p.1, p.2.rawTxnBcsHex)) =
      some (transferInput, Hex.encode rawBytes) := by decide +kernel
  obtain ⟨⟨input, result⟩, hprepared, heq⟩ := Option.map_eq_some_iff.mp hprepared
  obtain ⟨rfl, hhex⟩ := Prod.mk.inj heq
  exact ⟨result, calls_of_prepared hprepared, hhex⟩

/-- The chain's crates on the sample transfer. -/
def vm : Vm1 where
  decodeRaw bytes := if bytes = rawBytes then .ok transfer else .error "unexpected end of input"
  decodeAddress bytes :=
    if h : bytes.length = 16 then .ok ⟨bytes, h⟩ else .error "unexpected end of input"
  decodeU128 bytes :=
    if bytes.length = 16 then
      .ok (BitVec.ofNat 128 (bytes.foldr (fun b n => b.toNat + 256 * n) 0))
    else .error "unexpected end of input"
  addressText := addressText
  typeTagText
    | .struct (.mk _ module name _) => "0x1::" ++ module ++ "::" ++ name
    | _ => "u8"

def request : PulledRequest where
  requestId := ⟨"req", by decide +kernel⟩
  clientRequestId := ⟨"client", by decide +kernel⟩
  kind := .signTransaction
  accountAddress := addressText alice
  payloadHash := ⟨"payload", by decide +kernel⟩
  displayHint := some "Transfer"
  clientContext := none
  resumeRequired := false
  deliveryLeaseId := none
  leaseExpiresAt := none
  presentationId := none
  presentationExpiresAt := none
  rawTxnBcsHex := some (String.ofList (Hex.encode rawBytes))
  message := none
  messageFormat := none
  outputFile := none
  force := false
  privateKeyFile := none

theorem decodeRaw_rawBytes : vm.decodeRaw rawBytes = .ok transfer := by
  simp only [vm, if_true]

theorem decodesAs_transfer {result : PreparationResult}
    (hhex : result.rawTxnBcsHex = Hex.encode rawBytes) (payload : TransactionPayload)
    (h : transferPayload Node.Sample.vm transferInput = .ok payload) :
    DecodesAs vm result.rawTxnBcsHex payload := by
  have hpayload : transferPayload Node.Sample.vm transferInput = .ok transfer.payload := rfl
  intro bytes hbytes
  obtain rfl := Hex.encode_injective (hhex.symm.trans hbytes)
  exact ⟨transfer, decodeRaw_rawBytes, Except.ok.inj (hpayload.symm.trans h)⟩

end Sample

theorem transfer_card_without_receiver_sample : ∃ result,
    Sample.afterPrepare.calls[0]? =
      some (.prepareTransfer Sample.transferInput, .ret (.prepared result)) ∧
    Sample.request.rawTxnBcsHex = some (String.ofList result.rawTxnBcsHex) ∧
    ¬ ShowsField "Recipient" (Sample.vm.renderRequestSummary Sample.request ⟨false⟩) ∧
    ¬ ShowsField "Amount" (Sample.vm.renderRequestSummary Sample.request ⟨false⟩) := by
  obtain ⟨result, hcall, hhex⟩ := Sample.prepared_transfer
  have hraw : Sample.request.rawTxnBcsHex = some (String.ofList result.rawTxnBcsHex) := by
    rw [hhex]
    rfl
  exact ⟨result, hcall, hraw, transfer_card_without_receiver Node.Sample.ctx Node.Sample.start
    Sample.prepare hcall (fun _ h => (Except.ok.inj h).symm) Sample.vm
    (Sample.decodesAs_transfer hhex) Sample.request rfl hraw ⟨false⟩⟩

/-- A transfer from `alice` to `bob` is prepared; the card for it names no receiver. -/
theorem receiver_not_on_card : ∃ result,
    Sample.afterPrepare.calls[0]? =
      some (.prepareTransfer Sample.transferInput, .ret (.prepared result)) ∧
    Sample.request.rawTxnBcsHex = some (String.ofList result.rawTxnBcsHex) ∧
    (∀ payload, transferPayload Node.Sample.vm Sample.transferInput = .ok payload →
      DecodesAs Sample.vm result.rawTxnBcsHex payload) ∧
    ¬ ShowsField "Recipient" (Sample.vm.renderRequestSummary Sample.request ⟨false⟩) := by
  obtain ⟨result, hcall, hhex⟩ := Sample.prepared_transfer
  refine ⟨result, hcall, by rw [hhex]; rfl, Sample.decodesAs_transfer hhex, ?_⟩
  exact (not_showsField_of_module rfl rfl Sample.decodeRaw_rawBytes rfl
    (show "transfer_scripts" ≠ "TransferScripts" by decide)).1

end StarcoinMcp.Agent
