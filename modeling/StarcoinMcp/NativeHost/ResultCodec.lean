import StarcoinMcp.Agent.LocalAgent
import StarcoinMcp.NativeHost.Bridge

/-! The three hand-written mappings between a result and the parameters of `request.resolve`:
the agent writes them, the native host checks them, the daemon reads them. What the native
host accepts is exactly what the agent would write for some result without blank texts. -/

namespace StarcoinMcp.NativeHost

open Starmask Agent

/-- The texts of a result. -/
def resultTexts : RequestResult → List String
  | .signedTransaction signedTxnBcsHex => [signedTxnBcsHex]
  | .signedMessage signature => [signature]
  | .createdAccount address publicKey _ _ _ => [address, publicKey]
  | .exportedAccount address outputFile => [address, outputFile]
  | .importedAccount address publicKey _ _ _ => [address, publicKey]

section Codec

variable {agent : LocalAccountAgent}

theorem requestResultFromParams_resolveParams (requestId : RequestId) (presentationId : PresentationId)
    (r : RequestResult) :
    requestResultFromParams (agent.resolveParams requestId presentationId r) = .ok r := by
  cases r <;> rfl

theorem resultKind_of_resolveParams (agent : LocalAccountAgent) (requestId : RequestId)
    (presentationId : PresentationId) (r : RequestResult) :
    (agent.resolveParams requestId presentationId r).resultKind = r.resultKind := by
  cases r <;> rfl

theorem isSet_eq_true {value : Option String} :
    isSet value = true ↔ ∃ text, value = some text ∧ Text.isBlank text = false := by
  simp [isSet, Option.any_eq_true]

/-- What the agent writes for a result without blank texts passes the checks. -/
theorem checkResolveFields_resolveParams (requestId : RequestId) (presentationId : PresentationId)
    {r : RequestResult} (h : ∀ text ∈ resultTexts r, Text.isBlank text = false) :
    checkResolveFields (agent.resolveParams requestId presentationId r) = .ok () := by
  cases r <;>
    simp_all [resultTexts, checkResolveFields, LocalAccountAgent.resolveParams,
      LocalAccountAgent.emptyResolveParams, isSet, hasAccountResultFields, hasCreatedAccountFields,
      hasExportedAccountFields, hasImportedAccountFields]

/-- The result fields of the other variants are absent. -/
theorem hasCreatedAccountFields_eq_false {input : RequestResolveParams}
    (h : ¬ hasCreatedAccountFields input = true) :
    input.createdAccountAddress = none ∧ input.createdAccountPublicKey = none ∧
      input.createdAccountCurve = none ∧ input.createdAccountIsDefault = none ∧
      input.createdAccountIsLocked = none := by
  simpa [hasCreatedAccountFields, and_assoc] using h

theorem hasExportedAccountFields_eq_false {input : RequestResolveParams}
    (h : ¬ hasExportedAccountFields input = true) :
    input.exportedAccountAddress = none ∧ input.exportedAccountOutputFile = none := by
  simpa [hasExportedAccountFields] using h

theorem hasImportedAccountFields_eq_false {input : RequestResolveParams}
    (h : ¬ hasImportedAccountFields input = true) :
    input.importedAccountAddress = none ∧ input.importedAccountPublicKey = none ∧
      input.importedAccountCurve = none ∧ input.importedAccountIsDefault = none ∧
      input.importedAccountIsLocked = none := by
  simpa [hasImportedAccountFields, and_assoc] using h

/-- An account result that is there in full. -/
theorem exists_of_account_fields {address publicKey : Option String} {curve : Option Curve}
    {isDefault isLocked : Option Bool}
    (h : ¬ (!isSet address || !isSet publicKey || curve.isNone || isDefault.isNone || isLocked.isNone) =
      true) :
    ∃ a k c d l, address = some a ∧ publicKey = some k ∧ curve = some c ∧ isDefault = some d ∧
      isLocked = some l := by
  simp only [Bool.or_eq_true, not_or, Bool.not_eq_true', Bool.not_eq_false, Option.isNone_iff_eq_none] at h
  obtain ⟨⟨⟨⟨haddress, hkey⟩, hcurve⟩, hdefault⟩, hlocked⟩ := h
  obtain ⟨a, ha, -⟩ := isSet_eq_true.mp haddress
  obtain ⟨k, hk, -⟩ := isSet_eq_true.mp hkey
  obtain ⟨c, hc⟩ := Option.ne_none_iff_exists'.mp hcurve
  obtain ⟨d, hd⟩ := Option.ne_none_iff_exists'.mp hdefault
  obtain ⟨l, hl⟩ := Option.ne_none_iff_exists'.mp hlocked
  exact ⟨a, k, c, d, l, ha, hk, hc, hd, hl⟩

/-- A message that passes the checks is what the agent writes for some result. -/
theorem resolveParams_of_checkResolveFields (agent : LocalAccountAgent) {input : RequestResolveParams}
    (h : checkResolveFields input = .ok ()) :
    ∃ r, agent.resolveParams input.requestId input.presentationId r =
      { input with walletInstanceId := agent.walletInstanceId } := by
  obtain ⟨w, requestId, presentationId, kind, hex, signature, createdAddress, createdKey, createdCurve,
    createdDefault, createdLocked, exportedAddress, exportedFile, importedAddress, importedKey,
    importedCurve, importedDefault, importedLocked⟩ := input
  cases kind with
  | signedTransaction =>
    simp only [checkResolveFields] at h
    split_ifs at h with hset hsignature haccount
    obtain ⟨text, rfl, -⟩ := isSet_eq_true.mp (by simpa using hset)
    obtain rfl : signature = none := by simpa using hsignature
    simp only [hasAccountResultFields, Bool.or_eq_true, not_or] at haccount
    obtain ⟨rfl, rfl, rfl, rfl, rfl⟩ := hasCreatedAccountFields_eq_false haccount.1.1
    obtain ⟨rfl, rfl⟩ := hasExportedAccountFields_eq_false haccount.1.2
    obtain ⟨rfl, rfl, rfl, rfl, rfl⟩ := hasImportedAccountFields_eq_false haccount.2
    exact ⟨.signedTransaction text, rfl⟩
  | signedMessage =>
    simp only [checkResolveFields] at h
    split_ifs at h with hset hhex haccount
    obtain ⟨text, rfl, -⟩ := isSet_eq_true.mp (by simpa using hset)
    obtain rfl : hex = none := by simpa using hhex
    simp only [hasAccountResultFields, Bool.or_eq_true, not_or] at haccount
    obtain ⟨rfl, rfl, rfl, rfl, rfl⟩ := hasCreatedAccountFields_eq_false haccount.1.1
    obtain ⟨rfl, rfl⟩ := hasExportedAccountFields_eq_false haccount.1.2
    obtain ⟨rfl, rfl, rfl, rfl, rfl⟩ := hasImportedAccountFields_eq_false haccount.2
    exact ⟨.signedMessage text, rfl⟩
  | createdAccount =>
    simp only [checkResolveFields] at h
    split_ifs at h with hsigned hfull hother
    obtain ⟨rfl, rfl⟩ : hex = none ∧ signature = none := by simpa using hsigned
    obtain ⟨a, k, c, d, l, rfl, rfl, rfl, rfl, rfl⟩ := exists_of_account_fields hfull
    simp only [Bool.or_eq_true, not_or] at hother
    obtain ⟨rfl, rfl⟩ := hasExportedAccountFields_eq_false hother.1
    obtain ⟨rfl, rfl, rfl, rfl, rfl⟩ := hasImportedAccountFields_eq_false hother.2
    exact ⟨.createdAccount a k c d l, rfl⟩
  | exportedAccount =>
    simp only [checkResolveFields] at h
    split_ifs at h with hsigned hother hfull
    obtain ⟨rfl, rfl⟩ : hex = none ∧ signature = none := by simpa using hsigned
    simp only [Bool.or_eq_true, not_or, Bool.not_eq_true', Bool.not_eq_false] at hother hfull
    obtain ⟨rfl, rfl, rfl, rfl, rfl⟩ := hasCreatedAccountFields_eq_false (by simpa using hother.1)
    obtain ⟨rfl, rfl, rfl, rfl, rfl⟩ := hasImportedAccountFields_eq_false (by simpa using hother.2)
    obtain ⟨a, rfl, -⟩ := isSet_eq_true.mp hfull.1
    obtain ⟨f, rfl, -⟩ := isSet_eq_true.mp hfull.2
    exact ⟨.exportedAccount a f, rfl⟩
  | importedAccount =>
    simp only [checkResolveFields] at h
    split_ifs at h with hsigned hother hfull
    obtain ⟨rfl, rfl⟩ : hex = none ∧ signature = none := by simpa using hsigned
    simp only [Bool.or_eq_true, not_or] at hother
    obtain ⟨rfl, rfl, rfl, rfl, rfl⟩ := hasCreatedAccountFields_eq_false hother.1
    obtain ⟨rfl, rfl⟩ := hasExportedAccountFields_eq_false hother.2
    obtain ⟨a, k, c, d, l, rfl, rfl, rfl, rfl, rfl⟩ := exists_of_account_fields hfull
    exact ⟨.importedAccount a k c d l, rfl⟩
  | none => cases h

end Codec

/-- The daemon reads back what the agent writes; whatever the native host accepts decodes to a
result of the stated kind that the agent would write in the same fields; and what the agent writes
for a result without blank texts is accepted. -/
theorem result_codecs_agree (agent : LocalAccountAgent) (requestId : RequestId)
    (presentationId : PresentationId) :
    (∀ r, requestResultFromParams (agent.resolveParams requestId presentationId r) = .ok r) ∧
    (∀ input accepted, validateRequestResolveParams input = .ok accepted →
      ∃ r, requestResultFromParams accepted.params = .ok r ∧ r.resultKind = input.resultKind ∧
        agent.resolveParams input.requestId input.presentationId r =
          { input with walletInstanceId := agent.walletInstanceId }) ∧
    ∀ r, (∀ text ∈ resultTexts r, Text.isBlank text = false) →
      validateRequestResolveParams (agent.resolveParams requestId presentationId r) =
        .ok ⟨daemonProtocolVersion, agent.resolveParams requestId presentationId r⟩ := by
  refine ⟨requestResultFromParams_resolveParams requestId presentationId, ?_, fun r h => ?_⟩
  · intro input accepted h
    obtain ⟨u, hcheck, haccepted⟩ := bind_eq_ok h
    obtain rfl := Except.ok.inj haccepted
    obtain ⟨r, hr⟩ := resolveParams_of_checkResolveFields agent hcheck
    -- the wallet is no part of the result, so the decoder does not look at it
    have hread : requestResultFromParams input =
        requestResultFromParams { input with walletInstanceId := agent.walletInstanceId } := rfl
    refine ⟨r, ?_, ?_, hr⟩
    · rw [hread, ← hr, requestResultFromParams_resolveParams]
    · rw [← resultKind_of_resolveParams agent input.requestId input.presentationId r, hr]
  · unfold validateRequestResolveParams
    rw [checkResolveFields_resolveParams requestId presentationId h]
    rfl

open Sample in
theorem result_codecs_agree_exported : ∃ requestId presentationId r,
    validateRequestResolveParams (agent.resolveParams requestId presentationId
      (.exportedAccount "0x1" "/tmp/key")) = .ok ⟨2, agent.resolveParams requestId presentationId
      (.exportedAccount "0x1" "/tmp/key")⟩ ∧
    requestResultFromParams (agent.resolveParams requestId presentationId
      (.exportedAccount "0x1" "/tmp/key")) = .ok r ∧ r.resultKind = .exportedAccount := by
  let requestId : RequestId := ⟨"request-1", by decide⟩
  let presentationId : PresentationId := ⟨"presentation-1", by decide⟩
  obtain ⟨-, hread, hwritten⟩ := result_codecs_agree agent requestId presentationId
  have haccepted := hwritten (.exportedAccount "0x1" "/tmp/key") (by decide)
  obtain ⟨r, hr, hkind, -⟩ := hread _ _ haccepted
  exact ⟨requestId, presentationId, r, haccepted, hr, hkind⟩

end StarcoinMcp.NativeHost
