import StarcoinMcp.Lib.JsonText
import StarcoinMcp.Starmask.Types

/-! The hash a request carries: SHA-256 over the `serde_json` text of its payload.
The text determines the payload, its variant included, so with a collision-free
digest two requests have the same hash only when they ask for the same thing. -/

namespace StarcoinMcp.Starmask

open JsonText

/-- `skip_serializing_if = "Option::is_none"`. -/
def optionalField (name : String) (value : Option String) (rest : Fields) : Fields :=
  match value with
  | none => rest
  | some text => .cons name (.str text) rest

def contextFields (displayHint clientContext : Option String) : Fields :=
  optionalField "display_hint" displayHint (optionalField "client_context" clientContext .nil)

def messageFormatName : MessageFormat → String
  | .utf8 => "utf8"
  | .hex => "hex"

/-- `#[serde(tag = "kind", content = "payload", rename_all = "snake_case")]`. -/
def tagged (kind : String) (payload : Fields) : Json :=
  .obj (.cons "kind" (.str kind) (.cons "payload" (.obj payload) .nil))

def payloadJson : RequestPayload → Json
  | .signTransaction p => tagged "sign_transaction"
      (.cons "chain_id" (.num p.chainId) (.cons "raw_txn_bcs_hex" (.str p.rawTxnBcsHex)
        (.cons "tx_kind" (.str p.txKind) (contextFields p.displayHint p.clientContext))))
  | .signMessage p => tagged "sign_message"
      (.cons "message" (.str p.message) (.cons "format" (.str (messageFormatName p.format))
        (contextFields p.displayHint p.clientContext)))
  | .createAccount p => tagged "create_account" (contextFields p.displayHint p.clientContext)
  | .exportAccount p => tagged "export_account"
      (.cons "output_file" (.str p.outputFile) (.cons "force" (.bool p.force)
        (contextFields p.displayHint p.clientContext)))
  | .importAccount p => tagged "import_account"
      (.cons "private_key_file" (.str p.privateKeyFile) (contextFields p.displayHint p.clientContext))

/-- `serde_json::to_vec(payload)`. -/
def encodePayload (payload : RequestPayload) : ByteArray :=
  (String.ofList (compact (payloadJson payload))).toUTF8

/-- `hex::encode(Sha256::digest(encoded))`. The digest is a parameter; its 64 hexadecimal digits
are never blank, so `PayloadHash::new` accepts them. -/
def calculatePayloadHash (sha256 : ByteArray → PayloadHash) (payload : RequestPayload) : PayloadHash :=
  sha256 (encodePayload payload)

theorem contextFields_inj {h h' c c' : Option String} (e : contextFields h c = contextFields h' c') :
    h = h' ∧ c = c' := by
  cases h <;> cases h' <;> cases c <;> cases c' <;>
    simp_all [contextFields, optionalField]

theorem tagged_inj {k k' : String} {f f' : Fields} (e : tagged k f = tagged k' f') :
    k = k' ∧ f = f' := by
  simpa [tagged] using e

theorem messageFormatName_injective : Function.Injective messageFormatName := by
  intro a b h
  cases a <;> cases b <;> first | rfl | exact absurd h (by decide)

theorem payloadJson_injective : Function.Injective payloadJson := by
  intro a b h
  cases a <;> cases b <;> obtain ⟨hk, hf⟩ := tagged_inj h <;>
    first | exact absurd hk (by decide) | skip
  case signTransaction.signTransaction p q =>
    simp only [Fields.cons.injEq, Json.num.injEq, Json.str.injEq, true_and] at hf
    obtain ⟨h₁, h₂, h₃, hc⟩ := hf
    obtain ⟨h₄, h₅⟩ := contextFields_inj hc
    cases p
    cases q
    simp_all
  case signMessage.signMessage p q =>
    simp only [Fields.cons.injEq, Json.str.injEq, true_and] at hf
    obtain ⟨h₁, h₂, hc⟩ := hf
    obtain ⟨h₃, h₄⟩ := contextFields_inj hc
    have h₂' := messageFormatName_injective h₂
    cases p
    cases q
    simp_all
  case createAccount.createAccount p q =>
    obtain ⟨h₁, h₂⟩ := contextFields_inj hf
    cases p
    cases q
    simp_all
  case exportAccount.exportAccount p q =>
    simp only [Fields.cons.injEq, Json.str.injEq, Json.bool.injEq, true_and] at hf
    obtain ⟨h₁, h₂, hc⟩ := hf
    obtain ⟨h₃, h₄⟩ := contextFields_inj hc
    cases p
    cases q
    simp_all
  case importAccount.importAccount p q =>
    simp only [Fields.cons.injEq, Json.str.injEq, true_and] at hf
    obtain ⟨h₁, hc⟩ := hf
    obtain ⟨h₂, h₃⟩ := contextFields_inj hc
    cases p
    cases q
    simp_all

theorem encodePayload_injective : Function.Injective encodePayload := by
  intro a b h
  have hs : String.ofList (compact (payloadJson a)) = String.ofList (compact (payloadJson b)) :=
    String.toByteArray_inj.mp h
  have hc := congrArg String.toList hs
  rw [String.toList_ofList, String.toList_ofList] at hc
  exact payloadJson_injective (compact_injective hc)

/-- The digest does not collide on serialized payloads. -/
def CollisionFree (sha256 : ByteArray → PayloadHash) : Prop :=
  ∀ p q : RequestPayload, sha256 (encodePayload p) = sha256 (encodePayload q) →
    encodePayload p = encodePayload q

theorem CollisionFree.payload_eq {sha256 : ByteArray → PayloadHash} (hsha : CollisionFree sha256)
    {p q : RequestPayload} (h : calculatePayloadHash sha256 p = calculatePayloadHash sha256 q) : p = q :=
  encodePayload_injective (hsha p q h)

end StarcoinMcp.Starmask
