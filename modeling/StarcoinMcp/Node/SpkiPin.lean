import StarcoinMcp.Lib.Base64
import StarcoinMcp.Lib.Hex

/-! The pins of the node's TLS configuration. A pin is the SHA-256 digest of a public
key, written in hexadecimal or in base64; one function reads both, after it has taken
off what may stand before the digest. -/

namespace StarcoinMcp.Node

structure SpkiPin where
  bytes : List UInt8
  length : bytes.length = 32
deriving DecidableEq, Repr

def SpkiPin.ofBytes (bytes : List UInt8) : Option SpkiPin :=
  if h : bytes.length = 32 then some ⟨bytes, h⟩ else none

/-- What is left of the text of a pin once the white space, `sha256/` and `0x` are gone. -/
def normalizedPin (pin : String) : List Char :=
  let trimmed := (Text.trim pin).toList
  Text.trimStartHexMarker ((Text.stripPrefix "sha256/".toList trimmed).getD trimmed)

/-- The 32 bytes of a text in hexadecimal. -/
def hexPin (text : List UInt8) : Option SpkiPin := (Hex.decode text).toOption.bind SpkiPin.ofBytes

def base64Pin (text : List UInt8) : Option SpkiPin := (Base64.decode text).bind SpkiPin.ofBytes

def parseSpkiPin (pin : String) : Except String SpkiPin :=
  let text := (normalizedPin pin).flatMap String.utf8EncodeChar
  match hexPin text with
  | some digest => .ok digest
  | none =>
    match Base64.decode text with
    | none => .error ("invalid tls_pinned_spki_sha256 value: " ++ pin)
    | some bytes =>
      match SpkiPin.ofBytes bytes with
      | some digest => .ok digest
      | none => .error "tls_pinned_spki_sha256 entries must decode to 32 bytes"

def parseSpkiPins (pins : List String) : Except String (List SpkiPin) := pins.mapM parseSpkiPin

/-! ## Two alphabets -/

theorem ofBytes_eq_some {bytes : List UInt8} {digest : SpkiPin} :
    SpkiPin.ofBytes bytes = some digest ↔ bytes = digest.bytes := by
  unfold SpkiPin.ofBytes
  constructor
  · intro h
    split_ifs at h
    cases h
    rfl
  · rintro rfl
    rw [dif_pos digest.length]

theorem length_of_hexPin {text : List UInt8} {digest : SpkiPin} (h : hexPin text = some digest) :
    text.length = 64 := by
  obtain ⟨bytes, hbytes, hpin⟩ := Option.bind_eq_some_iff.mp h
  obtain rfl := ofBytes_eq_some.mp hpin
  cases hdecode : Hex.decode text with
  | error e =>
    rw [hdecode] at hbytes
    cases hbytes
  | ok bytes =>
    rw [hdecode] at hbytes
    cases hbytes
    have hlength := Hex.length_of_decode hdecode
    rw [digest.length] at hlength
    exact hlength

theorem length_of_base64Pin {text : List UInt8} {digest : SpkiPin}
    (h : base64Pin text = some digest) : text.length = 44 := by
  obtain ⟨bytes, hbytes, hpin⟩ := Option.bind_eq_some_iff.mp h
  obtain rfl := ofBytes_eq_some.mp hpin
  have hlength := Base64.length_of_decode hbytes
  rw [digest.length] at hlength
  exact hlength

/-- The pin is read as hexadecimal if it can be, else as base64. -/
theorem parseSpkiPin_eq_ok {pin : String} {digest : SpkiPin} :
    parseSpkiPin pin = .ok digest ↔
      hexPin ((normalizedPin pin).flatMap String.utf8EncodeChar) = some digest ∨
      base64Pin ((normalizedPin pin).flatMap String.utf8EncodeChar) = some digest := by
  unfold parseSpkiPin
  generalize (normalizedPin pin).flatMap String.utf8EncodeChar = text
  dsimp only
  cases hhex : hexPin text with
  | some read =>
    have hnone : base64Pin text ≠ some digest := by
      intro hbase
      have h₁ := length_of_hexPin hhex
      have h₂ := length_of_base64Pin hbase
      omega
    constructor
    · intro h
      exact .inl (congrArg some (Except.ok.inj h))
    · rintro (h | h)
      · exact congrArg Except.ok (Option.some.inj h)
      · exact absurd h hnone
  | none =>
    unfold base64Pin
    cases Base64.decode text with
    | none => simp
    | some bytes =>
      dsimp only [Option.bind_some]
      cases SpkiPin.ofBytes bytes with
      | none => simp
      | some read => simp

/-! ## The ways to write a pin -/

/-- The digest in hexadecimal, in either case and with or without `0x`, or in base64. -/
inductive PinText (digest : SpkiPin) : List Char → Prop
  | hex {digits : List Char} (h : digits.map Char.toLower = Hex.encode digest.bytes) :
      PinText digest digits
  | markedHex {digits : List Char} (h : digits.map Char.toLower = Hex.encode digest.bytes) :
      PinText digest ('0' :: 'x' :: digits)
  | base64 : PinText digest (Base64.encode digest.bytes)

/-- The pin is one of these texts, perhaps behind `sha256/`, with white space around it. -/
def Denotes (pin : String) (digest : SpkiPin) : Prop :=
  ∃ before lead text after, pin.toList = before ++ (lead ++ text) ++ after ∧
    (∀ c ∈ before, Text.isWhitespace c = true) ∧ (∀ c ∈ after, Text.isWhitespace c = true) ∧
    (lead = [] ∨ lead = "sha256/".toList) ∧ PinText digest text

/-- The base64 text of the digest does not begin like a marker. -/
def Unmarked (digest : SpkiPin) : Prop :=
  ¬ ['0', 'x'] <+: Base64.encode digest.bytes ∧
    ¬ "sha256/".toList <+: Base64.encode digest.bytes

theorem ascii_of_mem_hex {digits : List Char} {bytes : List UInt8}
    (h : digits.map Char.toLower = Hex.encode bytes) {c : Char} (hc : c ∈ digits) :
    c.toLower ∈ "0123456789abcdef".toList := by
  have hmem : c.toLower ∈ Hex.encode bytes := h ▸ List.mem_map_of_mem hc
  obtain ⟨b, -, hb⟩ := List.mem_flatMap.mp hmem
  have hdigit : ∀ n : Fin 16, Nat.digitChar n ∈ "0123456789abcdef".toList := by decide
  have hlt := b.toNat_lt
  simp only [Hex.encodeByte, List.mem_cons, List.not_mem_nil, or_false] at hb
  rcases hb with hb | hb
  · rw [hb]
    exact hdigit ⟨b.toNat / 16, by omega⟩
  · rw [hb]
    exact hdigit ⟨b.toNat % 16, by omega⟩

theorem plain_of_mem_hex {c : Char} (h : c.toLower ∈ "0123456789abcdef".toList) :
    Text.isWhitespace c = false ∧ c ≠ 'x' ∧ c ≠ 's' := by
  have hall : ∀ m : Fin 128, (Char.ofNat m).toLower ∈ "0123456789abcdef".toList →
      Text.isWhitespace (Char.ofNat m) = false ∧ Char.ofNat m ≠ 'x' ∧ Char.ofNat m ≠ 's' := by
    decide +kernel
  have hascii : ∀ d ∈ "0123456789abcdef".toList, d.toNat < 128 := by decide
  have hlt := Hex.toNat_lt_of_toLower rfl (hascii _ h)
  have hplain := hall ⟨c.toNat, hlt⟩
  simp only [Char.ofNat_toNat] at hplain
  exact hplain h

theorem plain_of_mem_base64 {c : Char} (h : c ∈ '=' :: Base64.alphabet) :
    Text.isWhitespace c = false ∧ (String.utf8EncodeChar c).length = 1 := by
  have hall : ∀ c ∈ '=' :: Base64.alphabet,
      Text.isWhitespace c = false ∧ (String.utf8EncodeChar c).length = 1 := by decide +kernel
  exact hall c h

theorem PinText.not_whitespace {digest : SpkiPin} {text : List Char} (h : PinText digest text) :
    ∀ c ∈ text, Text.isWhitespace c = false := by
  intro c hc
  cases h with
  | hex h => exact (plain_of_mem_hex (ascii_of_mem_hex h hc)).1
  | markedHex h =>
    rcases List.mem_cons.mp hc with rfl | hc
    · decide
    · rcases List.mem_cons.mp hc with rfl | hc
      · decide
      · exact (plain_of_mem_hex (ascii_of_mem_hex h hc)).1
  | base64 => exact (plain_of_mem_base64 (Base64.mem_encode hc)).1

theorem PinText.ne_nil {digest : SpkiPin} {text : List Char} (h : PinText digest text) : text ≠ [] := by
  have hlength := digest.length
  cases h with
  | hex h =>
    rintro rfl
    have hempty : digest.bytes = [] := Hex.encode_injective h.symm
    rw [hempty] at hlength
    cases hlength
  | markedHex h => exact List.cons_ne_nil _ _
  | base64 =>
    intro hempty
    have htext := congrArg List.length hempty
    rw [Base64.length_encode, hlength] at htext
    cases htext

/-- What is left of a pin: the text, less a marker that it begins with. -/
theorem normalizedPin_eq {pin : String} {before lead text after : List Char} {digest : SpkiPin}
    (hpin : pin.toList = before ++ (lead ++ text) ++ after)
    (hbefore : ∀ c ∈ before, Text.isWhitespace c = true)
    (hafter : ∀ c ∈ after, Text.isWhitespace c = true)
    (hlead : lead = [] ∨ lead = "sha256/".toList) (htext : PinText digest text)
    (hunder : ¬ "sha256/".toList <+: text) : normalizedPin pin = Text.trimStartHexMarker text := by
  have hplain : ∀ c ∈ lead ++ text, Text.isWhitespace c = false := by
    intro c hc
    rcases List.mem_append.mp hc with hc | hc
    · rcases hlead with rfl | rfl
      · cases hc
      · have hall : ∀ c ∈ "sha256/".toList, Text.isWhitespace c = false := by decide
        exact hall c hc
    · exact htext.not_whitespace c hc
  have htrim := Text.toList_trim hpin hbefore hafter hplain
    (List.append_ne_nil_of_right_ne_nil lead htext.ne_nil)
  have hstrip : (Text.stripPrefix "sha256/".toList (lead ++ text)).getD (lead ++ text) = text := by
    unfold Text.stripPrefix
    rcases hlead with rfl | rfl
    · rw [List.nil_append, if_neg (by simpa using hunder)]
      rfl
    · rw [if_pos (by simp), List.drop_left]
      rfl
  unfold normalizedPin
  dsimp only
  rw [htrim, hstrip]

theorem hexPin_of_toLower {digest : SpkiPin} {digits : List Char}
    (h : digits.map Char.toLower = Hex.encode digest.bytes) :
    hexPin (digits.flatMap String.utf8EncodeChar) = some digest := by
  unfold hexPin
  rw [Hex.decode_of_toLower h]
  exact ofBytes_eq_some.mpr rfl

theorem base64Pin_encode (digest : SpkiPin) :
    base64Pin ((Base64.encode digest.bytes).flatMap String.utf8EncodeChar) = some digest := by
  unfold base64Pin
  rw [Base64.decode_encode]
  exact ofBytes_eq_some.mpr rfl

theorem hex_not_under {digits lead : List Char} {bytes : List UInt8}
    (h : digits.map Char.toLower = Hex.encode bytes) {c : Char} (hc : c ∈ lead)
    (hbad : c = 'x' ∨ c = 's') : ¬ lead <+: digits := by
  intro hle
  have hplain := plain_of_mem_hex (ascii_of_mem_hex h (hle.subset hc))
  rcases hbad with rfl | rfl
  · exact hplain.2.1 rfl
  · exact hplain.2.2 rfl

theorem parseSpkiPin_of_denotes {pin : String} {digest : SpkiPin} (h : Denotes pin digest)
    (hmark : Unmarked digest) : parseSpkiPin pin = .ok digest := by
  obtain ⟨before, lead, text, after, hpin, hbefore, hafter, hlead, htext⟩ := h
  rw [parseSpkiPin_eq_ok]
  cases htext with
  | hex h =>
    left
    rw [normalizedPin_eq hpin hbefore hafter hlead (.hex h)
      (hex_not_under h (by decide : 's' ∈ "sha256/".toList) (.inr rfl)),
      Text.trimStartHexMarker_of_not (hex_not_under h (by decide : 'x' ∈ ['0', 'x']) (.inl rfl))]
    exact hexPin_of_toLower h
  | @markedHex digits h =>
    left
    have hmarker : Text.trimStartHexMarker ('0' :: 'x' :: digits) = Text.trimStartHexMarker digits := rfl
    rw [normalizedPin_eq hpin hbefore hafter hlead (.markedHex h) (by simp), hmarker,
      Text.trimStartHexMarker_of_not (hex_not_under h (by decide : 'x' ∈ ['0', 'x']) (.inl rfl))]
    exact hexPin_of_toLower h
  | base64 =>
    right
    rw [normalizedPin_eq hpin hbefore hafter hlead .base64 hmark.2,
      Text.trimStartHexMarker_of_not hmark.1]
    exact base64Pin_encode digest

/-! ## Which digests can be written -/

theorem length_utf8_base64 {text : List Char} (h : ∀ c ∈ text, c ∈ '=' :: Base64.alphabet) :
    (text.flatMap String.utf8EncodeChar).length = text.length := by
  induction text with
  | nil => rfl
  | cons c text ih =>
    have hc := (plain_of_mem_base64 (h c (List.mem_cons_self ..))).2
    rw [List.flatMap_cons, List.length_append, hc, ih fun d hd => h d (List.mem_cons_of_mem _ hd),
      List.length_cons, Nat.add_comm]

/-- A text that lost some of its characters is none of a digest. -/
theorem not_ok_of_shorter {pin : String} {digest digest' : SpkiPin}
    (hle : normalizedPin pin <:+ Base64.encode digest.bytes)
    (hlt : (normalizedPin pin).length < 44) : parseSpkiPin pin ≠ .ok digest' := by
  have hlength : ((normalizedPin pin).flatMap String.utf8EncodeChar).length < 44 := by
    rwa [length_utf8_base64 fun c hc => Base64.mem_encode (hle.subset hc)]
  rw [Ne, parseSpkiPin_eq_ok]
  rintro (h | h)
  · have := length_of_hexPin h
    omega
  · have := length_of_base64Pin h
    omega

theorem unmarked_of_accepted {digest : SpkiPin}
    (h : parseSpkiPin (String.ofList (Base64.encode digest.bytes)) = .ok digest) : Unmarked digest := by
  have htext : ∀ c ∈ Base64.encode digest.bytes, Text.isWhitespace c = false :=
    PinText.base64.not_whitespace
  have hlength : (Base64.encode digest.bytes).length = 44 := by
    rw [Base64.length_encode, digest.length]
  have htrim : (Text.trim (String.ofList (Base64.encode digest.bytes))).toList =
      Base64.encode digest.bytes := by
    have hne : Base64.encode digest.bytes ≠ [] := PinText.base64.ne_nil
    have hlist : (String.ofList (Base64.encode digest.bytes)).toList =
        [] ++ Base64.encode digest.bytes ++ [] := by simp
    refine Text.toList_trim hlist ?_ ?_ htext hne
    · exact fun c hc => nomatch hc
    · exact fun c hc => nomatch hc
  by_contra hmark
  -- either marker shortens the text
  obtain ⟨rest, hsuffix, hrest, hnormal⟩ : ∃ rest, rest <:+ Base64.encode digest.bytes ∧
      (Text.trimStartHexMarker rest).length < 44 ∧
      normalizedPin (String.ofList (Base64.encode digest.bytes)) = Text.trimStartHexMarker rest := by
    unfold normalizedPin
    dsimp only
    rw [htrim]
    unfold Text.stripPrefix
    by_cases hsha : "sha256/".toList <+: Base64.encode digest.bytes
    · refine ⟨(Base64.encode digest.bytes).drop "sha256/".toList.length, List.drop_suffix _ _, ?_, ?_⟩
      · have hle := (Text.trimStartHexMarker_suffix
          ((Base64.encode digest.bytes).drop "sha256/".toList.length)).length_le
        have hseven : "sha256/".toList.length = 7 := by decide
        rw [List.length_drop, hlength] at hle
        omega
      · rw [if_pos (List.isPrefixOf_iff_prefix.mpr hsha)]
        rfl
    · have hzero : ['0', 'x'] <+: Base64.encode digest.bytes := by
        by_contra hzero
        exact hmark ⟨hzero, hsha⟩
      refine ⟨Base64.encode digest.bytes, List.suffix_refl _, ?_, ?_⟩
      · obtain ⟨tail, htail⟩ := hzero
        have hle := (Text.trimStartHexMarker_suffix tail).length_le
        have htrimmed : Text.trimStartHexMarker (Base64.encode digest.bytes) =
            Text.trimStartHexMarker tail := by
          rw [← htail]
          rfl
        rw [htrimmed]
        rw [← htail] at hlength
        simp only [List.length_append, List.length_cons, List.length_nil] at hlength
        omega
      · rw [if_neg (by simpa using hsha)]
        rfl
  have hle : normalizedPin (String.ofList (Base64.encode digest.bytes)) <:+ Base64.encode digest.bytes := by
    rw [hnormal]
    exact (Text.trimStartHexMarker_suffix rest).trans hsuffix
  exact not_ok_of_shorter hle (by rwa [hnormal]) h

/-- Every way of writing a digest is read as that digest exactly when its base64 text begins with
none of the markers; and no pin is read in more than one way. -/
theorem pins_read_iff_unmarked (digest : SpkiPin) :
    ((∀ pin, Denotes pin digest → parseSpkiPin pin = .ok digest) ↔ Unmarked digest) ∧
      ∀ pin, parseSpkiPin pin = .ok digest →
        ((hexPin ((normalizedPin pin).flatMap String.utf8EncodeChar) = some digest ∧
            base64Pin ((normalizedPin pin).flatMap String.utf8EncodeChar) = none) ∨
          (hexPin ((normalizedPin pin).flatMap String.utf8EncodeChar) = none ∧
            base64Pin ((normalizedPin pin).flatMap String.utf8EncodeChar) = some digest)) := by
  refine ⟨?_, ?_⟩
  · constructor
    · intro h
      refine unmarked_of_accepted (h _ ⟨[], [], Base64.encode digest.bytes, [], ?_, ?_, ?_, .inl rfl,
        .base64⟩)
      · simp
      · exact fun c hc => nomatch hc
      · exact fun c hc => nomatch hc
    · intro hmark pin hpin
      exact parseSpkiPin_of_denotes hpin hmark
  · intro pin h
    generalize htext : (normalizedPin pin).flatMap String.utf8EncodeChar = text
    rw [parseSpkiPin_eq_ok, htext] at h
    rcases h with h | h
    · refine .inl ⟨h, Option.eq_none_iff_forall_ne_some.mpr ?_⟩
      intro other hother
      have h₁ := length_of_hexPin h
      have h₂ := length_of_base64Pin hother
      omega
    · refine .inr ⟨Option.eq_none_iff_forall_ne_some.mpr ?_, h⟩
      intro other hother
      have h₁ := length_of_hexPin hother
      have h₂ := length_of_base64Pin h
      omega

/-- A digest whose base64 text begins with `0x`. -/
def Sample.markedDigest : SpkiPin := ⟨0xd3 :: 0x10 :: List.replicate 30 0, by decide⟩

theorem marked_digest_is_refused :
    Denotes (String.ofList (Base64.encode Sample.markedDigest.bytes)) Sample.markedDigest ∧
      parseSpkiPin (String.ofList (Base64.encode Sample.markedDigest.bytes)) ≠
        .ok Sample.markedDigest := by
  refine ⟨⟨[], [], Base64.encode Sample.markedDigest.bytes, [], ?_, ?_, ?_, .inl rfl, .base64⟩, ?_⟩
  · simp
  · exact fun c hc => nomatch hc
  · exact fun c hc => nomatch hc
  · decide +kernel

end StarcoinMcp.Node
