import StarcoinMcp.Lib.FailState
import StarcoinMcp.Lib.Text

/-! Bytes in hexadecimal, as the crate `hex` 0.4.3 reads and writes them: either case is
read, and lower case is written. A text is its list of characters. -/

namespace StarcoinMcp.Hex

inductive Error
  | invalidHexCharacter (c : UInt8) (index : Nat)
  | oddLength
deriving DecidableEq, Repr

/-- `{:?}` of a byte taken as a character. -/
def debugByte (c : UInt8) : String :=
  if c = 0 then "'\\0'"
  else if c = 9 then "'\\t'"
  else if c = 10 then "'\\n'"
  else if c = 13 then "'\\r'"
  else if c = 39 then "'\\''"
  else if c = 92 then "'\\\\'"
  else if c < 32 || (127 ≤ c && c < 160) || c = 173 then
    "'\\u\x7b" ++ String.ofList (Nat.toDigits 16 c.toNat) ++ "\x7d'"
  else "'" ++ (Char.ofNat c.toNat).toString ++ "'"

def Error.text : Error → String
  | .invalidHexCharacter c index =>
    "Invalid character " ++ debugByte c ++ " at position " ++ toString index
  | .oddLength => "Odd number of digits"

def nibble (c : UInt8) : Option UInt8 :=
  if 65 ≤ c && c ≤ 70 then some (c - 65 + 10)
  else if 97 ≤ c && c ≤ 102 then some (c - 97 + 10)
  else if 48 ≤ c && c ≤ 57 then some (c - 48)
  else none

def val (c : UInt8) (index : Nat) : Except Error UInt8 :=
  match nibble c with
  | some n => .ok n
  | none => .error (.invalidHexCharacter c index)

def decodePairs : Nat → List UInt8 → Except Error (List UInt8)
  | index, hi :: lo :: rest => do
    let high ← val hi index
    let low ← val lo (index + 1)
    let bytes ← decodePairs (index + 2) rest
    pure ((high <<< 4 ||| low) :: bytes)
  | _, _ => .ok []

def decode (digits : List UInt8) : Except Error (List UInt8) :=
  if digits.length % 2 ≠ 0 then .error .oddLength else decodePairs 0 digits

def encodeByte (b : UInt8) : List Char :=
  [Nat.digitChar (b.toNat / 16), Nat.digitChar (b.toNat % 16)]

def encode (bytes : List UInt8) : List Char := bytes.flatMap encodeByte

/-! ## Encoding and decoding again -/

/-- The two digits of a byte, as bytes of the text. -/
def digits (b : UInt8) : List UInt8 := (encodeByte b).flatMap String.utf8EncodeChar

theorem digits_eq : ∀ n : Fin 256, ∃ hi lo high low, digits (UInt8.ofNat n) = [hi, lo] ∧
    nibble hi = some high ∧ nibble lo = some low ∧ high <<< 4 ||| low = UInt8.ofNat n := by
  intro n
  refine ⟨(Nat.digitChar (n / 16)).toNat.toUInt8, (Nat.digitChar (n % 16)).toNat.toUInt8,
    (n / 16).val.toUInt8, (n % 16).val.toUInt8, ?_⟩
  revert n
  decide +kernel

theorem exists_digits (b : UInt8) : ∃ hi lo high low, digits b = [hi, lo] ∧
    nibble hi = some high ∧ nibble lo = some low ∧ high <<< 4 ||| low = b := by
  have h := digits_eq ⟨b.toNat, b.toNat_lt⟩
  rwa [show UInt8.ofNat b.toNat = b from UInt8.ofNat_toNat] at h

theorem utf8_encode (bytes : List UInt8) :
    (encode bytes).flatMap String.utf8EncodeChar = bytes.flatMap digits := by
  unfold encode
  rw [List.flatMap_assoc]
  rfl

theorem decodePairs_digits : ∀ (bytes : List UInt8) (index : Nat),
    decodePairs index (bytes.flatMap digits) = .ok bytes
  | [], _ => rfl
  | b :: bytes, index => by
    obtain ⟨hi, lo, high, low, hdigits, hhi, hlo, hb⟩ := exists_digits b
    have ih := decodePairs_digits bytes (index + 2)
    rw [List.flatMap_cons, hdigits]
    show decodePairs index (hi :: lo :: bytes.flatMap digits) = _
    simp only [decodePairs, val, hhi, hlo, ih]
    rw [← hb]
    rfl

theorem length_digits (bytes : List UInt8) : (bytes.flatMap digits).length = 2 * bytes.length := by
  induction bytes with
  | nil => rfl
  | cons b bytes ih =>
    obtain ⟨hi, lo, -, -, hdigits, -⟩ := exists_digits b
    rw [List.flatMap_cons, List.length_append, ih, hdigits, List.length_cons, List.length_cons,
      List.length_cons, List.length_nil]
    omega

theorem decode_encode (bytes : List UInt8) :
    decode ((encode bytes).flatMap String.utf8EncodeChar) = .ok bytes := by
  have heven : ¬ (bytes.flatMap digits).length % 2 ≠ 0 := by
    rw [length_digits]
    omega
  rw [utf8_encode]
  unfold decode
  rw [if_neg heven, decodePairs_digits]

/-- Different bytes have different texts. -/
theorem encode_injective : Function.Injective encode := by
  intro a b h
  have ha := decode_encode a
  rw [h, decode_encode b] at ha
  exact (Except.ok.inj ha).symm

theorem length_of_decodePairs : ∀ {index : ℕ} {digits bytes : List UInt8}, digits.length % 2 = 0 →
    decodePairs index digits = .ok bytes → digits.length = 2 * bytes.length
  | _, [], _, _, h => by
    cases h
    rfl
  | _, [_], _, heven, _ => by simp at heven
  | index, hi :: lo :: rest, bytes, heven, h => by
    unfold decodePairs at h
    obtain ⟨high, -, h⟩ := bind_eq_ok h
    obtain ⟨low, -, h⟩ := bind_eq_ok h
    obtain ⟨tail, htail, h⟩ := bind_eq_ok h
    cases h
    have hrest : rest.length % 2 = 0 := by
      simp only [List.length_cons] at heven
      omega
    have ih := length_of_decodePairs hrest htail
    simp only [List.length_cons]
    omega

theorem length_of_decode {digits bytes : List UInt8} (h : decode digits = .ok bytes) :
    digits.length = 2 * bytes.length := by
  unfold decode at h
  split_ifs at h with hodd
  exact length_of_decodePairs (not_not.mp hodd) h

/-! ## Either case -/

theorem ascii_digit : ∀ (m : Fin 128) (n : Fin 16), (Char.ofNat m).toLower = Nat.digitChar n →
    String.utf8EncodeChar (Char.ofNat m) = [m.val.toUInt8] ∧
      nibble m.val.toUInt8 = some n.val.toUInt8 := by decide +kernel

theorem toNat_lt_of_toLower {c d : Char} (h : c.toLower = d) (hd : d.toNat < 128) : c.toNat < 128 := by
  by_cases hupper : c.val ≥ 'A'.val ∧ c.val ≤ 'Z'.val
  · have hle : c.val.toNat ≤ 90 := UInt32.le_iff_toNat_le.mp hupper.2
    show c.val.toNat < 128
    omega
  · have hself : c.toLower = c := dif_neg hupper
    rw [hself] at h
    rwa [h]

/-- A digit in either case, as a byte of the text. -/
theorem exists_nibble {c : Char} {n : ℕ} (hn : n < 16) (h : c.toLower = Nat.digitChar n) :
    ∃ byte, String.utf8EncodeChar c = [byte] ∧ nibble byte = some n.toUInt8 := by
  have hascii : ∀ n : Fin 16, (Nat.digitChar n).toNat < 128 := by decide
  have hlt := toNat_lt_of_toLower h (hascii ⟨n, hn⟩)
  have hspec := ascii_digit ⟨c.toNat, hlt⟩ ⟨n, hn⟩
  simp only [Char.ofNat_toNat] at hspec
  exact ⟨_, hspec h⟩

theorem nibbles_eq : ∀ n : Fin 256,
    (n / 16).val.toUInt8 <<< 4 ||| (n % 16).val.toUInt8 = UInt8.ofNat n := by decide +kernel

theorem decodePairs_of_toLower : ∀ {bytes : List UInt8} {text : List Char} {index : ℕ},
    text.map Char.toLower = encode bytes →
    decodePairs index (text.flatMap String.utf8EncodeChar) = .ok bytes ∧
      (text.flatMap String.utf8EncodeChar).length = 2 * bytes.length
  | [], text, index, h => by
    rw [List.map_eq_nil_iff.mp h]
    exact ⟨rfl, rfl⟩
  | b :: bytes, text, index, h => by
    obtain ⟨hi, lo, text, rfl, hhi, hlo, hrest⟩ : ∃ hi lo rest, text = hi :: lo :: rest ∧
        hi.toLower = Nat.digitChar (b.toNat / 16) ∧ lo.toLower = Nat.digitChar (b.toNat % 16) ∧
        rest.map Char.toLower = encode bytes := by
      match text, h with
      | [], h => cases h
      | [_], h => simp [encode, encodeByte] at h
      | hi :: lo :: rest, h =>
        simp only [List.map_cons, encode, List.flatMap_cons, encodeByte, List.cons_append,
          List.nil_append, List.cons.injEq] at h
        exact ⟨hi, lo, rest, rfl, h⟩
    have hb := b.toNat_lt
    obtain ⟨hiByte, hhiText, hhigh⟩ := exists_nibble (by omega : b.toNat / 16 < 16) hhi
    obtain ⟨loByte, hloText, hlow⟩ := exists_nibble (by omega : b.toNat % 16 < 16) hlo
    obtain ⟨hdecoded, hlength⟩ : decodePairs (index + 2) (text.flatMap String.utf8EncodeChar) =
        .ok bytes ∧ _ := decodePairs_of_toLower hrest
    have hbyte : (b.toNat / 16).toUInt8 <<< 4 ||| (b.toNat % 16).toUInt8 = b := by
      have h := nibbles_eq ⟨b.toNat, hb⟩
      rwa [show UInt8.ofNat b.toNat = b from UInt8.ofNat_toNat] at h
    rw [List.flatMap_cons, List.flatMap_cons, hhiText, hloText]
    constructor
    · show decodePairs index (hiByte :: loByte :: text.flatMap String.utf8EncodeChar) = _
      simp only [decodePairs, val, hhigh, hlow, hdecoded]
      show Except.ok (_ :: bytes) = _
      rw [hbyte]
    · simp only [List.cons_append, List.nil_append, List.length_cons, hlength]
      omega

theorem decode_of_toLower {bytes : List UInt8} {text : List Char}
    (h : text.map Char.toLower = encode bytes) :
    decode (text.flatMap String.utf8EncodeChar) = .ok bytes := by
  obtain ⟨hok, hlength⟩ : decodePairs 0 (text.flatMap String.utf8EncodeChar) = .ok bytes ∧ _ :=
    decodePairs_of_toLower h
  unfold decode
  rw [if_neg (by omega), hok]

end StarcoinMcp.Hex
