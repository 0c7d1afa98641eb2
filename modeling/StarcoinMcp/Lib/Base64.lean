import Mathlib.Data.List.Basic
import Mathlib.Tactic.Common

/-! Bytes in base64, with the standard alphabet, as the crate `base64` 0.22.1 reads and
writes them. Decoding is strict: the text is cut into groups of four, only the last group
may be padded, and the bits that its padding leaves over are zero. -/

namespace StarcoinMcp.Base64

def alphabet : List Char :=
  "ABCDEFGHIJKLMNOPQRSTUVWXYZabcdefghijklmnopqrstuvwxyz0123456789+/".toList

def symbol (n : ℕ) : Char := alphabet.getD n '='

def pad : UInt8 := 61

def encode : List UInt8 → List Char
  | a :: b :: c :: rest =>
    symbol (a.toNat / 4) :: symbol (a.toNat % 4 * 16 + b.toNat / 16) ::
      symbol (b.toNat % 16 * 4 + c.toNat / 64) :: symbol (c.toNat % 64) :: encode rest
  | [a, b] =>
    [symbol (a.toNat / 4), symbol (a.toNat % 4 * 16 + b.toNat / 16), symbol (b.toNat % 16 * 4), '=']
  | [a] => [symbol (a.toNat / 4), symbol (a.toNat % 4 * 16), '=', '=']
  | [] => []

def value (c : UInt8) : Option ℕ := alphabet.findIdx? fun s => s.toNat == c.toNat

/-- A group of four symbols. -/
def decodeGroup (a b c d : UInt8) : Option (List UInt8) := do
  let a ← value a
  let b ← value b
  let c ← value c
  let d ← value d
  pure [UInt8.ofNat (a * 4 + b / 16), UInt8.ofNat (b % 16 * 16 + c / 4), UInt8.ofNat (c % 4 * 64 + d)]

/-- The last group, when it ends with a pad: two symbols or three. -/
def decodePadded (a b c : UInt8) : Option (List UInt8) := do
  let a ← value a
  let b ← value b
  if c = pad then
    if b % 16 = 0 then some [UInt8.ofNat (a * 4 + b / 16)] else none
  else do
    let c ← value c
    if c % 4 = 0 then some [UInt8.ofNat (a * 4 + b / 16), UInt8.ofNat (b % 16 * 16 + c / 4)] else none

def decode : List UInt8 → Option (List UInt8)
  | [] => some []
  | a :: b :: c :: d :: rest =>
    if rest.isEmpty && d == pad then decodePadded a b c
    else do
      let group ← decodeGroup a b c d
      let bytes ← decode rest
      pure (group ++ bytes)
  | _ => none

/-! ## Symbols -/

/-- A symbol is one byte of text and has its own value. -/
theorem symbol_spec : ∀ n : Fin 64, ∃ byte, String.utf8EncodeChar (symbol n) = [byte] ∧
    value byte = some n ∧ byte ≠ pad := by
  intro n
  refine ⟨(symbol n).toNat.toUInt8, ?_⟩
  revert n
  decide +kernel

theorem exists_byte {n : ℕ} (h : n < 64) : ∃ byte, String.utf8EncodeChar (symbol n) = [byte] ∧
    value byte = some n ∧ byte ≠ pad := symbol_spec ⟨n, h⟩

theorem utf8_pad : String.utf8EncodeChar '=' = [pad] := by decide

theorem symbol_mem (n : ℕ) : symbol n ∈ '=' :: alphabet := by
  unfold symbol
  rw [List.getD_eq_getElem?_getD]
  cases h : alphabet[n]? with
  | none => exact List.mem_cons_self ..
  | some c => exact List.mem_cons_of_mem _ (List.mem_of_getElem? h)

theorem mem_encode : ∀ {bytes : List UInt8} {c : Char}, c ∈ encode bytes → c ∈ '=' :: alphabet
  | [], _, h => nomatch h
  | [_], _, h => by
    simp only [encode, List.mem_cons, List.not_mem_nil, or_false] at h
    rcases h with rfl | rfl | rfl | rfl
    · exact symbol_mem _
    · exact symbol_mem _
    · exact List.mem_cons_self ..
    · exact List.mem_cons_self ..
  | [_, _], _, h => by
    simp only [encode, List.mem_cons, List.not_mem_nil, or_false] at h
    rcases h with rfl | rfl | rfl | rfl
    · exact symbol_mem _
    · exact symbol_mem _
    · exact symbol_mem _
    · exact List.mem_cons_self ..
  | _ :: _ :: _ :: rest, c, h => by
    simp only [encode, List.mem_cons] at h
    rcases h with rfl | rfl | rfl | rfl | h
    · exact symbol_mem _
    · exact symbol_mem _
    · exact symbol_mem _
    · exact symbol_mem _
    · exact mem_encode h

/-! ## Encoding and decoding again -/

theorem decodeGroup_encode {a b c : UInt8} {s t u v : UInt8}
    (hs : value s = some (a.toNat / 4)) (ht : value t = some (a.toNat % 4 * 16 + b.toNat / 16))
    (hu : value u = some (b.toNat % 16 * 4 + c.toNat / 64)) (hv : value v = some (c.toNat % 64)) :
    decodeGroup s t u v = some [a, b, c] := by
  have ha := a.toNat_lt
  have hb := b.toNat_lt
  have hc := c.toNat_lt
  have h₁ : a.toNat / 4 * 4 + (a.toNat % 4 * 16 + b.toNat / 16) / 16 = a.toNat := by omega
  have h₂ : (a.toNat % 4 * 16 + b.toNat / 16) % 16 * 16 + (b.toNat % 16 * 4 + c.toNat / 64) / 4 =
      b.toNat := by omega
  have h₃ : (b.toNat % 16 * 4 + c.toNat / 64) % 4 * 64 + c.toNat % 64 = c.toNat := by omega
  unfold decodeGroup
  rw [hs, ht, hu, hv]
  simp only [Option.bind_eq_bind, Option.bind_some, h₁, h₂, h₃, UInt8.ofNat_toNat]
  rfl

theorem decodePadded_encode_one {a : UInt8} {s t : UInt8} (hs : value s = some (a.toNat / 4))
    (ht : value t = some (a.toNat % 4 * 16)) : decodePadded s t pad = some [a] := by
  have ha := a.toNat_lt
  have h₁ : a.toNat / 4 * 4 + a.toNat % 4 * 16 / 16 = a.toNat := by omega
  have h₂ : a.toNat % 4 * 16 % 16 = 0 := by omega
  unfold decodePadded
  rw [hs, ht]
  simp only [Option.bind_eq_bind, Option.bind_some, if_true, h₁, h₂, UInt8.ofNat_toNat]

theorem decodePadded_encode_two {a b : UInt8} {s t u : UInt8} (hs : value s = some (a.toNat / 4))
    (ht : value t = some (a.toNat % 4 * 16 + b.toNat / 16)) (hu : value u = some (b.toNat % 16 * 4))
    (hne : u ≠ pad) : decodePadded s t u = some [a, b] := by
  have ha := a.toNat_lt
  have hb := b.toNat_lt
  have h₁ : a.toNat / 4 * 4 + (a.toNat % 4 * 16 + b.toNat / 16) / 16 = a.toNat := by omega
  have h₂ : (a.toNat % 4 * 16 + b.toNat / 16) % 16 * 16 + b.toNat % 16 * 4 / 4 = b.toNat := by omega
  have h₃ : b.toNat % 16 * 4 % 4 = 0 := by omega
  unfold decodePadded
  rw [hs, ht, hu]
  simp only [Option.bind_eq_bind, Option.bind_some, if_neg hne, if_true, h₁, h₂, h₃,
    UInt8.ofNat_toNat]

theorem decode_encode : ∀ bytes : List UInt8,
    decode ((encode bytes).flatMap String.utf8EncodeChar) = some bytes
  | [] => rfl
  | [a] => by
    have ha := a.toNat_lt
    obtain ⟨s, hs, hvs, -⟩ := exists_byte (by omega : a.toNat / 4 < 64)
    obtain ⟨t, ht, hvt, -⟩ := exists_byte (by omega : a.toNat % 4 * 16 < 64)
    have htext : (encode [a]).flatMap String.utf8EncodeChar = [s, t, pad, pad] := by
      simp [encode, hs, ht, utf8_pad]
    rw [htext]
    exact decodePadded_encode_one hvs hvt
  | [a, b] => by
    have ha := a.toNat_lt
    have hb := b.toNat_lt
    obtain ⟨s, hs, hvs, -⟩ := exists_byte (by omega : a.toNat / 4 < 64)
    obtain ⟨t, ht, hvt, -⟩ := exists_byte (by omega : a.toNat % 4 * 16 + b.toNat / 16 < 64)
    obtain ⟨u, hu, hvu, hne⟩ := exists_byte (by omega : b.toNat % 16 * 4 < 64)
    have htext : (encode [a, b]).flatMap String.utf8EncodeChar = [s, t, u, pad] := by
      simp [encode, hs, ht, hu, utf8_pad]
    rw [htext]
    exact decodePadded_encode_two hvs hvt hvu hne
  | a :: b :: c :: rest => by
    have ha := a.toNat_lt
    have hb := b.toNat_lt
    have hc := c.toNat_lt
    obtain ⟨s, hs, hvs, -⟩ := exists_byte (by omega : a.toNat / 4 < 64)
    obtain ⟨t, ht, hvt, -⟩ := exists_byte (by omega : a.toNat % 4 * 16 + b.toNat / 16 < 64)
    obtain ⟨u, hu, hvu, -⟩ := exists_byte (by omega : b.toNat % 16 * 4 + c.toNat / 64 < 64)
    obtain ⟨v, hv, hvv, hne⟩ := exists_byte (by omega : c.toNat % 64 < 64)
    have hgroup := decodeGroup_encode hvs hvt hvu hvv
    have ih := decode_encode rest
    have htext : (encode (a :: b :: c :: rest)).flatMap String.utf8EncodeChar =
        s :: t :: u :: v :: (encode rest).flatMap String.utf8EncodeChar := by
      simp [encode, hs, ht, hu, hv]
    rw [htext]
    simp [decode, hne, hgroup, ih]

/-! ## Lengths -/

theorem length_encode : ∀ bytes : List UInt8, (encode bytes).length = 4 * ((bytes.length + 2) / 3)
  | [] => rfl
  | [_] => by simp [encode]
  | [_, _] => by simp [encode]
  | a :: b :: c :: rest => by
    have ih := length_encode rest
    simp only [encode, List.length_cons, ih]
    omega

theorem length_of_decodeGroup {a b c d : UInt8} {bytes : List UInt8}
    (h : decodeGroup a b c d = some bytes) : bytes.length = 3 := by
  simp only [decodeGroup, Option.bind_eq_bind, Option.bind_eq_some_iff] at h
  obtain ⟨_, _, _, _, _, _, _, _, h⟩ := h
  cases h
  rfl

theorem length_of_decodePadded {a b c : UInt8} {bytes : List UInt8}
    (h : decodePadded a b c = some bytes) : 0 < bytes.length ∧ bytes.length ≤ 2 := by
  simp only [decodePadded, Option.bind_eq_bind, Option.bind_eq_some_iff] at h
  obtain ⟨_, _, _, _, h⟩ := h
  by_cases hc : c = pad
  · rw [if_pos hc] at h
    split_ifs at h
    cases h
    simp
  · rw [if_neg hc] at h
    obtain ⟨_, _, h⟩ := Option.bind_eq_some_iff.mp h
    split_ifs at h
    cases h
    simp

theorem length_of_decode : ∀ {text bytes : List UInt8}, decode text = some bytes →
    text.length = 4 * ((bytes.length + 2) / 3)
  | [], bytes, h => by
    cases h
    rfl
  | a :: b :: c :: d :: rest, bytes, h => by
    unfold decode at h
    split_ifs at h with hlast
    · have hlen := length_of_decodePadded h
      have hrest : rest = [] := by simpa using (Bool.and_eq_true_iff.mp hlast).1
      simp only [hrest, List.length_cons, List.length_nil]
      omega
    · simp only [Option.bind_eq_bind, Option.bind_eq_some_iff] at h
      obtain ⟨group, hgroup, tail, htail, h⟩ := h
      cases h
      have hlen := length_of_decodeGroup hgroup
      have ih := length_of_decode htail
      simp only [List.length_cons, List.length_append, ih, hlen]
      omega
  | [_], bytes, h => by cases h
  | [_, _], bytes, h => by cases h
  | [_, _, _], bytes, h => by cases h

end StarcoinMcp.Base64
