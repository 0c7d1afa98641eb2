import Mathlib.Data.List.TakeWhile
import Mathlib.Data.Rat.Defs
import Mathlib.Tactic.FieldSimp
import Mathlib.Tactic.Ring
import StarcoinMcp.Host.Effects

/-! The amount of a transfer, from the text the user types to the number the node is
sent. The two readers of the result are `int` in the preflight and the `u128` parser of
the node; what the user wrote is a decimal number in the digits of any script. -/

namespace StarcoinMcp.Host

/-- What the tables of the interpreter say about ASCII. -/
structure Numerals (py : Interpreter) : Prop where
  digit : ∀ c : Char, c.isDigit = true → py.decimal c = some (c.toNat - 48)
  point : py.decimal '.' = none

/-- The value of a text of ASCII digits. -/
def asciiValue (s : String) : ℕ := Nat.ofDigitChars 10 s.toList 0

/-- The text writes the number `q`: digits, and perhaps a point and more digits. -/
def WritesNumber (py : Interpreter) (text : List Char) (q : ℚ) : Prop :=
  ∃ whole fraction w f, whole ≠ [] ∧
    (text = whole ∧ fraction = [] ∨ text = whole ++ '.' :: fraction ∧ fraction ≠ []) ∧
    decimalValue py whole = some w ∧ decimalValue py fraction = some f ∧
    q = w + f / 10 ^ fraction.length

/-- The quantity that the amount asks for, in raw units. -/
def AsksFor (py : Interpreter) (amount amountUnit : String) (n : ℕ) : Prop :=
  if amountUnit = "raw" then decimalValue py (Py.strip amount).toList = some n
  else ∃ q, WritesNumber py (Py.strip amount).toList q ∧ (n : ℚ) = q * stcScale

/-- The amount was normalised without a change of value, to a text that both readers accept. -/
structure Exact (py : Interpreter) (amount amountUnit : String) (a : TransferAmount) : Prop where
  nonempty : a.rawAmount ≠ ""
  ascii : ∀ c ∈ a.rawAmount.toList, c.isDigit = true
  quantity : AsksFor py amount amountUnit (asciiValue a.rawAmount)
  int : intOfDigits py a.rawAmount.toList = .ok (asciiValue a.rawAmount)
  u128 : asciiValue a.rawAmount < 2 ^ 128 →
    Text.parseUnsigned (2 ^ 128) a.rawAmount = .ok (asciiValue a.rawAmount)

/-! ## Digits -/

section Digits

variable {py : Interpreter}

/-- `decimalValue`, from a number already read. -/
def decimalFrom (py : Interpreter) (n : ℕ) (digits : List Char) : Option ℕ :=
  digits.foldlM (fun n c => (py.decimal c).map fun d => n * 10 + d) n

theorem decimalFrom_cons {n : ℕ} {c : Char} {digits : List Char} :
    decimalFrom py n (c :: digits) =
      (py.decimal c).bind fun d => decimalFrom py (n * 10 + d) digits := by
  unfold decimalFrom
  rw [List.foldlM_cons]
  cases py.decimal c <;> rfl

theorem decimalFrom_append {n : ℕ} {a b : List Char} :
    decimalFrom py n (a ++ b) = (decimalFrom py n a).bind fun m => decimalFrom py m b :=
  List.foldlM_append

theorem decimalFrom_ascii (h : Numerals py) : ∀ {digits : List Char} (n : ℕ),
    (∀ c ∈ digits, c.isDigit = true) →
      decimalFrom py n digits = some (Nat.ofDigitChars 10 digits n)
  | [], n, _ => by simp [decimalFrom]
  | c :: digits, n, hascii => by
    have hc := h.digit c (hascii c (List.mem_cons_self ..))
    have ih := decimalFrom_ascii h (n * 10 + (c.toNat - 48))
      fun d hd => hascii d (List.mem_cons_of_mem _ hd)
    rw [decimalFrom_cons, hc, Option.bind_some, ih, Nat.ofDigitChars_cons, Nat.mul_comm]
    rfl

theorem decimalValue_ascii (h : Numerals py) {digits : List Char}
    (hascii : ∀ c ∈ digits, c.isDigit = true) :
    decimalValue py digits = some (Nat.ofDigitChars 10 digits 0) := decimalFrom_ascii h 0 hascii

theorem decimalValue_padded (h : Numerals py) {digits : List Char} {n : ℕ}
    (hdigits : decimalValue py digits = some n) (k : ℕ) :
    decimalValue py (digits ++ List.replicate k '0') = some (n * 10 ^ k) := by
  have hzeros : ∀ c ∈ List.replicate k '0', c.isDigit = true := by
    intro c hc
    rw [List.eq_of_mem_replicate hc]
    decide
  have hfrom : decimalFrom py 0 digits = some n := hdigits
  show decimalFrom py 0 _ = _
  rw [decimalFrom_append, hfrom, Option.bind_some, decimalFrom_ascii h n hzeros,
    Nat.ofDigitChars_replicate_zero, Nat.mul_comm]

theorem decimal_of_decimalValue : ∀ {digits : List Char} {m n : ℕ},
    decimalFrom py m digits = some n → ∀ c ∈ digits, (py.decimal c).isSome = true
  | [], _, _, _, c, hc => nomatch hc
  | d :: digits, m, n, h, c, hc => by
    rw [decimalFrom_cons] at h
    obtain ⟨v, hv, hrest⟩ := Option.bind_eq_some_iff.mp h
    rcases List.mem_cons.mp hc with rfl | hc
    · rw [hv]
      rfl
    · exact decimal_of_decimalValue hrest c hc

theorem exists_decimalValue : ∀ {digits : List Char} (m : ℕ),
    (∀ c ∈ digits, (py.decimal c).isSome = true) → ∃ n, decimalFrom py m digits = some n
  | [], m, _ => ⟨m, rfl⟩
  | c :: digits, m, h => by
    obtain ⟨d, hd⟩ := Option.isSome_iff_exists.mp (h c (List.mem_cons_self ..))
    obtain ⟨n, hn⟩ := exists_decimalValue (m * 10 + d) fun e he => h e (List.mem_cons_of_mem _ he)
    refine ⟨n, ?_⟩
    rw [decimalFrom_cons, hd, Option.bind_some, hn]

end Digits

/-! ## What was written -/

section Parts

variable {py : Interpreter} {text whole fraction : List Char}

/-- The parts of a human-readable amount are decimal and make it up. -/
structure Parts (py : Interpreter) (text whole fraction : List Char) : Prop where
  nonempty : whole ≠ []
  length : fraction.length ≤ 9
  made : text = whole ∧ fraction = [] ∨ text = whole ++ '.' :: fraction ∧ fraction ≠ []
  wholeDecimal : ∀ c ∈ whole, (py.decimal c).isSome = true
  fractionDecimal : ∀ c ∈ fraction, (py.decimal c).isSome = true

theorem parts_of_stcAmountParts (h : stcAmountParts py text = some (whole, fraction)) :
    Parts py text whole fraction := by
  unfold stcAmountParts at h
  dsimp only at h
  split_ifs at h with hempty
  have hsplit : text = text.takeWhile (fun c => (py.decimal c).isSome) ++
      text.drop (text.takeWhile fun c => (py.decimal c).isSome).length :=
    (List.prefix_iff_eq_append.mp (List.takeWhile_prefix _)).symm
  have hwhole : ∀ c ∈ text.takeWhile (fun c => (py.decimal c).isSome), (py.decimal c).isSome = true :=
    List.all_eq_true.mp List.all_takeWhile
  generalize text.takeWhile (fun c => (py.decimal c).isSome) = w at h hempty hsplit hwhole
  have hne : w ≠ [] := by simpa using hempty
  split at h
  · rename_i hrest
    cases h
    rw [hrest, List.append_nil] at hsplit
    exact ⟨hne, by simp, .inl ⟨hsplit, rfl⟩, hwhole, by simp⟩
  · rename_i tail hrest
    split_ifs at h with htail
    cases h
    rw [hrest] at hsplit
    refine ⟨hne, htail.2.2, .inr ⟨hsplit, ?_⟩, hwhole, ?_⟩
    · exact List.ne_nil_of_length_pos htail.2.1
    · exact List.all_eq_true.mp htail.1
  · cases h

/-- The point tells the parts of a number apart. -/
theorem parts_unique (h : Numerals py) {whole' fraction' : List Char}
    (hp : Parts py text whole fraction) (hw : ∀ c ∈ whole', (py.decimal c).isSome = true)
    (ht : text = whole' ∧ fraction' = [] ∨ text = whole' ++ '.' :: fraction' ∧ fraction' ≠ []) :
    whole' = whole ∧ fraction' = fraction := by
  have hcut : ∀ {w f : List Char}, (∀ c ∈ w, (py.decimal c).isSome = true) →
      (text = w ∧ f = [] ∨ text = w ++ '.' :: f ∧ f ≠ []) →
      w = text.takeWhile (fun c => (py.decimal c).isSome) ∧
        f = (text.dropWhile fun c => (py.decimal c).isSome).drop 1 := by
    intro w f hw ht
    rcases ht with ⟨rfl, rfl⟩ | ⟨rfl, -⟩
    · have htake : text.takeWhile (fun c => (py.decimal c).isSome) = text :=
        List.takeWhile_eq_self_iff.mpr hw
      have hdrop : text.dropWhile (fun c => (py.decimal c).isSome) = [] :=
        List.dropWhile_eq_nil_iff.mpr hw
      rw [htake, hdrop]
      exact ⟨rfl, rfl⟩
    · have hpoint : (py.decimal '.').isSome = false := by rw [h.point]; rfl
      rw [List.takeWhile_append_of_pos hw, List.dropWhile_append_of_pos hw]
      simp [hpoint]
  obtain ⟨rfl, rfl⟩ := hcut hw ht
  obtain ⟨hwhole, hfraction⟩ := hcut hp.wholeDecimal hp.made
  exact ⟨hwhole.symm, hfraction.symm⟩

theorem of_intOfDigits {n : ℕ} (h : intOfDigits py text = .ok n) :
    decimalValue py text = some n ∧ converts py text.length = true := by
  unfold intOfDigits at h
  cases hvalue : decimalValue py text with
  | none =>
    rw [hvalue] at h
    cases h
  | some m =>
    rw [hvalue] at h
    dsimp only at h
    split_ifs at h with hfits
    cases h
    exact ⟨rfl, hfits⟩

end Parts

/-! ## What is returned -/

section Normalised

variable {py : Interpreter} {amount amountUnit tokenCode : String} {a : TransferAmount}

theorem raw_of_normalizeTransferAmount (hunit : amountUnit = "raw")
    (h : normalizeTransferAmount py amount amountUnit tokenCode = .ok a) :
    a.rawAmount = Py.strip amount ∧ Py.strip amount ≠ "" := by
  unfold normalizeTransferAmount at h
  obtain ⟨token, -, h⟩ := bind_eq_ok h
  rw [if_pos hunit] at h
  split_ifs at h with hdigits
  · cases h
  · cases h
    refine ⟨rfl, ?_⟩
    intro hempty
    exact hdigits (.inl (by rw [hempty]; rfl))

theorem stc_of_normalizeTransferAmount (hpy : Numerals py) (hunit : amountUnit ≠ "raw")
    (h : normalizeTransferAmount py amount amountUnit tokenCode = .ok a) :
    ∃ whole fraction w f, Parts py (Py.strip amount).toList whole fraction ∧
      decimalValue py whole = some w ∧ decimalValue py fraction = some f ∧
      a.rawAmount = toString (w * stcScale + f * 10 ^ (9 - fraction.length)) ∧
      converts py a.rawAmount.length = true := by
  unfold normalizeTransferAmount at h
  obtain ⟨token, -, h⟩ := bind_eq_ok h
  rw [if_neg hunit] at h
  obtain ⟨isStc, -, h⟩ := bind_eq_ok h
  split_ifs at h
  · cases h
  cases hparts : stcAmountParts py (Py.strip amount).toList with
  | none =>
    rw [hparts] at h
    cases h
  | some parts =>
    obtain ⟨whole, fraction⟩ := parts
    rw [hparts] at h
    obtain ⟨w, hw, h⟩ := bind_eq_ok h
    obtain ⟨f, hf, h⟩ := bind_eq_ok h
    obtain ⟨raw, hraw, h⟩ := bind_eq_ok h
    cases h
    have hp := parts_of_stcAmountParts hparts
    obtain ⟨v, hv⟩ := exists_decimalValue 0 hp.fractionDecimal
    have hfraction : f = v * 10 ^ (9 - fraction.length) := by
      unfold fractionUnits at hf
      split_ifs at hf with hempty
      · cases hf
        rw [List.isEmpty_iff.mp hempty] at hv
        cases hv
        simp
      · have hpadded := decimalValue_padded hpy hv (9 - fraction.length)
        rw [(of_intOfDigits hf).1] at hpadded
        exact Option.some.inj hpadded
    unfold strOfInt at hraw
    split_ifs at hraw with hfits
    cases hraw
    subst hfraction
    exact ⟨whole, fraction, w, v, hp, (of_intOfDigits hw).1, hv, rfl, hfits⟩

theorem asciiValue_toString (n : ℕ) : asciiValue (toString n) = n := by
  unfold asciiValue
  rw [Nat.toString_eq_repr, Nat.toList_repr]
  exact Nat.ofDigitChars_ten_toDigits

theorem isDigit_of_mem_repr {n : ℕ} : ∀ c ∈ (toString n).toList, c.isDigit = true := by
  intro c hc
  rw [Nat.toString_eq_repr, Nat.toList_repr] at hc
  exact Nat.isDigit_of_mem_toDigits (by decide) (by decide) hc

/-! ### The two readers -/

theorem le_ofDigitChars : ∀ (digits : List Char) (n : ℕ), n ≤ Nat.ofDigitChars 10 digits n
  | [], n => by simp
  | c :: digits, n => by
    rw [Nat.ofDigitChars_cons]
    have ih := le_ofDigitChars digits (10 * n + (c.toNat - '0'.toNat))
    omega

theorem parseDigits_ascii {limit : ℕ} : ∀ {digits : List Char} {n : ℕ},
    (∀ c ∈ digits, c.isDigit = true) → Nat.ofDigitChars 10 digits n < limit →
      Text.parseDigits limit n digits = .ok (Nat.ofDigitChars 10 digits n)
  | [], n, _, _ => by simp [Text.parseDigits]
  | c :: digits, n, hascii, hlt => by
    rw [Nat.ofDigitChars_cons] at hlt ⊢
    have hnext : 10 * n + (c.toNat - '0'.toNat) = n * 10 + (c.toNat - 48) := by
      rw [Nat.mul_comm]
      rfl
    rw [hnext] at hlt ⊢
    have hle := le_ofDigitChars digits (n * 10 + (c.toNat - 48))
    unfold Text.parseDigits
    rw [if_neg (by simp [hascii c (List.mem_cons_self ..)]), if_pos (hle.trans_lt hlt)]
    exact parseDigits_ascii (fun d hd => hascii d (List.mem_cons_of_mem _ hd)) hlt

theorem parseUnsigned_ascii {limit : ℕ} {s : String} (hne : s ≠ "")
    (hascii : ∀ c ∈ s.toList, c.isDigit = true) (hlt : asciiValue s < limit) :
    Text.parseUnsigned limit s = .ok (asciiValue s) := by
  have hlist : s.toList ≠ [] := by
    intro hnil
    exact hne (String.toList_eq_nil_iff.mp hnil)
  unfold Text.parseUnsigned
  split
  · rename_i hnil
    exact absurd hnil hlist
  · rename_i hplus
    have := hascii '+' (by rw [hplus]; simp)
    exact absurd this (by decide)
  · rename_i hplus
    have := hascii '+' (by rw [hplus]; simp)
    exact absurd this (by decide)
  · exact parseDigits_ascii hascii hlt

theorem intOfDigits_ascii (hpy : Numerals py) {digits : List Char}
    (hascii : ∀ c ∈ digits, c.isDigit = true) :
    intOfDigits py digits = .ok (Nat.ofDigitChars 10 digits 0) ↔ converts py digits.length = true := by
  unfold intOfDigits
  rw [decimalValue_ascii hpy hascii]
  dsimp only
  split_ifs with h
  · simp [h]
  · simp [h]

/-! ### Both units -/

theorem scale_number {w f l : ℕ} (hl : l ≤ 9) :
    ((w * stcScale + f * 10 ^ (9 - l) : ℕ) : ℚ) = (w + f / 10 ^ l) * stcScale := by
  have hscale : (stcScale : ℚ) = 10 ^ l * 10 ^ (9 - l) := by
    rw [← pow_add, Nat.add_sub_cancel' hl]
    norm_num [stcScale]
  push_cast
  rw [hscale]
  field_simp

/-- The one number that the text writes. -/
theorem number_of_writesNumber (hpy : Numerals py) {text whole fraction : List Char} {w f : ℕ} {q : ℚ}
    (hp : Parts py text whole fraction) (hw : decimalValue py whole = some w)
    (hf : decimalValue py fraction = some f) (h : WritesNumber py text q) :
    q = w + f / 10 ^ fraction.length := by
  obtain ⟨whole', fraction', w', f', -, ht, hw', hf', rfl⟩ := h
  obtain ⟨rfl, rfl⟩ := parts_unique hpy hp (decimal_of_decimalValue hw') ht
  rw [hw] at hw'
  rw [hf] at hf'
  cases hw'
  cases hf'
  rfl

theorem exact_of_stc (hpy : Numerals py) (hunit : amountUnit ≠ "raw")
    (h : normalizeTransferAmount py amount amountUnit tokenCode = .ok a) :
    Exact py amount amountUnit a := by
  obtain ⟨whole, fraction, w, f, hp, hw, hf, hraw, hfits⟩ := stc_of_normalizeTransferAmount hpy hunit h
  have hascii : ∀ c ∈ a.rawAmount.toList, c.isDigit = true := by
    rw [hraw]
    exact isDigit_of_mem_repr
  have hvalue : asciiValue a.rawAmount = w * stcScale + f * 10 ^ (9 - fraction.length) := by
    rw [hraw, asciiValue_toString]
  have hne : a.rawAmount ≠ "" := by
    rw [hraw]
    exact Nat.repr_ne_empty
  refine ⟨hne, hascii, ?_, ?_, parseUnsigned_ascii hne hascii⟩
  · unfold AsksFor
    rw [if_neg hunit, hvalue]
    exact ⟨w + f / 10 ^ fraction.length, ⟨whole, fraction, w, f, hp.nonempty, hp.made, hw, hf, rfl⟩,
      scale_number hp.length⟩
  · exact (intOfDigits_ascii hpy hascii).mpr (by rwa [String.length_toList])

theorem exact_raw_iff (hpy : Numerals py) (hunit : amountUnit = "raw")
    (h : normalizeTransferAmount py amount amountUnit tokenCode = .ok a) :
    Exact py amount amountUnit a ↔ (∀ c ∈ (Py.strip amount).toList, c.isDigit = true) ∧
      converts py (Py.strip amount).length = true := by
  obtain ⟨hraw, hne⟩ := raw_of_normalizeTransferAmount hunit h
  constructor
  · intro hexact
    have hascii := hexact.ascii
    have hint := hexact.int
    rw [hraw] at hascii hint
    refine ⟨hascii, ?_⟩
    rw [← String.length_toList]
    exact (intOfDigits_ascii hpy hascii).mp hint
  · rintro ⟨hascii, hfits⟩
    rw [← hraw] at hascii hfits hne
    refine ⟨hne, hascii, ?_, ?_, parseUnsigned_ascii hne hascii⟩
    · unfold AsksFor
      rw [if_pos hunit, ← hraw]
      exact decimalValue_ascii hpy hascii
    · exact (intOfDigits_ascii hpy hascii).mpr (by rwa [String.length_toList])

end Normalised

/-- What is returned is exact for every amount in STC, and for an amount in raw units exactly when
it is in ASCII digits, and no more of them than `int` converts. Two amounts in STC that write the
same number are returned as the same text. -/
theorem amount_exact_iff (py : Interpreter) (hpy : Numerals py) :
    (∀ amount amountUnit tokenCode a,
      normalizeTransferAmount py amount amountUnit tokenCode = .ok a →
        (Exact py amount amountUnit a ↔ amountUnit ≠ "raw" ∨
          ((∀ c ∈ (Py.strip amount).toList, c.isDigit = true) ∧
            converts py (Py.strip amount).length = true))) ∧
      ∀ amount₁ unit₁ tokenCode₁ a₁ amount₂ unit₂ tokenCode₂ a₂ q, unit₁ ≠ "raw" → unit₂ ≠ "raw" →
        normalizeTransferAmount py amount₁ unit₁ tokenCode₁ = .ok a₁ →
        normalizeTransferAmount py amount₂ unit₂ tokenCode₂ = .ok a₂ →
        WritesNumber py (Py.strip amount₁).toList q → WritesNumber py (Py.strip amount₂).toList q →
          a₁.rawAmount = a₂.rawAmount := by
  constructor
  · intro amount amountUnit tokenCode a h
    by_cases hunit : amountUnit = "raw"
    · rw [exact_raw_iff hpy hunit h]
      simp [hunit]
    · exact ⟨fun _ => .inl hunit, fun _ => exact_of_stc hpy hunit h⟩
  · intro amount₁ unit₁ tokenCode₁ a₁ amount₂ unit₂ tokenCode₂ a₂ q hunit₁ hunit₂ h₁ h₂ hq₁ hq₂
    obtain ⟨whole₁, fraction₁, w₁, f₁, hp₁, hw₁, hf₁, hraw₁, -⟩ :=
      stc_of_normalizeTransferAmount hpy hunit₁ h₁
    obtain ⟨whole₂, fraction₂, w₂, f₂, hp₂, hw₂, hf₂, hraw₂, -⟩ :=
      stc_of_normalizeTransferAmount hpy hunit₂ h₂
    have hnumber₁ := number_of_writesNumber hpy hp₁ hw₁ hf₁ hq₁
    have hnumber₂ := number_of_writesNumber hpy hp₂ hw₂ hf₂ hq₂
    have hscaled : ((w₁ * stcScale + f₁ * 10 ^ (9 - fraction₁.length) : ℕ) : ℚ) =
        (w₂ * stcScale + f₂ * 10 ^ (9 - fraction₂.length) : ℕ) := by
      rw [scale_number hp₁.length, scale_number hp₂.length, ← hnumber₁, ← hnumber₂]
    rw [hraw₁, hraw₂, Nat.cast_inj.mp hscaled]

/-! ### Samples -/

theorem numerals_interpreter : Numerals Sample.interpreter := by
  refine ⟨?_, by decide⟩
  intro c hc
  simp [Sample.interpreter, hc]

theorem amount_exact_iff_sample :
    Numerals Sample.interpreter ∧
      ∃ a, normalizeTransferAmount Sample.interpreter " 1.5 " "stc" "0x1::STC::STC" = .ok a ∧
        a.rawAmount = "1500000000" ∧ Exact Sample.interpreter " 1.5 " "stc" a := by
  refine ⟨numerals_interpreter, ⟨" 1.5 ", "stc", "1500000000", "1.5 STC", "0x1::STC::STC"⟩, ?_, rfl, ?_⟩
  · decide +kernel
  · refine ((amount_exact_iff Sample.interpreter numerals_interpreter).1 " 1.5 " "stc" "0x1::STC::STC" _
      ?_).mpr (.inl (by decide))
    decide +kernel

/-- The interpreter as far as the superscript two: `isdigit` holds of it, and it is no decimal. -/
def Sample.superscripts : Interpreter :=
  { Sample.interpreter with isDigit := fun c => c.isDigit || c = '²' }

theorem superscript_is_no_integer :
    ∃ a, normalizeTransferAmount Sample.superscripts "²" "raw" "0x1::STC::STC" = .ok a ∧
      ¬ Exact Sample.superscripts "²" "raw" a := by
  refine ⟨⟨"²", "raw", "²", "² raw units", "0x1::STC::STC"⟩, by decide +kernel, ?_⟩
  intro h
  exact absurd (h.ascii '²' (by decide)) (by decide)

end StarcoinMcp.Host
