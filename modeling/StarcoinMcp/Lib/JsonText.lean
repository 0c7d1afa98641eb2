import Mathlib.Algebra.Order.Ring.Nat
import Mathlib.Data.List.TakeWhile
import Mathlib.Data.Nat.Notation

/-! Compact JSON text, as `serde_json` writes it: no white space, object members in
the order given, strings escaped only where JSON requires it. The text of a document
determines the document, also when more text follows it. -/

namespace StarcoinMcp.JsonText

mutual

inductive Json
  | bool (b : Bool)
  | num (n : ℕ)
  | str (s : String)
  | obj (fields : Fields)

inductive Fields
  | nil
  | cons (name : String) (value : Json) (rest : Fields)

end

def escapeChar (c : Char) : List Char :=
  if c = '"' then ['\\', '"']
  else if c = '\\' then ['\\', '\\']
  else if c.toNat = 0x8 then ['\\', 'b']
  else if c.toNat = 0x9 then ['\\', 't']
  else if c.toNat = 0xa then ['\\', 'n']
  else if c.toNat = 0xc then ['\\', 'f']
  else if c.toNat = 0xd then ['\\', 'r']
  else if c.toNat < 0x20 then
    ['\\', 'u', '0', '0', Nat.digitChar (c.toNat / 16), Nat.digitChar (c.toNat % 16)]
  else [c]

def string (s : String) : List Char := '"' :: (s.toList.flatMap escapeChar ++ ['"'])

mutual

def compact : Json → List Char
  | .bool true => "true".toList
  | .bool false => "false".toList
  | .num n => Nat.toDigits 10 n
  | .str s => string s
  | .obj .nil => ['{', '}']
  | .obj (.cons name value rest) => '{' :: (string name ++ ':' :: (compact value ++ members rest))

/-- The members after the first, and the closing brace. -/
def members : Fields → List Char
  | .nil => ['}']
  | .cons name value rest => ',' :: (string name ++ ':' :: (compact value ++ members rest))

end

/-! ## Strings -/

def hexValue (c : Char) : ℕ := if c.isDigit then c.toNat - 48 else c.toNat - 87

def unescapeLetter (c : Char) : Char :=
  if c = 'b' then Char.ofNat 0x8
  else if c = 't' then Char.ofNat 0x9
  else if c = 'n' then Char.ofNat 0xa
  else if c = 'f' then Char.ofNat 0xc
  else if c = 'r' then Char.ofNat 0xd
  else c

/-- Reads back the first escaped character; it is what makes the escapes unambiguous. -/
def unescape : List Char → Option (Char × List Char)
  | [] => none
  | c :: x =>
    if c ≠ '\\' then some (c, x)
    else match x with
      | 'u' :: _ :: _ :: h :: l :: x => some (Char.ofNat (16 * hexValue h + hexValue l), x)
      | d :: x => some (unescapeLetter d, x)
      | [] => none

theorem hexValue_digitChar : ∀ n < 16, hexValue (Nat.digitChar n) = n := by decide

theorem char_eq_ofNat {c : Char} {n : ℕ} (h : c.toNat = n) : Char.ofNat n = c := by
  rw [← h, Char.ofNat_toNat]

theorem unescape_escapeChar (c : Char) (x : List Char) :
    unescape (escapeChar c ++ x) = some (c, x) := by
  unfold escapeChar
  split_ifs with h₁ h₂ h₃ h₄ h₅ h₆ h₇ h₈
  · simp [unescape, unescapeLetter, h₁]
  · simp [unescape, unescapeLetter, h₂]
  · simpa [unescape, unescapeLetter] using char_eq_ofNat h₃
  · simpa [unescape, unescapeLetter] using char_eq_ofNat h₄
  · simpa [unescape, unescapeLetter] using char_eq_ofNat h₅
  · simpa [unescape, unescapeLetter] using char_eq_ofNat h₆
  · simpa [unescape, unescapeLetter] using char_eq_ofNat h₇
  · have hh := hexValue_digitChar (c.toNat / 16) (by omega)
    have hl := hexValue_digitChar (c.toNat % 16) (by omega)
    simp [unescape, hh, hl, char_eq_ofNat (c := c) (n := 16 * (c.toNat / 16) + c.toNat % 16) (by omega)]
  · simp [unescape, h₂]

theorem escapeChar_append_inj {c d : Char} {x y : List Char}
    (h : escapeChar c ++ x = escapeChar d ++ y) : c = d ∧ x = y := by
  have hu := congrArg unescape h
  rw [unescape_escapeChar, unescape_escapeChar] at hu
  simpa using hu

theorem escapeChar_ne_quote {c : Char} {x y : List Char} : escapeChar c ++ x ≠ '"' :: y := by
  unfold escapeChar
  split_ifs with h₁ <;> simp [h₁]

theorem escaped_append_inj : ∀ {cs ds : List Char} {x y : List Char},
    cs.flatMap escapeChar ++ '"' :: x = ds.flatMap escapeChar ++ '"' :: y → cs = ds ∧ x = y
  | [], [], _, _, h => ⟨rfl, (List.cons.inj h).2⟩
  | [], d :: ds, x, y, h => by
    rw [List.flatMap_cons, List.append_assoc] at h
    exact absurd h.symm escapeChar_ne_quote
  | c :: cs, [], x, y, h => by
    rw [List.flatMap_cons, List.append_assoc] at h
    exact absurd h escapeChar_ne_quote
  | c :: cs, d :: ds, x, y, h => by
    rw [List.flatMap_cons, List.flatMap_cons, List.append_assoc, List.append_assoc] at h
    obtain ⟨rfl, htail⟩ := escapeChar_append_inj h
    obtain ⟨rfl, rfl⟩ := escaped_append_inj htail
    exact ⟨rfl, rfl⟩

theorem string_append_inj {s t : String} {x y : List Char} (h : string s ++ x = string t ++ y) :
    s = t ∧ x = y := by
  have h' : s.toList.flatMap escapeChar ++ '"' :: x = t.toList.flatMap escapeChar ++ '"' :: y := by
    simpa [string] using h
  obtain ⟨hs, hx⟩ := escaped_append_inj h'
  exact ⟨String.toList_inj.mp hs, hx⟩

/-! ## Numbers -/

/-- What may follow a number without being read into it. -/
def Stops (x : List Char) : Prop := ∀ c ∈ x.head?, c.isDigit = false

theorem members_stops (f : Fields) (x : List Char) : Stops (members f ++ x) := by
  cases f <;> simp [members, Stops]

theorem takeWhile_toDigits (n : ℕ) {x : List Char} (hx : Stops x) :
    (Nat.toDigits 10 n ++ x).takeWhile Char.isDigit = Nat.toDigits 10 n := by
  have hall : ∀ c ∈ Nat.toDigits 10 n, c.isDigit = true :=
    fun c hc => Nat.isDigit_of_mem_toDigits (by decide) (by decide) hc
  have hstop : x.takeWhile Char.isDigit = [] := by
    cases x with
    | nil => rfl
    | cons c x => simp [hx c rfl]
  rw [List.takeWhile_append_of_pos hall, hstop, List.append_nil]

theorem toDigits_append_inj {n m : ℕ} {x y : List Char} (hx : Stops x) (hy : Stops y)
    (h : Nat.toDigits 10 n ++ x = Nat.toDigits 10 m ++ y) : n = m ∧ x = y := by
  have hd : Nat.toDigits 10 n = Nat.toDigits 10 m := by
    rw [← takeWhile_toDigits n hx, h, takeWhile_toDigits m hy]
  have hn : n = m := by
    rw [← Nat.ofDigitChars_ten_toDigits (n := n), hd, Nat.ofDigitChars_ten_toDigits]
  subst hn
  exact ⟨rfl, List.append_cancel_left h⟩

/-! ## Documents -/

theorem toDigits_append_ne {n : ℕ} {c : Char} {x y : List Char} (hc : c.isDigit = false) :
    Nat.toDigits 10 n ++ x ≠ c :: y := by
  intro h
  cases hd : Nat.toDigits 10 n with
  | nil => exact Nat.toDigits_ne_nil hd
  | cons d ds =>
    rw [hd, List.cons_append] at h
    have hdig : d.isDigit = true := Nat.isDigit_of_mem_toDigits (b := 10) (n := n) (by decide)
      (by decide) (hd ▸ List.mem_cons_self ..)
    rw [(List.cons.inj h).1, hc] at hdig
    exact Bool.false_ne_true hdig

/-- A document that is no number starts with a character that is no digit. -/
theorem compact_ne_toDigits {a : Json} (ha : ∀ n, a ≠ .num n) (n : ℕ) (x y : List Char) :
    compact a ++ x ≠ Nat.toDigits 10 n ++ y := by
  intro h
  match a with
  | .bool true => exact toDigits_append_ne (by decide) h.symm
  | .bool false => exact toDigits_append_ne (by decide) h.symm
  | .num m => exact ha m rfl
  | .str s => exact toDigits_append_ne (c := '"') (by decide) h.symm
  | .obj .nil => exact toDigits_append_ne (c := '{') (by decide) h.symm
  | .obj (.cons name value rest) => exact toDigits_append_ne (c := '{') (by decide) h.symm

mutual

theorem compact_append_inj : ∀ (a b : Json) {x y : List Char}, Stops x → Stops y →
    compact a ++ x = compact b ++ y → a = b ∧ x = y
  | .num n, .num m, x, y, hx, hy, h => by
    obtain ⟨rfl, rfl⟩ := toDigits_append_inj hx hy h
    exact ⟨rfl, rfl⟩
  | .num n, .bool b, x, y, _, _, h => absurd h.symm (compact_ne_toDigits (by simp) n y x)
  | .num n, .str s, x, y, _, _, h => absurd h.symm (compact_ne_toDigits (by simp) n y x)
  | .num n, .obj f, x, y, _, _, h => absurd h.symm (compact_ne_toDigits (by simp) n y x)
  | .bool b, .num n, x, y, _, _, h => absurd h (compact_ne_toDigits (by simp) n x y)
  | .str s, .num n, x, y, _, _, h => absurd h (compact_ne_toDigits (by simp) n x y)
  | .obj f, .num n, x, y, _, _, h => absurd h (compact_ne_toDigits (by simp) n x y)
  | .bool a, .bool b, x, y, _, _, h => by
    cases a <;> cases b <;> simp_all [compact]
  | .bool a, .str s, x, y, _, _, h => by cases a <;> simp [compact, string] at h
  | .str s, .bool b, x, y, _, _, h => by cases b <;> simp [compact, string] at h
  | .bool a, .obj f, x, y, _, _, h => by cases a <;> cases f <;> simp [compact] at h
  | .obj f, .bool b, x, y, _, _, h => by cases b <;> cases f <;> simp [compact] at h
  | .str s, .str t, x, y, _, _, h => by
    obtain ⟨rfl, rfl⟩ := string_append_inj h
    exact ⟨rfl, rfl⟩
  | .str s, .obj f, x, y, _, _, h => by cases f <;> simp [compact, string] at h
  | .obj f, .str t, x, y, _, _, h => by cases f <;> simp [compact, string] at h
  | .obj .nil, .obj .nil, x, y, _, _, h => by simpa [compact] using h
  | .obj .nil, .obj (.cons ..), x, y, _, _, h => by simp [compact, string] at h
  | .obj (.cons ..), .obj .nil, x, y, _, _, h => by simp [compact, string] at h
  | .obj (.cons name value rest), .obj (.cons name' value' rest'), x, y, _, _, h => by
    simp only [compact, List.cons_append, List.append_assoc, List.cons.injEq, true_and] at h
    obtain ⟨rfl, hvalue⟩ := string_append_inj h
    obtain ⟨rfl, hrest⟩ := compact_append_inj value value' (members_stops rest x)
      (members_stops rest' y) (List.cons.inj hvalue).2
    obtain ⟨rfl, rfl⟩ := members_append_inj rest rest' hrest
    exact ⟨rfl, rfl⟩

theorem members_append_inj : ∀ (f g : Fields) {x y : List Char},
    members f ++ x = members g ++ y → f = g ∧ x = y
  | .nil, .nil, x, y, h => by simpa [members] using h
  | .nil, .cons .., x, y, h => by simp [members] at h
  | .cons .., .nil, x, y, h => by simp [members] at h
  | .cons name value rest, .cons name' value' rest', x, y, h => by
    simp only [members, List.cons_append, List.append_assoc, List.cons.injEq, true_and] at h
    obtain ⟨rfl, hvalue⟩ := string_append_inj h
    obtain ⟨rfl, hrest⟩ := compact_append_inj value value' (members_stops rest x)
      (members_stops rest' y) (List.cons.inj hvalue).2
    obtain ⟨rfl, rfl⟩ := members_append_inj rest rest' hrest
    exact ⟨rfl, rfl⟩

end

theorem compact_injective : Function.Injective compact := by
  intro a b h
  have hnil : Stops [] := fun _ hc => absurd hc (by simp)
  exact (compact_append_inj a b hnil hnil (congrArg (· ++ []) h)).1

end StarcoinMcp.JsonText
