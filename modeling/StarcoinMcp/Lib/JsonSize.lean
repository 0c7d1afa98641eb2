import StarcoinMcp.Lib.JsonText

/-! How many bytes compact JSON takes. The size of an object is the sum of the sizes of
its members, whatever their order, and the size of a string that of its characters, each
as it is escaped. -/

namespace StarcoinMcp.JsonText

/-! ## Texts -/

def bytes (text : List Char) : List UInt8 := text.flatMap String.utf8EncodeChar

def byteSize (text : List Char) : ℕ := (text.map Char.utf8Size).sum

theorem length_bytes (text : List Char) : (bytes text).length = byteSize text := by
  induction text with
  | nil => rfl
  | cons c text ih =>
    unfold bytes at ih ⊢
    rw [List.flatMap_cons, List.length_append, ih, String.length_utf8EncodeChar]
    rfl

@[simp] theorem byteSize_nil : byteSize [] = 0 := rfl

@[simp] theorem byteSize_cons (c : Char) (text : List Char) :
    byteSize (c :: text) = c.utf8Size + byteSize text := rfl

@[simp] theorem byteSize_append (text text' : List Char) :
    byteSize (text ++ text') = byteSize text + byteSize text' := by
  simp [byteSize]

/-! ## Strings -/

/-- The bytes of one character of a string. -/
def charSize (c : Char) : ℕ :=
  if c = '"' ∨ c = '\\' ∨ c.toNat ∈ [0x8, 0x9, 0xa, 0xc, 0xd] then 2
  else if c.toNat < 0x20 then 6
  else c.utf8Size

/-- The bytes of a string, with its quotes. -/
def textSize (s : String) : ℕ := 2 + (s.toList.map charSize).sum

theorem digitChar_utf8Size : ∀ n < 16, (Nat.digitChar n).utf8Size = 1 := by decide

theorem byteSize_escapeChar (c : Char) : byteSize (escapeChar c) = charSize c := by
  have hshort : ∀ d ∈ ['"', '\\', 'b', 't', 'n', 'f', 'r'], byteSize ['\\', d] = 2 := by
    simp [byteSize, Char.utf8Size]
  unfold escapeChar
  split_ifs with h₁ h₂ h₃ h₄ h₅ h₆ h₇ h₈
  · simp [charSize, h₁, hshort]
  · simp [charSize, h₂, hshort]
  · simp [charSize, h₃, hshort]
  · simp [charSize, h₄, hshort]
  · simp [charSize, h₅, hshort]
  · simp [charSize, h₆, hshort]
  · simp [charSize, h₇, hshort]
  · have hlong : '\\'.utf8Size = 1 ∧ 'u'.utf8Size = 1 ∧ '0'.utf8Size = 1 := by decide
    simp [charSize, h₁, h₂, h₃, h₄, h₅, h₆, h₇, h₈, hlong, digitChar_utf8Size (c.toNat / 16) (by omega),
      digitChar_utf8Size (c.toNat % 16) (by omega)]
  · simp [charSize, h₁, h₂, h₃, h₄, h₅, h₆, h₇, h₈]

theorem byteSize_string (s : String) : byteSize (string s) = textSize s := by
  have hescaped : ∀ cs : List Char, byteSize (cs.flatMap escapeChar) = (cs.map charSize).sum := by
    intro cs
    induction cs with
    | nil => rfl
    | cons c cs ih =>
      rw [List.flatMap_cons, byteSize_append, ih, byteSize_escapeChar, List.map_cons, List.sum_cons]
  have hquote : '"'.utf8Size = 1 := by decide
  simp only [string, textSize, byteSize_cons, byteSize_append, byteSize_nil, hescaped, hquote]
  omega

/-! ## Numbers, truth values and objects -/

def integer (n : Int) : List Char :=
  if n < 0 then '-' :: Nat.toDigits 10 n.natAbs else Nat.toDigits 10 n.natAbs

def boolean (b : Bool) : List Char := if b then "true".toList else "false".toList

/-- A member of an object: its name and the text of its value. -/
abbrev Member := String × List Char

def member (m : Member) : List Char := string m.1 ++ ':' :: m.2

/-- The object with these members, in this order. -/
def object : List Member → List Char
  | [] => ['{', '}']
  | m :: ms => '{' :: (member m ++ (ms.flatMap (fun m => ',' :: member m) ++ ['}']))

/-- A member that is left out where there is no value. -/
def optional (name : String) (value : Option (List Char)) : List Member :=
  value.toList.map fun text => (name, text)

/-- The bytes of a member, with the comma or the brace after it. -/
def memberSize (name : String) (valueSize : ℕ) : ℕ := textSize name + valueSize + 2

def membersSize (ms : List Member) : ℕ := (ms.map fun m => memberSize m.1 (byteSize m.2)).sum

@[simp] theorem membersSize_nil : membersSize [] = 0 := rfl

@[simp] theorem membersSize_cons (m : Member) (ms : List Member) :
    membersSize (m :: ms) = memberSize m.1 (byteSize m.2) + membersSize ms := rfl

@[simp] theorem membersSize_append (ms ms' : List Member) :
    membersSize (ms ++ ms') = membersSize ms + membersSize ms' := by
  simp [membersSize]

@[simp] theorem membersSize_optional_none (name : String) : membersSize (optional name none) = 0 := rfl

@[simp] theorem membersSize_optional_some (name : String) (text : List Char) :
    membersSize (optional name (some text)) = memberSize name (byteSize text) := rfl

theorem byteSize_object {ms : List Member} (h : ms ≠ []) : byteSize (object ms) = 1 + membersSize ms := by
  have hone : ':'.utf8Size = 1 ∧ ','.utf8Size = 1 ∧ '{'.utf8Size = 1 ∧ '}'.utf8Size = 1 := by decide
  obtain ⟨hcolon, hcomma, hopen, hclose⟩ := hone
  have hmember : ∀ m : Member, byteSize (member m) + 1 = memberSize m.1 (byteSize m.2) := by
    intro m
    simp only [member, byteSize_append, byteSize_cons, byteSize_string, hcolon, memberSize]
    omega
  have hrest : ∀ ms : List Member, byteSize (ms.flatMap fun m => ',' :: member m) = membersSize ms := by
    intro ms
    induction ms with
    | nil => rfl
    | cons m ms ih =>
      rw [List.flatMap_cons, byteSize_append, ih, byteSize_cons, hcomma, membersSize_cons, ← hmember m]
      omega
  cases ms with
  | nil => exact absurd rfl h
  | cons m ms =>
    simp only [object, byteSize_cons, byteSize_append, byteSize_nil, hopen, hclose, hrest, membersSize_cons,
      ← hmember m]
    omega

end StarcoinMcp.JsonText
