import Mathlib.Algebra.Order.Ring.Nat
import Mathlib.Data.List.Basic

/-! Text as the Rust standard library treats it: Unicode white space, trimming
and ASCII case. Everything is a function of the list of characters, so a closed
instance can be evaluated. -/

namespace StarcoinMcp.Text

-- what is said of the characters of a list is decided along the list, not over all characters
instance (priority := high) decidableForallMem {α : Type} (p : α → Prop) [DecidablePred p] (l : List α) :
    Decidable (∀ x ∈ l, p x) := List.decidableBAll p l

instance (priority := high) decidableExistsMem {α : Type} (p : α → Prop) [DecidablePred p] (o : Option α) :
    Decidable (∃ x ∈ o, p x) := Option.decidableExistsMem o

/-- The Unicode `White_Space` property, the one `str::trim` removes. -/
def isWhitespace (c : Char) : Bool :=
  (0x9 ≤ c.toNat && c.toNat ≤ 0xd) || c.toNat == 0x20 || c.toNat == 0x85 || c.toNat == 0xa0 ||
    c.toNat == 0x1680 || (0x2000 ≤ c.toNat && c.toNat ≤ 0x200a) || c.toNat == 0x2028 ||
    c.toNat == 0x2029 || c.toNat == 0x202f || c.toNat == 0x205f || c.toNat == 0x3000

def trim (s : String) : String :=
  String.ofList ((s.toList.dropWhile isWhitespace).reverse.dropWhile isWhitespace).reverse

def isBlank (s : String) : Bool := (trim s).isEmpty

theorem mem_dropWhile_of_not {p : Char → Bool} :
    ∀ {l : List Char} {c : Char}, c ∈ l → p c = false → c ∈ l.dropWhile p
  | a :: l, c, hc, hp => by
    rw [List.dropWhile_cons]
    cases ha : p a with
    | false => simpa using hc
    | true =>
      rcases List.mem_cons.mp hc with rfl | hc
      · rw [ha] at hp
        cases hp
      · simpa using mem_dropWhile_of_not hc hp

theorem isBlank_of_mem {s : String} {c : Char} (hc : c ∈ s.toList) (hw : isWhitespace c = false) :
    isBlank s = false := by
  have hmem := mem_dropWhile_of_not (List.mem_reverse.mpr (mem_dropWhile_of_not hc hw)) hw
  unfold isBlank trim
  rw [Bool.eq_false_iff]
  intro hempty
  have hnil := congrArg String.toList (String.isEmpty_iff.mp hempty)
  rw [String.toList_ofList] at hnil
  rw [List.reverse_eq_nil_iff.mp hnil] at hmem
  cases hmem

/-- What is left after trimming, if anything is, is not blank. -/
theorem isBlank_trim {s : String} (h : (trim s).isEmpty = false) : isBlank (trim s) = false := by
  have hne : ((s.toList.dropWhile isWhitespace).reverse.dropWhile isWhitespace) ≠ [] := by
    intro hnil
    unfold trim at h
    rw [hnil] at h
    simp at h
  obtain ⟨c, cs, hc⟩ := List.exists_cons_of_ne_nil hne
  have hmem : c ∈ (trim s).toList := by
    unfold trim
    rw [String.toList_ofList, List.mem_reverse, hc]
    exact List.mem_cons_self ..
  -- the first character that was kept at the end is no white space
  have hlast : isWhitespace c = false := by
    have hhead := List.head?_dropWhile_not isWhitespace (s.toList.dropWhile isWhitespace).reverse
    rw [hc] at hhead
    simpa using hhead
  exact isBlank_of_mem hmem hlast

/-! ## ASCII case -/

def toAsciiLowercase (s : String) : String := String.ofList (s.toList.map Char.toLower)

theorem toLower_toLower (c : Char) : c.toLower.toLower = c.toLower := by
  by_cases h : c.val ≥ 'A'.val ∧ c.val ≤ 'Z'.val
  · have hval : c.toLower.val = c.val + ('a'.val - 'A'.val) := congrArg Char.val (dif_pos h)
    have hlow : ¬ (c.toLower.val ≥ 'A'.val ∧ c.toLower.val ≤ 'Z'.val) := by
      rw [hval]
      obtain ⟨h₁, h₂⟩ := h
      simp only [ge_iff_le, UInt32.le_iff_toNat_le, UInt32.toNat_add, not_and] at *
      have : ('A'.val).toNat = 65 := rfl
      have : ('Z'.val).toNat = 90 := rfl
      have : ('a'.val - 'A'.val).toNat = 32 := rfl
      omega
    exact dif_neg hlow
  · have hself : c.toLower = c := dif_neg h
    rw [hself, hself]

theorem toAsciiLowercase_idem (s : String) :
    toAsciiLowercase (toAsciiLowercase s) = toAsciiLowercase s := by
  unfold toAsciiLowercase
  rw [String.toList_ofList, List.map_map]
  congr 2
  funext c
  exact toLower_toLower c

def eqIgnoreAsciiCase (s t : String) : Bool := toAsciiLowercase s == toAsciiLowercase t

/-- `str::contains` with a string to look for. -/
def contains (s pattern : String) : Bool :=
  s.toList.tails.any fun rest => pattern.toList.isPrefixOf rest

def utf8 (s : String) : List UInt8 := s.toList.flatMap String.utf8EncodeChar

/-- `str::trim_start_matches("0x")`: the marker goes as often as it stands in front. -/
def trimStartHexMarker : List Char → List Char
  | '0' :: 'x' :: cs => trimStartHexMarker cs
  | cs => cs

/-- `str::strip_prefix`. -/
def stripPrefix (lead cs : List Char) : Option (List Char) :=
  if lead.isPrefixOf cs then some (cs.drop lead.length) else none

theorem trimStartHexMarker_of_not : ∀ {cs : List Char}, ¬ ['0', 'x'] <+: cs →
    trimStartHexMarker cs = cs := by
  intro cs h
  unfold trimStartHexMarker
  split
  · exact absurd ⟨_, rfl⟩ h
  · rfl

theorem trimStartHexMarker_suffix (cs : List Char) : trimStartHexMarker cs <:+ cs := by
  induction cs using trimStartHexMarker.induct with
  | case1 cs ih =>
    rw [trimStartHexMarker]
    exact ih.trans ⟨['0', 'x'], rfl⟩
  | case2 cs h =>
    have hsame : trimStartHexMarker cs = cs := by
      rw [trimStartHexMarker]
      exact h
    exact ⟨[], hsame⟩

/-- Trimming takes the white space around a text off, and nothing of the text. -/
theorem toList_trim {s : String} {before core after : List Char} (hs : s.toList = before ++ core ++ after)
    (hbefore : ∀ c ∈ before, isWhitespace c = true) (hafter : ∀ c ∈ after, isWhitespace c = true)
    (hcore : ∀ c ∈ core, isWhitespace c = false) (hne : core ≠ []) : (trim s).toList = core := by
  have hdrop : ∀ {ws l : List Char}, (∀ c ∈ ws, isWhitespace c = true) →
      (∀ c ∈ l.head?, isWhitespace c = false) → (ws ++ l).dropWhile isWhitespace = l := by
    intro ws l hws hl
    rw [List.dropWhile_append_of_pos hws]
    cases l with
    | nil => rfl
    | cons c l =>
      have hc := hl c rfl
      simp [hc]
  have hfirst : s.toList.dropWhile isWhitespace = core ++ after := by
    rw [hs, List.append_assoc]
    refine hdrop hbefore ?_
    intro c hc
    cases core with
    | nil => exact absurd rfl hne
    | cons d core =>
      cases hc
      exact hcore _ (List.mem_cons_self ..)
  unfold trim
  rw [String.toList_ofList, hfirst, List.reverse_append, hdrop, List.reverse_reverse]
  · intro c hc
    exact hafter c (List.mem_reverse.mp hc)
  · intro c hc
    exact hcore c (List.mem_reverse.mp (List.mem_of_mem_head? hc))

/-! ## Decimal numbers -/

inductive ParseIntError
  | empty | invalidDigit | posOverflow
deriving DecidableEq, Repr

def ParseIntError.text : ParseIntError → String
  | .empty => "cannot parse integer from empty string"
  | .invalidDigit => "invalid digit found in string"
  | .posOverflow => "number too large to fit in target type"

/-- The digits after those already read, whose value is `acc`. -/
def parseDigits (limit : Nat) : Nat → List Char → Except ParseIntError Nat
  | acc, [] => .ok acc
  | acc, c :: cs =>
    if ¬ c.isDigit then .error .invalidDigit
    else if acc * 10 + (c.toNat - 48) < limit then parseDigits limit (acc * 10 + (c.toNat - 48)) cs
    else .error .posOverflow

/-- `str::parse` for the unsigned type with values below `limit`: one leading plus is allowed. -/
def parseUnsigned (limit : Nat) (s : String) : Except ParseIntError Nat :=
  match s.toList with
  | [] => .error .empty
  | ['+'] => .error .invalidDigit
  | '+' :: cs => parseDigits limit 0 cs
  | cs => parseDigits limit 0 cs

end StarcoinMcp.Text
