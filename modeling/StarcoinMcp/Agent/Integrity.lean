import Mathlib.Data.Nat.Digits.Defs
import StarcoinMcp.Agent.RawView

/-! What the agent's text can do to a terminal. The first part is about single
characters, the second about the lines of the four cards: each is the border, a
text of the program or a line of one field, behind the label of that field. -/

namespace StarcoinMcp.Agent

open Starmask (PulledRequest RequestKind MessageFormat)

/-! ## Characters -/

/-- The general categories whose characters move or break the text on a terminal. -/
inductive Category
  | cc
  | cf
  | zl
  | zp
deriving DecidableEq

/-- Their code points in the Unicode character database, from version 15. -/
def Category.ranges : Category → List (ℕ × ℕ)
  | .cc => [(0x0000, 0x001f), (0x007f, 0x009f)]
  | .cf => [(0x00ad, 0x00ad), (0x0600, 0x0605), (0x061c, 0x061c), (0x06dd, 0x06dd),
      (0x070f, 0x070f), (0x0890, 0x0891), (0x08e2, 0x08e2), (0x180e, 0x180e), (0x200b, 0x200f),
      (0x202a, 0x202e), (0x2060, 0x2064), (0x2066, 0x206f), (0xfeff, 0xfeff), (0xfff9, 0xfffb),
      (0x110bd, 0x110bd), (0x110cd, 0x110cd), (0x13430, 0x1343f), (0x1bca0, 0x1bca3),
      (0x1d173, 0x1d17a), (0xe0001, 0xe0001), (0xe0020, 0xe007f)]
  | .zl => [(0x2028, 0x2028)]
  | .zp => [(0x2029, 0x2029)]

def Category.has (category : Category) (c : Char) : Bool :=
  category.ranges.any fun (first, last) => first ≤ c.toNat && c.toNat ≤ last

theorem isControl_eq (c : Char) : isControl c = Category.cc.has c := by
  simp [isControl, Category.has, Category.ranges]

theorem isUnicodeFormatCharacter_eq (c : Char) : isUnicodeFormatCharacter c = Category.cf.has c := rfl

/-- The separators are none of the characters that are escaped. -/
theorem sanitizeChar_separator {c : Char} (h : (Category.zl.has c || Category.zp.has c) = true) :
    sanitizeChar c = [c] := by
  have hcode : c = '\u2028' ∨ c = '\u2029' := by
    have hnat : c.toNat = 0x2028 ∨ c.toNat = 0x2029 := by
      simp only [Category.has, Category.ranges, List.any_cons, List.any_nil, Bool.or_false,
        Bool.or_eq_true, Bool.and_eq_true, decide_eq_true_eq] at h
      omega
    rcases hnat with hnat | hnat
    · exact .inl (Char.toNat_inj.mp hnat)
    · exact .inr (Char.toNat_inj.mp hnat)
  rcases hcode with rfl | rfl <;> decide

theorem not_has_of_mem_sanitizeForTty {c : Char} {input : List Char}
    (h : c ∈ sanitizeForTty input) : Category.cc.has c = false ∧ Category.cf.has c = false := by
  obtain ⟨d, -, hd⟩ := List.mem_flatMap.mp h
  rcases mem_sanitizeChar hd with ⟨-, -, hplain⟩ | hvisible
  · rw [isControl_eq, isUnicodeFormatCharacter_eq] at hplain
    exact Bool.or_eq_false_iff.mp hplain
  · have hall : ∀ c ∈ "\\nrtu\x7b\x7d0123456789abcdef".toList,
        Category.cc.has c = false ∧ Category.cf.has c = false := by decide
    exact hall c hvisible

theorem separator_mem_sanitizeForTty {c : Char} {input : List Char}
    (h : (Category.zl.has c || Category.zp.has c) = true) : c ∈ sanitizeForTty input ↔ c ∈ input := by
  constructor
  · intro hc
    obtain ⟨d, hd, hmem⟩ := List.mem_flatMap.mp hc
    rcases mem_sanitizeChar hmem with ⟨rfl, -⟩ | hvisible
    · exact hd
    · have hall : ∀ c ∈ "\\nrtu\x7b\x7d0123456789abcdef".toList,
          (Category.zl.has c || Category.zp.has c) = false := by decide
      rw [hall c hvisible] at h
      cases h
  · intro hc
    refine List.mem_flatMap.mpr ⟨c, hc, ?_⟩
    rw [sanitizeChar_separator h]
    exact List.mem_singleton_self c

/-- Text is escaped without loss and without control or format characters; the line and
paragraph separators are printed as they are. -/
theorem sanitizeForTty_escapes :
    Function.Injective sanitizeForTty ∧
      ∀ input, (∀ c ∈ sanitizeForTty input, Category.cc.has c = false ∧ Category.cf.has c = false) ∧
        ∀ c, (Category.zl.has c || Category.zp.has c) = true →
          (c ∈ sanitizeForTty input ↔ c ∈ input) := by
  refine ⟨sanitizeForTty_injective, ?_⟩
  intro input
  refine ⟨?_, ?_⟩
  · intro c hc
    exact not_has_of_mem_sanitizeForTty hc
  · intro c hc
    exact separator_mem_sanitizeForTty hc

theorem line_separator_is_printed :
    ¬ ∀ input, ∀ c ∈ sanitizeForTty input, ∀ category : Category, category.has c = false := by
  intro h
  have hsep := h ['a', '\u2028', 'b'] '\u2028' (by decide) .zl
  exact absurd hsep (by decide)

/-! ## Truncation and splitting -/

/-- The loop loses nothing and keeps to its limits. -/
theorem flatten_splitLoop (continuationWidth : ℕ) : ∀ (input current : List Char) (limit : ℕ),
    (splitLoop continuationWidth current limit input).flatten = current ++ input := by
  intro input
  induction input with
  | nil =>
    intro current limit
    unfold splitLoop
    split_ifs with hempty
    · simp [List.isEmpty_iff.mp hempty]
    · simp
  | cons c input ih =>
    intro current limit
    unfold splitLoop
    split_ifs
    · rw [List.flatten_cons, ih]
      rfl
    · rw [ih, List.append_assoc]
      rfl

theorem splitByWidth_ne_nil (input : List Char) (firstWidth continuationWidth : ℕ) :
    splitByWidth input firstWidth continuationWidth ≠ [] := by
  unfold splitByWidth
  dsimp only
  split_ifs with hempty
  · exact List.cons_ne_nil _ _
  · simpa using hempty

theorem flatten_splitByWidth (input : List Char) (firstWidth continuationWidth : ℕ) :
    (splitByWidth input firstWidth continuationWidth).flatten = input := by
  have hflatten := flatten_splitLoop continuationWidth input [] (max firstWidth 1)
  unfold splitByWidth
  dsimp only
  split_ifs with hempty
  · rw [List.isEmpty_iff.mp hempty] at hflatten
    simpa using hflatten
  · exact hflatten

/-! ## Lines of a field -/

/-- A label of the cards: it has no colon of its own, so that the first colon of a line ends it. -/
structure Plain (label : String) : Prop extends Fits label where
  colon : ':' ∉ label.toList
  newline : '\n' ∉ label.toList

/-- What a card prints for a field: its first line stands behind the label, the others behind as
many spaces. -/
structure Labelled (label : String) (lines : Card) : Prop where
  first : ∃ line ∈ lines.head?, LineOf ('|' :: ' ' :: fieldPrefix label) line
  rest : ∀ line ∈ lines.tail, LineOf ('|' :: ' ' :: spaces (fieldPrefix label).length) line

theorem newline_not_mem_fieldPrefix {label : String} (h : Plain label) : '\n' ∉ fieldPrefix label := by
  simpa [fieldPrefix] using h.newline

theorem newline_not_mem_segment {value : String} {firstWidth continuationWidth : ℕ}
    {segment : List Char}
    (h : segment ∈ splitByWidth (sanitizeForTty value.toList) firstWidth continuationWidth) :
    '\n' ∉ segment := by
  intro hmem
  have hflatten := List.mem_flatten.mpr ⟨segment, h, hmem⟩
  rw [flatten_splitByWidth] at hflatten
  exact newline_not_mem_sanitizeForTty _ hflatten

theorem length_segment_le {input : List Char} {width : ℕ} (hwidth : 1 ≤ width)
    {segment : List Char} (h : segment ∈ splitByWidth input width width) : segment.length ≤ width := by
  unfold splitByWidth at h
  dsimp only at h
  rw [max_eq_left hwidth] at h
  split_ifs at h
  · rw [List.mem_singleton.mp h]
    exact Nat.zero_le _
  · exact length_le_of_mem_splitLoop hwidth (Nat.zero_le _) h

theorem labelled_full {label : String} (h : Plain label) (value : String) :
    Labelled label (writeCardFieldFull label value) := by
  have hmax := h.max
  have hwidth : 1 ≤ cardInnerWidth - (fieldPrefix label).length := by omega
  unfold writeCardFieldFull writeCardField
  dsimp only
  rw [List.length_replicate]
  cases hsegments : splitByWidth (sanitizeForTty value.toList)
      (cardInnerWidth - (fieldPrefix label).length) (cardInnerWidth - (fieldPrefix label).length) with
  | nil => exact absurd hsegments (splitByWidth_ne_nil _ _ _)
  | cons segment segments =>
    have hline : ∀ lead : List Char, '\n' ∉ lead → lead.length = (fieldPrefix label).length →
        ∀ s ∈ segment :: segments, ∀ line ∈ writeCardTextLine (lead ++ s),
          LineOf ('|' :: ' ' :: lead) line := by
      intro lead hlead hlength s hs
      rw [← hsegments] at hs
      have hle := length_segment_le hwidth hs
      refine lineOf_textLine ?_ ?_
      · rw [List.mem_append]
        rintro (hmem | hmem)
        · exact hlead hmem
        · exact newline_not_mem_segment hs hmem
      · rw [List.length_append]
        omega
    constructor
    · refine ⟨_, rfl, ?_⟩
      exact hline _ (newline_not_mem_fieldPrefix h) rfl segment (List.mem_cons_self ..) _
        (List.mem_singleton_self _)
    · intro line hmem
      obtain ⟨s, hs, hmem⟩ := List.mem_flatMap.mp hmem
      exact hline (spaces (fieldPrefix label).length) (by simp [spaces]) List.length_replicate s
        (List.mem_cons_of_mem _ hs) line hmem

theorem labelled_field {label : String} (h : Plain label) (value : String) (full : Bool) :
    Labelled label (writeCardField label value full) := by
  cases full with
  | true => exact labelled_full h value
  | false =>
    have hline := lineOf_preview value (newline_not_mem_fieldPrefix h) h.max.le
    constructor
    · exact ⟨_, rfl, hline _ (List.mem_singleton_self _)⟩
    · intro line hmem
      cases hmem

/-! ## Cards -/

/-- The texts of the program: titles, headings, actions and the last line of the raw view. -/
def cardTexts : List String :=
  ["Starmask Local Signing Request", "Starmask Local Account Creation Request",
    "Starmask Local Account Import Request", "Starmask Canonical Payload Details",
    "Request", "Account", "Transaction", "Message", "Account Creation", "Account Export",
    "Account Import", "Context", "Actions", "Diagnostics", "Raw Transaction", "Canonical Message",
    "Back", "  [a] approve", "  [r] reject", "  [v] view raw canonical payload",
    "Press enter on the next prompt and choose approve or reject."]

def cardLabels : List String :=
  ["Request ID", "Client Request ID (untrusted)", "Kind", "Payload Hash", "Resume Required",
    "Presentation ID", "Account", "Account Locked", "Operation", "Password Handling",
    "Output File", "Overwrite Existing File", "Private Key File", "Requested Account",
    "Message Format", "Byte Length", "Message Decode Error", "Canonical Message", "Message",
    "Display Hint (untrusted)", "Client Context (untrusted)", "Decode Error", "Raw BCS Preview",
    "Raw Transaction BCS", "Chain ID", "Sender", "Sequence Number", "Payload Type",
    "Gas Unit Price", "Max Gas Amount", "Gas Token", "Max Fee Budget", "Expiration",
    "Target Function", "Type Args", "Transaction Kind", "Recipient", "Amount", "Asset",
    "Argument Count", "Argument Preview", "Script Code Bytes", "Package Address", "Module Count",
    "Has Init Script"]

/-- The labels of the cards; the numbered ones count the entries of a vector. -/
inductive IsLabel : String → Prop
  | fixed {label : String} (h : label ∈ cardLabels) : IsLabel label
  | argument (n : ℕ) (h : n ≤ 2 ^ 64) : IsLabel ("Arg " ++ toString n)
  | module (n : ℕ) (h : n ≤ 2 ^ 64) : IsLabel ("Module " ++ toString n ++ " Bytes")

/-- One thing a card prints. -/
inductive Piece
  | border
  | text (text : String)
  | field (label value : String) (full : Bool)

def Piece.lines : Piece → Card
  | .border => writeCardBorder
  | .text t => writeCardTextLine t.toList
  | .field label value full => writeCardField label value full

/-- Everything but the border and the program's own texts stands under a label. -/
def Piece.Known : Piece → Prop
  | .border => True
  | .text t => t ∈ cardTexts
  | .field label _ _ => IsLabel label

def Card.Built (card : Card) : Prop :=
  ∃ pieces : List Piece, card = pieces.flatMap Piece.lines ∧ ∀ piece ∈ pieces, piece.Known

theorem Card.Built.append {card card' : Card} (h : card.Built) (h' : card'.Built) :
    Card.Built (card ++ card') := by
  obtain ⟨pieces, rfl, hknown⟩ := h
  obtain ⟨pieces', rfl, hknown'⟩ := h'
  refine ⟨pieces ++ pieces', List.flatMap_append.symm, ?_⟩
  intro piece hpiece
  rcases List.mem_append.mp hpiece with hmem | hmem
  · exact hknown piece hmem
  · exact hknown' piece hmem

section Sections

variable {vm : Vm1} {request : PulledRequest}

end Sections

section Cards

variable {vm : Vm1} {request : PulledRequest}

end Cards

/-! ## Every line -/

theorem length_toString_le {n : ℕ} (h : n ≤ 2 ^ 64) : (toString n).toList.length ≤ 20 := by
  rw [Nat.toString_eq_repr, Nat.toList_repr]
  exact Nat.toDigits_length 10 n 20 (by decide) (by omega)

/-- A number between two fixed texts is a label. -/
theorem plain_numbered {before after : String} {n : ℕ} (hn : n ≤ 2 ^ 64)
    (hvisible : ∃ c ∈ before.toList.head?, c ≠ ' ')
    (hlength : before.toList.length + after.toList.length ≤ 20)
    (hcolon : ':' ∉ before.toList ∧ ':' ∉ after.toList)
    (hnewline : '\n' ∉ before.toList ∧ '\n' ∉ after.toList) :
    Plain (before ++ toString n ++ after) := by
  have htext : (before ++ toString n ++ after).toList =
      before.toList ++ (toString n).toList ++ after.toList := by
    rw [String.toList_append, String.toList_append]
  have hmem : ∀ {c : Char}, c ∉ before.toList ∧ c ∉ after.toList → c.isDigit = false →
      c ∉ (before ++ toString n ++ after).toList := by
    intro c hc hdigit hmem
    rw [htext, List.mem_append, List.mem_append] at hmem
    rcases hmem with (hmem | hmem) | hmem
    · exact hc.1 hmem
    · rw [isDigit_of_mem_toString hmem] at hdigit
      cases hdigit
    · exact hc.2 hmem
  have hdigits := length_toString_le hn
  refine ⟨⟨?_, ?_⟩, hmem hcolon (by decide), hmem hnewline (by decide)⟩
  · obtain ⟨c, hc, hne⟩ := hvisible
    refine ⟨c, ?_, hne⟩
    rw [htext, List.append_assoc]
    cases hbefore : before.toList with
    | nil =>
      rw [hbefore] at hc
      cases hc
    | cons d cs =>
      rw [hbefore] at hc
      exact hc
  · unfold fieldPrefix
    rw [htext]
    simp only [List.length_append, List.length_cons, List.length_nil]
    have hwidth : cardInnerWidth = 76 := rfl
    omega

theorem IsLabel.plain {label : String} (h : IsLabel label) : Plain label := by
  cases h with
  | fixed h =>
    have hall : ∀ label ∈ cardLabels, Fits label ∧ ':' ∉ label.toList ∧ '\n' ∉ label.toList := by
      decide +kernel
    obtain ⟨hfits, hcolon, hnewline⟩ := hall label h
    exact ⟨hfits, hcolon, hnewline⟩
  | argument n h =>
    have hplain : Plain ("Arg " ++ toString n ++ "") :=
      plain_numbered h (by decide) (by decide) (by decide) (by decide)
    rwa [String.append_empty] at hplain
  | module n h => exact plain_numbered h (by decide) (by decide) (by decide) (by decide)

/-- The border, or text between the two sides of the card. -/
def Framed (line : List Char) : Prop :=
  line ∈ writeCardBorder ∨ (['|', ' '] <+: line ∧ [' ', '|'] <:+ line)

theorem Labelled.whole {label : String} {lines : Card} (h : Labelled label lines) :
    ∀ line ∈ lines, '\n' ∉ line := by
  intro line hline
  obtain ⟨first, hfirst, hlead⟩ := h.first
  cases lines with
  | nil => cases hline
  | cons head tail =>
    obtain rfl : head = first := by simpa using hfirst
    rcases List.mem_cons.mp hline with rfl | hmem
    · exact hlead.whole
    · exact (h.rest line hmem).whole

theorem Piece.Known.whole {piece : Piece} (h : piece.Known) : ∀ line ∈ piece.lines, '\n' ∉ line := by
  cases piece with
  | border => exact fun line hline => (lineOf_border line hline).whole
  | text t =>
    have hfits : ∀ t ∈ cardTexts, '\n' ∉ [] ++ t.toList ∧
        ([] ++ t.toList).length ≤ cardInnerWidth := by decide +kernel
    exact fun line hline => (lineOf_textLine (hfits t h).1 (hfits t h).2 line hline).whole
  | field label value full => exact (labelled_field h.plain value full).whole

end StarcoinMcp.Agent
