import StarcoinMcp.Lib.FailState
import StarcoinMcp.Lib.JsonText
import StarcoinMcp.Agent.TransferCard
import StarcoinMcp.Agent.RequestSupport

/-! The raw view is faithful: its text determines the bytes the agent signs. Every line has
the same width, so the text determines the lines; the first letter of a line tells a new
field from the continuation of the last one, so the lines determine the fields; and a field
determines its value up to the spaces it was padded with. -/

namespace StarcoinMcp.Agent

open Starmask (PulledRequest RequestKind MessageFormat)

/-! ## Escapes -/

def hexNumber (digits : List Char) : ℕ := digits.foldl (fun n c => 16 * n + JsonText.hexValue c) 0

/-- Reads back the first character of a sanitized text. -/
def unsanitize : List Char → Option (Char × List Char)
  | [] => none
  | c :: x =>
    if c ≠ '\\' then some (c, x)
    else match x with
      | 'n' :: x => some ('\n', x)
      | 'r' :: x => some ('\r', x)
      | 't' :: x => some ('\t', x)
      | 'u' :: _ :: x =>
        some (Char.ofNat (hexNumber (x.takeWhile (· ≠ '\x7d'))), (x.dropWhile (· ≠ '\x7d')).drop 1)
      | d :: x => some (d, x)
      | [] => none

theorem brace_not_mem_toDigits (n : ℕ) : '\x7d' ∉ Nat.toDigits 16 n :=
  fun h => absurd (mem_toDigits h) (by decide)

theorem hexNumber_toDigits (n : ℕ) : hexNumber (Nat.toDigits 16 n) = n := by
  induction n using Nat.strongRecOn with
  | ind n ih =>
    rw [Nat.toDigits_eq_if (by decide)]
    split_ifs with hlt
    · simp [hexNumber, JsonText.hexValue_digitChar n hlt]
    · have hrest : hexNumber (Nat.toDigits 16 (n / 16)) = n / 16 := ih (n / 16) (by omega)
      have hlast := JsonText.hexValue_digitChar (n % 16) (by omega)
      unfold hexNumber at hrest ⊢
      rw [List.foldl_append, hrest]
      simp only [List.foldl_cons, List.foldl_nil, hlast]
      omega

theorem unsanitize_sanitizeChar (c : Char) (x : List Char) :
    unsanitize (sanitizeChar c ++ x) = some (c, x) := by
  unfold sanitizeChar
  split_ifs with hbackslash hnewline hreturn htab hspecial
  · simp [unsanitize, hbackslash]
  · simp [unsanitize, hnewline]
  · simp [unsanitize, hreturn]
  · simp [unsanitize, htab]
  · have hall : ∀ d ∈ Nat.toDigits 16 c.toNat, (decide (d ≠ '\x7d')) = true := by
      intro d hd
      refine decide_eq_true fun heq => brace_not_mem_toDigits c.toNat (heq ▸ hd)
    have htake : (Nat.toDigits 16 c.toNat ++ '\x7d' :: x).takeWhile (· ≠ '\x7d') =
        Nat.toDigits 16 c.toNat := by
      rw [List.takeWhile_append_of_pos hall]
      simp
    have hdrop : (Nat.toDigits 16 c.toNat ++ '\x7d' :: x).dropWhile (· ≠ '\x7d') = '\x7d' :: x := by
      rw [List.dropWhile_append_of_pos hall]
      simp
    have heq : "\\u\x7b".toList ++ Nat.toDigits 16 c.toNat ++ "\x7d".toList ++ x =
        '\\' :: 'u' :: '\x7b' :: (Nat.toDigits 16 c.toNat ++ '\x7d' :: x) := by
      simp
    rw [heq]
    show some (Char.ofNat (hexNumber (List.takeWhile _ _)), (List.dropWhile _ _).drop 1) = _
    rw [htake, hdrop, hexNumber_toDigits, Char.ofNat_toNat]
    rfl
  · simp [unsanitize, hbackslash]

theorem sanitizeForTty_injective : Function.Injective sanitizeForTty := by
  intro a
  induction a with
  | nil =>
    intro b h
    cases b with
    | nil => rfl
    | cons d b =>
      have hu := congrArg unsanitize h
      unfold sanitizeForTty at hu
      rw [List.flatMap_cons, unsanitize_sanitizeChar] at hu
      cases hu
  | cons c a ih =>
    intro b h
    have hu := congrArg unsanitize h
    unfold sanitizeForTty at hu
    cases b with
    | nil =>
      rw [List.flatMap_cons, unsanitize_sanitizeChar] at hu
      cases hu
    | cons d b =>
      rw [List.flatMap_cons, List.flatMap_cons, unsanitize_sanitizeChar, unsanitize_sanitizeChar] at hu
      obtain ⟨rfl, hrest⟩ := Prod.mk.inj (Option.some.inj hu)
      rw [ih hrest]

/-! ## Padding -/

def spaces (n : ℕ) : List Char := List.replicate n ' '

theorem sanitizeForTty_append_spaces (a : List Char) (n : ℕ) :
    sanitizeForTty (a ++ spaces n) = sanitizeForTty a ++ spaces n := by
  have hspaces : (spaces n).flatMap sanitizeChar = spaces n := by
    unfold spaces
    induction n with
    | zero => rfl
    | succ n ih =>
      rw [List.replicate_succ, List.flatMap_cons, ih]
      rfl
  unfold sanitizeForTty
  rw [List.flatMap_append, hspaces]

/-- Of two texts that agree once they are padded, one is the other padded. -/
theorem padded_of_eq {a b : List Char} {n m : ℕ} (h : a ++ spaces n = b ++ spaces m) :
    ∃ k, a = b ++ spaces k ∨ b = a ++ spaces k := by
  rcases le_total n m with hle | hle
  · refine ⟨m - n, .inl ?_⟩
    have hm : spaces m = spaces (m - n) ++ spaces n := by
      unfold spaces
      rw [← List.replicate_add, Nat.sub_add_cancel hle]
    rw [hm, ← List.append_assoc] at h
    exact List.append_cancel_right h
  · refine ⟨n - m, .inr ?_⟩
    have hn : spaces n = spaces (n - m) ++ spaces m := by
      unfold spaces
      rw [← List.replicate_add, Nat.sub_add_cancel hle]
    rw [hn, ← List.append_assoc] at h
    exact (List.append_cancel_right h).symm

/-! ## Lines of one width -/

def Card.Square (card : Card) : Prop := ∀ line ∈ card, line.length = cardInnerWidth + 4

@[simp] theorem square_append {card card' : Card} :
    Card.Square (card ++ card') ↔ card.Square ∧ card'.Square := by
  unfold Card.Square
  simp only [List.mem_append, or_imp, forall_and]

@[simp] theorem square_nil : Card.Square [] := fun _ hline => nomatch hline

@[simp] theorem square_border : writeCardBorder.Square := by
  intro line hline
  obtain rfl := List.mem_singleton.mp hline
  decide

@[simp] theorem square_textLine (text : List Char) : (writeCardTextLine text).Square := by
  intro line hline
  obtain rfl := List.mem_singleton.mp hline
  have hle := length_truncateChars_le text cardInnerWidth
  simp only [List.length_append, List.length_cons, List.length_nil, List.length_replicate]
  omega

theorem square_flatMap {α : Type} {f : α → Card} {l : List α} (h : ∀ a, (f a).Square) :
    Card.Square (l.flatMap f) := by
  intro line hline
  obtain ⟨a, -, hline⟩ := List.mem_flatMap.mp hline
  exact h a line hline

@[simp] theorem square_heading (heading : String) : (writeCardSectionHeading heading).Square :=
  square_append.mpr ⟨square_border, square_textLine _⟩

theorem square_field (label value : String) (full : Bool) : (writeCardField label value full).Square := by
  unfold writeCardField
  dsimp only
  split_ifs
  · exact square_textLine _
  · split
    · exact square_nil
    · exact square_append.mpr ⟨square_textLine _, square_flatMap fun _ => square_textLine _⟩

/-- The text of a square card determines the card. -/
theorem Card.Square.eq_of_text {card card' : Card} (h : card.Square) (h' : card'.Square)
    (htext : card.text = card'.text) : card = card' := by
  have hlines : ∀ {card card' : Card}, card.Square → card'.Square →
      card.flatMap (· ++ ['\n']) = card'.flatMap (· ++ ['\n']) → card = card' := by
    intro card
    induction card with
    | nil =>
      intro card' _ _ h
      cases card' with
      | nil => rfl
      | cons line card' =>
        rw [List.flatMap_nil, List.flatMap_cons, List.append_assoc] at h
        exact absurd (congrArg List.length h) (by simp)
    | cons line card ih =>
      intro card' hsquare hsquare' h
      cases card' with
      | nil =>
        rw [List.flatMap_nil, List.flatMap_cons, List.append_assoc] at h
        exact absurd (congrArg List.length h) (by simp)
      | cons line' card' =>
        rw [List.flatMap_cons, List.flatMap_cons] at h
        have hlength : (line ++ ['\n']).length = (line' ++ ['\n']).length := by
          rw [List.length_append, List.length_append, hsquare line (List.mem_cons_self ..),
            hsquare' line' (List.mem_cons_self ..)]
        obtain ⟨hline, hrest⟩ := List.append_inj h hlength
        have heq : card = card' := ih (fun l hl => hsquare l (List.mem_cons_of_mem _ hl))
          (fun l hl => hsquare' l (List.mem_cons_of_mem _ hl)) hrest
        rw [List.append_cancel_right hline, heq]
  refine hlines h h' ?_
  exact List.append_cancel_left (List.append_cancel_right htext)

/-! ## Splitting -/

/-- The text line of a lead and a segment, the line being filled up with spaces. -/
theorem writeCardTextLine_of_le {text : List Char} (h : text.length ≤ cardInnerWidth) :
    writeCardTextLine text =
      [['|', ' '] ++ text ++ spaces (cardInnerWidth - text.length) ++ [' ', '|']] := by
  unfold writeCardTextLine
  rw [truncateChars_of_le h]
  rfl

section Split

variable {width : ℕ}

theorem length_le_of_mem_splitLoop (hwidth : 1 ≤ width) : ∀ {input current segment : List Char},
    current.length ≤ width → segment ∈ splitLoop width current width input → segment.length ≤ width := by
  intro input
  induction input with
  | nil =>
    intro current segment hcurrent hmem
    unfold splitLoop at hmem
    split_ifs at hmem
    · cases hmem
    · rw [List.mem_singleton.mp hmem]
      exact hcurrent
  | cons c input ih =>
    intro current segment hcurrent hmem
    unfold splitLoop at hmem
    split_ifs at hmem with hfull
    · rw [max_eq_left hwidth] at hmem
      rcases List.mem_cons.mp hmem with rfl | hmem
      · exact hcurrent
      · exact ih (by simpa using hwidth) hmem
    · refine ih ?_ hmem
      rw [List.length_append, List.length_singleton]
      omega

/-- The segments, each filled up, are the input filled up. -/
theorem padded_splitLoop (hwidth : 1 ≤ width) : ∀ {input current : List Char},
    current.length ≤ width → ∃ n, (splitLoop width current width input).flatMap
      (fun segment => segment ++ spaces (width - segment.length)) = current ++ input ++ spaces n := by
  intro input
  induction input with
  | nil =>
    intro current hcurrent
    unfold splitLoop
    split_ifs with hempty
    · refine ⟨0, ?_⟩
      rw [List.isEmpty_iff.mp hempty]
      rfl
    · exact ⟨width - current.length, by simp⟩
  | cons c input ih =>
    intro current hcurrent
    unfold splitLoop
    split_ifs with hfull
    · rw [max_eq_left hwidth]
      have hone : [c].length ≤ width := by simpa using hwidth
      obtain ⟨n, hn⟩ := ih hone
      refine ⟨n, ?_⟩
      rw [List.flatMap_cons, hn, hfull, Nat.sub_self]
      simp [spaces]
    · have hlength : (current ++ [c]).length ≤ width := by
        rw [List.length_append, List.length_singleton]
        omega
      obtain ⟨n, hn⟩ := ih hlength
      refine ⟨n, ?_⟩
      rw [hn]
      simp

end Split

/-! ## Fields -/

/-- What a line of a field shows of its value, behind a lead of `n` characters. -/
def fieldBody (n : ℕ) (line : List Char) : List Char := (line.drop (2 + n)).take (cardInnerWidth - n)

theorem fieldBody_textLine {lead segment : List Char}
    (h : segment.length ≤ cardInnerWidth - lead.length) (hlead : lead.length ≤ cardInnerWidth) :
    (writeCardTextLine (lead ++ segment)).flatMap (fieldBody lead.length) =
      segment ++ spaces (cardInnerWidth - lead.length - segment.length) := by
  have hlength : (lead ++ segment).length ≤ cardInnerWidth := by
    rw [List.length_append]
    omega
  have hpad : cardInnerWidth - (lead ++ segment).length =
      cardInnerWidth - lead.length - segment.length := by
    rw [List.length_append]
    omega
  have hfilled : (segment ++ spaces (cardInnerWidth - lead.length - segment.length)).length =
      cardInnerWidth - lead.length := by
    unfold spaces
    rw [List.length_append, List.length_replicate]
    omega
  rw [writeCardTextLine_of_le hlength, hpad, List.flatMap_cons, List.flatMap_nil, List.append_nil]
  unfold fieldBody
  have hline : ['|', ' '] ++ (lead ++ segment) ++
      spaces (cardInnerWidth - lead.length - segment.length) ++ [' ', '|'] =
      (['|', ' '] ++ lead) ++ ((segment ++ spaces (cardInnerWidth - lead.length - segment.length)) ++
        [' ', '|']) := by
    simp
  have hdrop : 2 + lead.length = (['|', ' '] ++ lead).length := by
    rw [List.length_append]
    rfl
  rw [hline, hdrop, List.drop_left]
  exact List.take_left' hfilled

/-- A line that goes on with the value of the line before it. -/
def continues (row : List Char) : Bool := row[4]? = some ' '

/-- A label that leaves room for a value and does not look like a continuation. -/
structure Fits (label : String) : Prop where
  visible : ∃ c ∈ label.toList.head?, c ≠ ' '
  max : (fieldPrefix label).length < cardInnerWidth

instance (label : String) : Decidable (Fits label) :=
  decidable_of_iff ((∃ c ∈ label.toList.head?, c ≠ ' ') ∧ (fieldPrefix label).length < cardInnerWidth)
    ⟨fun h => ⟨h.1, h.2⟩, fun h => ⟨h.1, h.2⟩⟩

theorem Fits.min {label : String} (h : Fits label) : 3 ≤ (fieldPrefix label).length := by
  obtain ⟨c, hc, -⟩ := h.visible
  unfold fieldPrefix
  simp only [List.length_append, List.length_cons, List.length_nil]
  omega

theorem starts_textLine {label : String} (h : Fits label) {text : List Char}
    (hlength : (fieldPrefix label ++ text).length ≤ cardInnerWidth) :
    ∀ line ∈ writeCardTextLine (fieldPrefix label ++ text), continues line = false := by
  intro line hline
  rw [writeCardTextLine_of_le hlength] at hline
  obtain rfl := List.mem_singleton.mp hline
  obtain ⟨c, hc, hne⟩ := h.visible
  cases hlabel : label.toList with
  | nil =>
    rw [hlabel] at hc
    cases hc
  | cons d cs =>
    rw [hlabel] at hc
    obtain rfl : d = c := by simpa using hc
    simpa [continues, fieldPrefix, hlabel] using hne

structure FieldLines (label value : String) (first : List Char) (rest : Card) : Prop where
  lines : writeCardFieldFull label value = first :: rest
  starts : continues first = false
  goOn : ∀ line ∈ rest, continues line = true
  shows : ∃ n, (first :: rest).flatMap (fieldBody (fieldPrefix label).length) =
    sanitizeForTty value.toList ++ spaces n

theorem continues_textLine {n : ℕ} (hn : 3 ≤ n) {segment : List Char}
    (h : n + segment.length ≤ cardInnerWidth) :
    ∀ line ∈ writeCardTextLine (spaces n ++ segment), continues line = true := by
  intro line hline
  have hlength : (spaces n ++ segment).length ≤ cardInnerWidth := by
    simpa [spaces] using h
  rw [writeCardTextLine_of_le hlength] at hline
  obtain rfl := List.mem_singleton.mp hline
  obtain ⟨m, rfl⟩ : ∃ m, n = m + 3 := ⟨n - 3, by omega⟩
  simp [continues, spaces, List.replicate_succ]

theorem fieldLines {label : String} (hlabel : Fits label) (value : String) :
    ∃ first rest, FieldLines label value first rest := by
  have hmax := hlabel.max
  have hwidth : 1 ≤ cardInnerWidth - (fieldPrefix label).length := by omega
  have hsplit : ∃ segment segments, splitByWidth (sanitizeForTty value.toList)
      (cardInnerWidth - (fieldPrefix label).length) (cardInnerWidth - (fieldPrefix label).length) =
        segment :: segments ∧
      (∀ s ∈ segment :: segments, s.length ≤ cardInnerWidth - (fieldPrefix label).length) ∧
      ∃ n, (segment :: segments).flatMap (fun s =>
        s ++ spaces (cardInnerWidth - (fieldPrefix label).length - s.length)) =
          sanitizeForTty value.toList ++ spaces n := by
    unfold splitByWidth
    rw [max_eq_left hwidth]
    have hle : ∀ s ∈ splitLoop _ [] _ (sanitizeForTty value.toList), s.length ≤ _ :=
      fun s hs => length_le_of_mem_splitLoop hwidth (by simp) hs
    have hpadded : ∃ n, (splitLoop (cardInnerWidth - (fieldPrefix label).length) []
        (cardInnerWidth - (fieldPrefix label).length) (sanitizeForTty value.toList)).flatMap (fun s =>
          s ++ spaces (cardInnerWidth - (fieldPrefix label).length - s.length)) =
        [] ++ sanitizeForTty value.toList ++ spaces n := padded_splitLoop hwidth (Nat.zero_le _)
    obtain ⟨n, hn⟩ := hpadded
    cases hlines : splitLoop (cardInnerWidth - (fieldPrefix label).length) []
        (cardInnerWidth - (fieldPrefix label).length) (sanitizeForTty value.toList) with
    | nil =>
      rw [hlines] at hn
      refine ⟨[], [], rfl, by simp, cardInnerWidth - (fieldPrefix label).length, ?_⟩
      have hempty : sanitizeForTty value.toList = [] := by
        have hlength := congrArg List.length hn
        rw [List.nil_append, List.length_append, List.flatMap_nil, List.length_nil] at hlength
        exact List.length_eq_zero_iff.mp (by omega)
      rw [hempty]
      simp
    | cons segment segments =>
      rw [hlines] at hn hle
      exact ⟨segment, segments, rfl, hle, n, hn⟩
  obtain ⟨segment, segments, hsegments, hle, n, hn⟩ := hsplit
  have hfield : writeCardFieldFull label value = writeCardTextLine (fieldPrefix label ++ segment) ++
      segments.flatMap fun s => writeCardTextLine (spaces (fieldPrefix label).length ++ s) := by
    unfold writeCardFieldFull writeCardField
    dsimp only
    rw [List.length_replicate, hsegments]
    rfl
  obtain ⟨first, hfirst⟩ : ∃ first, writeCardTextLine (fieldPrefix label ++ segment) = [first] := ⟨_, rfl⟩
  refine ⟨first, segments.flatMap fun s => writeCardTextLine (spaces (fieldPrefix label).length ++ s),
    ?_, ?_, ?_, n, ?_⟩
  · rw [hfield, hfirst]
    rfl
  · have hlength : (fieldPrefix label ++ segment).length ≤ cardInnerWidth := by
      have := hle segment (List.mem_cons_self ..)
      rw [List.length_append]
      omega
    exact starts_textLine hlabel hlength first (by rw [hfirst]; exact List.mem_singleton_self _)
  · intro line hline
    obtain ⟨s, hs, hline⟩ := List.mem_flatMap.mp hline
    have := hle s (List.mem_cons_of_mem _ hs)
    exact continues_textLine hlabel.min (by omega) line hline
  · rw [← hn, ← List.singleton_append, List.flatMap_append, ← hfirst,
      fieldBody_textLine (hle segment (List.mem_cons_self ..)) hlabel.max.le, List.flatMap_cons,
      List.flatMap_assoc]
    refine congrArg _ (List.flatMap_congr fun s hs => ?_)
    have hspaces : (spaces (fieldPrefix label).length).length = (fieldPrefix label).length :=
      List.length_replicate
    have hbody : (writeCardTextLine (spaces (fieldPrefix label).length ++ s)).flatMap
        (fieldBody (spaces (fieldPrefix label).length).length) = _ :=
      fieldBody_textLine (by rw [hspaces]; exact hle s (List.mem_cons_of_mem _ hs))
        (by rw [hspaces]; exact hlabel.max.le)
    rwa [hspaces] at hbody

/-- What follows a field on the card. -/
def Card.Starts (card : Card) : Prop := ∀ line ∈ card.head?, continues line = false

theorem takeWhile_continues {rest R : Card} (hrest : ∀ line ∈ rest, continues line = true)
    (hR : R.Starts) : (rest ++ R).takeWhile continues = rest := by
  rw [List.takeWhile_append_of_pos hrest]
  cases R with
  | nil => simp
  | cons line R => simp [hR line rfl]

/-- Two fields of one name, each followed by something else. -/
theorem field_append_inj {label v₁ v₂ : String} {R₁ R₂ : Card} (hlabel : Fits label)
    (h₁ : R₁.Starts) (h₂ : R₂.Starts)
    (h : writeCardFieldFull label v₁ ++ R₁ = writeCardFieldFull label v₂ ++ R₂) :
    writeCardFieldFull label v₁ = writeCardFieldFull label v₂ ∧ R₁ = R₂ := by
  obtain ⟨first₁, rest₁, hf₁⟩ := fieldLines hlabel v₁
  obtain ⟨first₂, rest₂, hf₂⟩ := fieldLines hlabel v₂
  rw [hf₁.lines, hf₂.lines] at h ⊢
  obtain ⟨rfl, htail⟩ := List.cons.inj h
  have hrest : rest₁ = rest₂ := by
    rw [← takeWhile_continues hf₁.goOn h₁, ← takeWhile_continues hf₂.goOn h₂]
    exact congrArg _ htail
  subst hrest
  exact ⟨rfl, List.append_cancel_left htail⟩

/-- A field tells its value up to spaces at the end. -/
theorem value_of_field {label v₁ v₂ : String} (hlabel : Fits label)
    (h : writeCardFieldFull label v₁ = writeCardFieldFull label v₂) :
    ∃ k, v₁.toList = v₂.toList ++ spaces k ∨ v₂.toList = v₁.toList ++ spaces k := by
  obtain ⟨first₁, rest₁, hf₁⟩ := fieldLines hlabel v₁
  obtain ⟨first₂, rest₂, hf₂⟩ := fieldLines hlabel v₂
  obtain ⟨n₁, hn₁⟩ := hf₁.shows
  obtain ⟨n₂, hn₂⟩ := hf₂.shows
  rw [hf₁.lines, hf₂.lines] at h
  rw [h, hn₂] at hn₁
  obtain ⟨k, hk | hk⟩ := padded_of_eq hn₁
  · rw [← sanitizeForTty_append_spaces] at hk
    exact ⟨k, .inr (sanitizeForTty_injective hk)⟩
  · rw [← sanitizeForTty_append_spaces] at hk
    exact ⟨k, .inl (sanitizeForTty_injective hk)⟩

theorem eq_of_field {label v₁ v₂ : String} (hlabel : Fits label)
    (h : writeCardFieldFull label v₁ = writeCardFieldFull label v₂) (h₁ : ' ' ∉ v₁.toList)
    (h₂ : ' ' ∉ v₂.toList) : v₁ = v₂ := by
  have hnone : ∀ {a b : List Char} {k : ℕ}, ' ' ∉ a → a = b ++ spaces k → a = b := by
    intro a b k ha hab
    cases k with
    | zero => simpa [spaces] using hab
    | succ k =>
      refine absurd ?_ ha
      rw [hab]
      simp [spaces]
  obtain ⟨k, hk | hk⟩ := value_of_field hlabel h
  · exact String.toList_inj.mp (hnone h₁ hk)
  · exact String.toList_inj.mp (hnone h₂ hk).symm

theorem starts_field {label : String} (hlabel : Fits label) (value : String) (R : Card) :
    Card.Starts (writeCardFieldFull label value ++ R) := by
  obtain ⟨first, rest, hf⟩ := fieldLines hlabel value
  rw [hf.lines]
  intro line hline
  obtain rfl : first = line := by simpa using hline
  exact hf.starts

theorem starts_preview {label : String} (hlabel : Fits label) (value : String) (R : Card) :
    Card.Starts (writeCardFieldPreview label value ++ R) := by
  have hlength : (fieldPrefix label ++ truncateChars (sanitizeForTty value.toList)
      (cardInnerWidth - (fieldPrefix label).length)).length ≤ cardInnerWidth := by
    have hle := length_truncateChars_le (sanitizeForTty value.toList)
      (cardInnerWidth - (fieldPrefix label).length)
    have hmax := hlabel.max
    rw [List.length_append]
    omega
  intro line hline
  refine starts_textLine hlabel hlength line ?_
  exact List.mem_singleton.mpr (Option.some.inj hline).symm

theorem starts_border (R : Card) : Card.Starts (writeCardBorder ++ R) := by
  intro line hline
  obtain rfl := (Option.some.inj hline).symm
  decide

/-! ## Values without spaces -/

theorem nibble_of_decodePairs : ∀ {index : ℕ} {digits bytes : List UInt8}, digits.length % 2 = 0 →
    Hex.decodePairs index digits = .ok bytes → ∀ d ∈ digits, (Hex.nibble d).isSome = true
  | _, [], _, _, _ => fun d hd => nomatch hd
  | _, [_], _, hodd, _ => absurd hodd (by simp)
  | index, hi :: lo :: rest, bytes, heven, h => by
    obtain ⟨high, hhigh, h⟩ := bind_eq_ok h
    obtain ⟨low, hlow, h⟩ := bind_eq_ok h
    obtain ⟨tail, htail, -⟩ := bind_eq_ok h
    have hval : ∀ {d value : UInt8} {i : ℕ}, Hex.val d i = .ok value → (Hex.nibble d).isSome = true := by
      intro d value i hd
      unfold Hex.val at hd
      split at hd
      · next n hn => rw [hn]; rfl
      · cases hd
    have heven' : rest.length % 2 = 0 := by
      rw [List.length_cons, List.length_cons] at heven
      omega
    have hrest := nibble_of_decodePairs heven' htail
    intro d hd
    rcases List.mem_cons.mp hd with rfl | hd
    · exact hval hhigh
    rcases List.mem_cons.mp hd with rfl | hd
    · exact hval hlow
    · exact hrest d hd

/-- No text with a space in it is hexadecimal. -/
theorem space_not_mem_of_decodeHexBytes {input : String} {bytes : List UInt8}
    (h : decodeHexBytes input = .ok bytes) : ' ' ∉ input.toList := by
  intro hmem
  have hstripped : ' ' ∈ stripHexMarker input.toList := by
    unfold stripHexMarker
    split
    · next cs heq =>
      rw [heq] at hmem
      simpa using hmem
    · exact hmem
  have hdecoded := mapError_eq_ok h
  unfold Hex.decode at hdecoded
  split_ifs at hdecoded with hodd
  have hspace : (0x20 : UInt8) ∈ (stripHexMarker input.toList).flatMap String.utf8EncodeChar :=
    List.mem_flatMap.mpr ⟨' ', hstripped, by decide⟩
  exact absurd (nibble_of_decodePairs (not_not.mp hodd) hdecoded _ hspace) (by decide)

theorem isDigit_of_mem_toString {n : ℕ} {c : Char} (h : c ∈ (toString n).toList) :
    c.isDigit = true := by
  rw [Nat.toString_eq_repr, Nat.toList_repr] at h
  exact Nat.isDigit_of_mem_toDigits (by decide) (by decide) h

theorem space_not_mem_toString (n : ℕ) : ' ' ∉ (toString n).toList := by
  intro hmem
  exact absurd (isDigit_of_mem_toString hmem) (by decide)

theorem toString_nat_inj {n m : ℕ} (h : toString n = toString m) : n = m := by
  have hdigits := congrArg String.toList h
  rw [Nat.toString_eq_repr, Nat.toString_eq_repr, Nat.toList_repr, Nat.toList_repr] at hdigits
  rw [← Nat.ofDigitChars_ten_toDigits (n := n), hdigits, Nat.ofDigitChars_ten_toDigits]

theorem length_utf8_spaces (k : ℕ) : ((spaces k).flatMap String.utf8EncodeChar).length = k := by
  unfold spaces
  induction k with
  | zero => rfl
  | succ k ih =>
    have hone : (String.utf8EncodeChar ' ').length = 1 := by decide
    rw [List.replicate_succ, List.flatMap_cons, List.length_append, ih, hone]
    omega

/-- A text is as long as its bytes say: spaces at its end would show. -/
theorem eq_of_padded_utf8 {v₁ v₂ : String} (hlength : (Text.utf8 v₁).length = (Text.utf8 v₂).length)
    {k : ℕ} (h : v₁.toList = v₂.toList ++ spaces k) : v₁ = v₂ := by
  unfold Text.utf8 at hlength
  rw [h, List.flatMap_append, List.length_append, length_utf8_spaces] at hlength
  have hk : k = 0 := by omega
  subst hk
  exact String.toList_inj.mp (by simpa [spaces] using h)

/-! ## The view -/

section View

variable (vm : Vm1)

@[simp] theorem square_preview (label value : String) : (writeCardFieldPreview label value).Square :=
  square_field label value false

@[simp] theorem square_full (label value : String) : (writeCardFieldFull label value).Square :=
  square_field label value true

@[simp] theorem square_numbered (label : ℕ → String) (values : List String) :
    (Vm1.writeNumbered label values).Square := square_flatMap fun _ => square_full _ _

@[simp] theorem square_typeArgs (tyArgs : List TypeTag) : (vm.writeTypeArgs tyArgs).Square := by
  unfold Vm1.writeTypeArgs
  split_ifs <;> simp

@[simp] theorem square_transferFields (f : EntryFunction) : (vm.writeTransferFields f).Square := by
  unfold Vm1.writeTransferFields
  split
  · split <;> simp
  · simp

theorem square_decodedTransactionFields (rawTxn : RawUserTransaction) :
    (vm.writeDecodedTransactionFields rawTxn true).Square := by
  unfold Vm1.writeDecodedTransactionFields
  split
  · simp [Vm1.writeScriptFields, Vm1.writeRawArguments]
  · simp [Vm1.writeScriptFunctionFields, Vm1.writeRawArguments]
  · simp [Vm1.writePackageFields]

theorem square_payloadDetails (request : PulledRequest) : (vm.writePayloadDetails request).Square := by
  unfold Vm1.writePayloadDetails
  split
  · split
    · split
      · simp [square_decodedTransactionFields]
      · simp
    · simp
  · split <;> split <;> simp
  · simp
  · simp
  · simp

theorem square_rawPayloadDetails (request : PulledRequest) : (vm.rawPayloadDetails request).Square := by
  unfold Vm1.rawPayloadDetails writeTitle
  simp [square_payloadDetails]

/-- What ends the view. -/
def backSection : Card :=
  writeCardSectionHeading "Back" ++
  writeCardTextLine "Press enter on the next prompt and choose approve or reject.".toList ++
  writeCardBorder

theorem starts_heading (heading : String) (R : Card) :
    Card.Starts (writeCardSectionHeading heading ++ R) := by
  unfold writeCardSectionHeading
  rw [List.append_assoc]
  exact starts_border _

theorem starts_payloadDetails (request : PulledRequest) (R : Card) :
    Card.Starts (vm.writePayloadDetails request ++ R) := by
  unfold Vm1.writePayloadDetails
  split <;> simp only [List.append_assoc] <;> exact starts_heading _ _

variable {vm} {r₁ r₂ : PulledRequest}

/-- Up to the payload, one field after the other. -/
theorem payload_of_view (h : vm.rawPayloadDetails r₁ = vm.rawPayloadDetails r₂) :
    vm.writePayloadDetails r₁ ++ backSection = vm.writePayloadDetails r₂ ++ backSection := by
  have hview : ∀ r, vm.rawPayloadDetails r = writeTitle "Starmask Canonical Payload Details" ++
      (writeCardSectionHeading "Diagnostics" ++ (writeCardFieldFull "Request ID" r.requestId.value ++
      (writeCardFieldFull "Payload Hash" r.payloadHash.value ++
      (writeCardFieldFull "Client Request ID (untrusted)" r.clientRequestId.value ++
      (vm.writePayloadDetails r ++ backSection))))) := by
    intro r
    unfold Vm1.rawPayloadDetails backSection
    simp only [List.append_assoc]
  rw [hview, hview] at h
  have hdiagnostics := List.append_cancel_left (List.append_cancel_left h)
  obtain ⟨-, hhash⟩ := field_append_inj (by decide) (starts_field (by decide) _ _)
    (starts_field (by decide) _ _) hdiagnostics
  obtain ⟨-, hclient⟩ := field_append_inj (by decide) (starts_field (by decide) _ _)
    (starts_field (by decide) _ _) hhash
  exact (field_append_inj (by decide) (starts_payloadDetails vm _ _) (starts_payloadDetails vm _ _)
    hclient).2

theorem heading_append_inj {heading₁ heading₂ : String} {R₁ R₂ : Card}
    (h : writeCardSectionHeading heading₁ ++ R₁ = writeCardSectionHeading heading₂ ++ R₂) :
    writeCardTextLine heading₁.toList = writeCardTextLine heading₂.toList ∧ R₁ = R₂ := by
  obtain ⟨-, htail⟩ := List.cons.inj h
  obtain ⟨hline, hrest⟩ := List.cons.inj htail
  exact ⟨congrArg (fun line => [line]) hline, hrest⟩

/-- What follows the bytes of a raw transaction in the view. -/
def transactionRest (vm : Vm1) (rawTxnBcsHex : String) : Card :=
  match vm.decodeRawTransaction rawTxnBcsHex with
  | .ok rawTxn => vm.writeDecodedTransactionFields rawTxn true
  | .error error => writeCardFieldFull "Decode Error" error

theorem starts_transactionRest (rawTxnBcsHex : String) (R : Card) :
    Card.Starts (transactionRest vm rawTxnBcsHex ++ R) := by
  unfold transactionRest
  split
  · unfold Vm1.writeDecodedTransactionFields
    simp only [List.append_assoc]
    exact starts_preview (by decide) _ _
  · exact starts_field (by decide) _ _

/-- A transaction that can be signed, and what the view shows of it. -/
theorem view_of_transaction (vm : Vm1) {r : PulledRequest} {bytes : List UInt8}
    (hkind : r.kind = .signTransaction)
    (h : transactionToSign r = .ok bytes) :
    ∃ hex, decodeHexBytes hex = .ok bytes ∧ vm.writePayloadDetails r ++ backSection =
      writeCardSectionHeading "Raw Transaction" ++ (writeCardFieldFull "Raw Transaction BCS" hex ++
        (transactionRest vm hex ++ backSection)) := by
  obtain ⟨hex, hhex, h⟩ := bind_eq_ok h
  refine ⟨hex, mapError_eq_ok h, ?_⟩
  unfold Vm1.writePayloadDetails
  rw [hkind, of_required hhex]
  simp only [List.append_assoc]
  rfl

/-- A message that can be signed, and what the view shows of it. -/
theorem view_of_message (vm : Vm1) {r : PulledRequest} {bytes : List UInt8} (hkind : r.kind = .signMessage)
    (h : messageToSign r = .ok bytes) :
    ∃ message format, decodeSigningMessage message format = .ok bytes ∧
      vm.writePayloadDetails r ++ backSection = writeCardSectionHeading "Canonical Message" ++
        (writeCardFieldFull "Message Format" (messageFormatLabel format) ++
        (writeCardFieldFull "Message" message ++
        (writeCardFieldFull "Byte Length" (toString bytes.length) ++ backSection))) := by
  obtain ⟨message, hmessage, h⟩ := bind_eq_ok h
  obtain ⟨format, hformat, h⟩ := bind_eq_ok h
  have hdecode := mapError_eq_ok h
  refine ⟨message, format, hdecode, ?_⟩
  have hlen : canonicalMessageByteLen r = .ok (some bytes.length) := by
    unfold canonicalMessageByteLen
    rw [of_required hmessage, of_required hformat]
    cases format with
    | utf8 =>
      obtain rfl := Except.ok.inj hdecode
      rfl
    | hex =>
      have hbytes : decodeHexBytes message = .ok bytes := hdecode
      dsimp only
      rw [hbytes]
      rfl
  unfold Vm1.writePayloadDetails
  rw [hkind, hlen, of_required hmessage, of_required hformat]
  simp only [List.append_assoc]
  rfl

theorem messageFormatLabel_injective : Function.Injective messageFormatLabel := by
  intro a b h
  cases a <;> cases b <;> first | rfl | exact absurd h (by decide)

theorem eq_of_transactionView {hex₁ hex₂ : String} {bytes₁ bytes₂ : List UInt8} {R₁ R₂ : Card}
    (h₁ : decodeHexBytes hex₁ = .ok bytes₁) (h₂ : decodeHexBytes hex₂ = .ok bytes₂)
    (hR₁ : R₁.Starts) (hR₂ : R₂.Starts)
    (h : writeCardFieldFull "Raw Transaction BCS" hex₁ ++ R₁ =
      writeCardFieldFull "Raw Transaction BCS" hex₂ ++ R₂) : bytes₁ = bytes₂ := by
  obtain ⟨hfield, -⟩ := field_append_inj (by decide) hR₁ hR₂ h
  have hhex : hex₁ = hex₂ := eq_of_field (by decide) hfield (space_not_mem_of_decodeHexBytes h₁)
    (space_not_mem_of_decodeHexBytes h₂)
  subst hhex
  exact Except.ok.inj (h₁.symm.trans h₂)

theorem eq_of_messageView {message₁ message₂ : String} {format₁ format₂ : MessageFormat}
    {bytes₁ bytes₂ : List UInt8} (h₁ : decodeSigningMessage message₁ format₁ = .ok bytes₁)
    (h₂ : decodeSigningMessage message₂ format₂ = .ok bytes₂)
    (h : writeCardFieldFull "Message Format" (messageFormatLabel format₁) ++
        (writeCardFieldFull "Message" message₁ ++
        (writeCardFieldFull "Byte Length" (toString bytes₁.length) ++ backSection)) =
      writeCardFieldFull "Message Format" (messageFormatLabel format₂) ++
        (writeCardFieldFull "Message" message₂ ++
        (writeCardFieldFull "Byte Length" (toString bytes₂.length) ++ backSection))) :
    bytes₁ = bytes₂ := by
  obtain ⟨hformat, hrest⟩ := field_append_inj (by decide) (starts_field (by decide) _ _)
    (starts_field (by decide) _ _) h
  obtain ⟨hmessage, hrest⟩ := field_append_inj (by decide) (starts_field (by decide) _ _)
    (starts_field (by decide) _ _) hrest
  obtain ⟨hlength, -⟩ := field_append_inj (by decide) (starts_heading _ _) (starts_heading _ _) hrest
  have hlabel : ∀ format, ' ' ∉ (messageFormatLabel format).toList := by
    intro format
    cases format <;> decide
  have heq : format₁ = format₂ :=
    messageFormatLabel_injective (eq_of_field (by decide) hformat (hlabel _) (hlabel _))
  have hbytes : bytes₁.length = bytes₂.length :=
    toString_nat_inj (eq_of_field (by decide) hlength (space_not_mem_toString _) (space_not_mem_toString _))
  subst heq
  have hsame : message₁ = message₂ := by
    cases format₁ with
    | hex =>
      have hno₁ := space_not_mem_of_decodeHexBytes h₁
      have hno₂ := space_not_mem_of_decodeHexBytes h₂
      exact eq_of_field (by decide) hmessage hno₁ hno₂
    | utf8 =>
      -- the byte length tells how many of the spaces belong to the message
      obtain rfl := Except.ok.inj h₁
      obtain rfl := Except.ok.inj h₂
      obtain ⟨k, hk | hk⟩ := value_of_field (by decide) hmessage
      · exact eq_of_padded_utf8 hbytes hk
      · exact (eq_of_padded_utf8 hbytes.symm hk).symm
  subst hsame
  exact Except.ok.inj (h₁.symm.trans h₂)

end View

/-- What you view is what you sign: requests the raw view shows alike are of one kind and are
signed as the same bytes. -/
theorem raw_view_determines_signed_bytes (vm : Vm1) {r₁ r₂ : PulledRequest} {bytes₁ bytes₂ : List UInt8}
    (h₁ : Signs r₁ bytes₁) (h₂ : Signs r₂ bytes₂)
    (hview : vm.renderRawPayloadDetails r₁ = vm.renderRawPayloadDetails r₂) :
    r₁.kind = r₂.kind ∧ bytes₁ = bytes₂ := by
  have hcards := (square_rawPayloadDetails vm r₁).eq_of_text (square_rawPayloadDetails vm r₂) hview
  have hpayload := payload_of_view hcards
  rcases h₁ with ⟨hkind₁, h₁⟩ | ⟨hkind₁, h₁⟩ <;> rcases h₂ with ⟨hkind₂, h₂⟩ | ⟨hkind₂, h₂⟩
  · refine ⟨hkind₁.trans hkind₂.symm, ?_⟩
    obtain ⟨hex₁, hbytes₁, hlines₁⟩ := view_of_transaction vm hkind₁ h₁
    obtain ⟨hex₂, hbytes₂, hlines₂⟩ := view_of_transaction vm hkind₂ h₂
    rw [hlines₁, hlines₂] at hpayload
    exact eq_of_transactionView hbytes₁ hbytes₂ (starts_transactionRest _ _)
      (starts_transactionRest _ _) (heading_append_inj hpayload).2
  · obtain ⟨_, _, hlines₁⟩ := view_of_transaction vm hkind₁ h₁
    obtain ⟨_, _, _, hlines₂⟩ := view_of_message vm hkind₂ h₂
    rw [hlines₁, hlines₂] at hpayload
    exact absurd (heading_append_inj hpayload).1 (by decide)
  · obtain ⟨_, _, _, hlines₁⟩ := view_of_message vm hkind₁ h₁
    obtain ⟨_, _, hlines₂⟩ := view_of_transaction vm hkind₂ h₂
    rw [hlines₁, hlines₂] at hpayload
    exact absurd (heading_append_inj hpayload).1 (by decide)
  · refine ⟨hkind₁.trans hkind₂.symm, ?_⟩
    obtain ⟨message₁, format₁, hbytes₁, hlines₁⟩ := view_of_message vm hkind₁ h₁
    obtain ⟨message₂, format₂, hbytes₂, hlines₂⟩ := view_of_message vm hkind₂ h₂
    rw [hlines₁, hlines₂] at hpayload
    exact eq_of_messageView hbytes₁ hbytes₂ (heading_append_inj hpayload).2

namespace Sample

/-- A message with a space at its end and a line break in it. -/
def messageRequest (displayHint : Option String) : PulledRequest where
  requestId := ⟨"request-1", .refl false⟩
  clientRequestId := ⟨"client-1", .refl false⟩
  kind := .signMessage
  accountAddress := "0x1"
  payloadHash := ⟨"digest", .refl false⟩
  displayHint := displayHint
  clientContext := none
  resumeRequired := false
  deliveryLeaseId := none
  leaseExpiresAt := none
  presentationId := none
  presentationExpiresAt := none
  rawTxnBcsHex := none
  message := some "pay\n5 "
  messageFormat := some .utf8
  outputFile := none
  force := false
  privateKeyFile := none

end Sample

open Sample in
theorem raw_view_determines_signed_bytes_message : ∃ bytes₁ bytes₂,
    Signs (messageRequest none) bytes₁ ∧ Signs (messageRequest (some "tip")) bytes₂ ∧
    vm.renderRawPayloadDetails (messageRequest none) =
      vm.renderRawPayloadDetails (messageRequest (some "tip")) ∧
    (messageRequest none).kind = (messageRequest (some "tip")).kind ∧ bytes₁ = bytes₂ := by
  have hsigns : ∀ hint, Signs (messageRequest hint) (Text.utf8 "pay\n5 ") := fun _ => .inr ⟨rfl, rfl⟩
  have hview : vm.renderRawPayloadDetails (messageRequest none) =
      vm.renderRawPayloadDetails (messageRequest (some "tip")) := rfl
  exact ⟨_, _, hsigns none, hsigns (some "tip"), hview,
    raw_view_determines_signed_bytes vm (hsigns none) (hsigns (some "tip")) hview⟩

end StarcoinMcp.Agent
