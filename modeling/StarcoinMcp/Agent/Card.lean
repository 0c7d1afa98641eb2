import Mathlib.Tactic.Common
import StarcoinMcp.Agent.TtyPrompt

/-! The lines of a card: whatever stands in a field, it stays on its own line and behind
its own label. -/

namespace StarcoinMcp.Agent

/-! ## One line -/

theorem length_truncateChars_le (input : List Char) (maxChars : ℕ) :
    (truncateChars input maxChars).length ≤ maxChars := by
  unfold truncateChars
  split_ifs with hfits hshort
  · exact hfits
  · rw [List.length_take]
    exact Nat.min_le_left ..
  · rw [List.length_append, List.length_take]
    omega

theorem truncateChars_of_le {input : List Char} {maxChars : ℕ} (h : input.length ≤ maxChars) :
    truncateChars input maxChars = input := if_pos h

theorem mem_of_mem_truncateChars {c : Char} {input : List Char} {maxChars : ℕ}
    (h : c ∈ truncateChars input maxChars) : c ∈ input ∨ c = '.' := by
  have hsuffix : ∀ {d : Char}, d ∈ previewSuffix → d = '.' := by
    intro d hd
    simpa [previewSuffix] using hd
  unfold truncateChars at h
  split_ifs at h with hfits hshort
  · exact .inl h
  · exact .inr (hsuffix (List.mem_of_mem_take h))
  · rcases List.mem_append.mp h with h | h
    · exact .inl (List.mem_of_mem_take h)
    · exact .inr (hsuffix h)

theorem mem_toDigits {c : Char} {n : ℕ} (h : c ∈ Nat.toDigits 16 n) : c ∈ "0123456789abcdef".toList := by
  induction n using Nat.strongRecOn with
  | ind n ih =>
    have hdigit : ∀ d : Fin 16, Nat.digitChar d ∈ "0123456789abcdef".toList := by decide
    rw [Nat.toDigits_eq_if (by decide)] at h
    split_ifs at h with hlt
    · rw [List.mem_singleton.mp h]
      exact hdigit ⟨n, hlt⟩
    · rcases List.mem_append.mp h with h | h
      · exact ih (n / 16) (by omega) h
      · rw [List.mem_singleton.mp h]
        exact hdigit ⟨n % 16, Nat.mod_lt n (by decide)⟩

/-- A character of an escape is the character itself, where it needs none, or a visible one. -/
theorem mem_sanitizeChar {c d : Char} (h : d ∈ sanitizeChar c) :
    (d = c ∧ d ≠ '\n' ∧ (isControl d || isUnicodeFormatCharacter d) = false) ∨
      d ∈ "\\nrtu\x7b\x7d0123456789abcdef".toList := by
  unfold sanitizeChar at h
  split_ifs at h with hbackslash hnewline hreturn htab hspecial
  · right
    simp only [List.mem_cons, List.not_mem_nil, or_false, or_self] at h
    rw [h]
    decide
  · right
    simp only [List.mem_cons, List.not_mem_nil, or_false] at h
    rcases h with rfl | rfl <;> decide
  · right
    simp only [List.mem_cons, List.not_mem_nil, or_false] at h
    rcases h with rfl | rfl <;> decide
  · right
    simp only [List.mem_cons, List.not_mem_nil, or_false] at h
    rcases h with rfl | rfl <;> decide
  · right
    have hsub : ∀ l ∈ ["\\u\x7b", "0123456789abcdef", "\x7d"], ∀ d ∈ l.toList,
        d ∈ "\\nrtu\x7b\x7d0123456789abcdef".toList := by decide
    rcases List.mem_append.mp h with h | h
    · rcases List.mem_append.mp h with h | h
      · exact hsub "\\u\x7b" (by decide) d h
      · exact hsub "0123456789abcdef" (by decide) d (mem_toDigits h)
    · exact hsub "\x7d" (by decide) d h
  · left
    obtain rfl := List.mem_singleton.mp h
    exact ⟨rfl, hnewline, by simpa using hspecial⟩

theorem newline_not_mem_sanitizeForTty (input : List Char) : '\n' ∉ sanitizeForTty input := by
  unfold sanitizeForTty
  rw [List.mem_flatMap]
  rintro ⟨c, -, hc⟩
  rcases mem_sanitizeChar hc with ⟨-, hnewline, -⟩ | hvisible
  · exact hnewline rfl
  · exact absurd hvisible (by decide)

/-- A line that ends nowhere before its end and starts with `lead`. -/
structure LineOf (lead line : List Char) : Prop where
  whole : '\n' ∉ line
  starts : lead <+: line

theorem lineOf_border : ∀ line ∈ writeCardBorder, LineOf ['+'] line := by
  intro line hline
  obtain rfl := List.mem_singleton.mp hline
  exact ⟨by decide, by decide⟩

theorem lineOf_textLine {lead text : List Char} (hwhole : '\n' ∉ lead ++ text)
    (hlength : (lead ++ text).length ≤ cardInnerWidth) :
    ∀ line ∈ writeCardTextLine (lead ++ text), LineOf ('|' :: ' ' :: lead) line := by
  intro line hline
  unfold writeCardTextLine at hline
  rw [truncateChars_of_le hlength] at hline
  obtain rfl := List.mem_singleton.mp hline
  refine ⟨?_, ?_⟩
  · simpa [List.mem_append, List.mem_replicate] using hwhole
  · refine ⟨text ++ List.replicate (cardInnerWidth - (lead ++ text).length) ' ' ++ [' ', '|'], ?_⟩
    simp

theorem lineOf_preview {label : String} (value : String) (hwhole : '\n' ∉ fieldPrefix label)
    (hlength : (fieldPrefix label).length ≤ cardInnerWidth) :
    ∀ line ∈ writeCardFieldPreview label value,
      LineOf ('|' :: ' ' :: fieldPrefix label) line := by
  refine lineOf_textLine ?_ ?_
  · rw [List.mem_append]
    rintro (h | h)
    · exact hwhole h
    · rcases mem_of_mem_truncateChars h with h | h
      · exact newline_not_mem_sanitizeForTty _ h
      · exact absurd h (by decide)
  · have := length_truncateChars_le (sanitizeForTty value.toList)
      (cardInnerWidth - (fieldPrefix label).length)
    rw [List.length_append]
    omega

/-! ## Whole cards -/

/-- Every line of the card starts with one of `leads`. -/
def Card.Within (leads : List (List Char)) (card : Card) : Prop :=
  ∀ line ∈ card, ∃ lead ∈ leads, LineOf lead line

theorem within_nil {leads : List (List Char)} : Card.Within leads [] := by
  intro line hline
  cases hline

theorem Card.Within.append {leads : List (List Char)} {card card' : Card}
    (h : card.Within leads) (h' : card'.Within leads) : Card.Within leads (card ++ card') := by
  intro line hline
  rcases List.mem_append.mp hline with hline | hline
  · exact h line hline
  · exact h' line hline

/-- The lines of a card's text are the card, between empty lines. -/
theorem splitOn_text {card : Card} (h : ∀ line ∈ card, '\n' ∉ line) :
    card.text.splitOn '\n' = [] :: card ++ [[], []] := by
  induction card with
  | nil => rfl
  | cons line card ih =>
    have hrest := ih fun line' hline' => h line' (List.mem_cons_of_mem _ hline')
    have htext : Card.text (line :: card) = [] ++ '\n' :: (line ++ Card.text card) := by
      simp [Card.text]
    have hcard : line ++ Card.text card = line ++ '\n' :: (card.flatMap (· ++ ['\n']) ++ ['\n']) :=
      rfl
    have hbare : (card.flatMap (· ++ ['\n']) ++ ['\n']).splitOn '\n' = card ++ [[], []] := by
      have hsplit : ([] ++ '\n' :: (card.flatMap (· ++ ['\n']) ++ ['\n'])).splitOn '\n' =
          [] :: (card.flatMap (· ++ ['\n']) ++ ['\n']).splitOn '\n' :=
        List.splitOn_append_cons_self_of_not_mem (by simp) _
      exact (List.cons.inj (hsplit.symm.trans hrest)).2
    rw [htext, List.splitOn_append_cons_self_of_not_mem (by simp), hcard,
      List.splitOn_append_cons_self_of_not_mem (h line (List.mem_cons_self ..)), hbare]
    rfl

/-- The text has a line for the field `label`. -/
def ShowsField (label : String) (text : List Char) : Prop :=
  ∃ line ∈ text.splitOn '\n', ('|' :: ' ' :: fieldPrefix label) <+: line

/-- A field that none of the leads could be taken for is not on the card. -/
theorem Card.Within.not_showsField {leads : List (List Char)} {card : Card} {label : String}
    (h : card.Within leads)
    (hleads : ∀ lead ∈ leads, ¬ lead <+: '|' :: ' ' :: fieldPrefix label ∧
      ¬ '|' :: ' ' :: fieldPrefix label <+: lead) : ¬ ShowsField label card.text := by
  rintro ⟨line, hline, hstarts⟩
  have hwhole : ∀ line ∈ card, '\n' ∉ line := by
    intro line hline
    obtain ⟨lead, -, hlead⟩ := h line hline
    exact hlead.whole
  rw [splitOn_text hwhole] at hline
  have hcard : line ∈ card ∨ line = [] := by
    simpa [or_comm, or_assoc] using hline
  rcases hcard with hline | rfl
  · obtain ⟨lead, hmem, hlead⟩ := h line hline
    rcases List.prefix_or_prefix_of_prefix hlead.starts hstarts with hle | hle
    · exact (hleads lead hmem).1 hle
    · exact (hleads lead hmem).2 hle
  · exact absurd (List.prefix_nil.mp hstarts) (List.cons_ne_nil _ _)

end StarcoinMcp.Agent
