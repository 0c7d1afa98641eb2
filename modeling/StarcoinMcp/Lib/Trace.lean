import Mathlib.Data.List.Induction
import Mathlib.Data.List.Infix

/-! Runs of a deterministic system and what can be said about their past. A run is
the list of its inputs; a point of the run is a prefix of that list. `Throughout`
speaks of all the points of a stretch, `Since` of an input in the past and all the
points after it. Both are built up input by input, at the end of the list. -/

namespace StarcoinMcp.Trace

variable {σ α : Type}

def run (step : σ → α → σ) (s : σ) (xs : List α) : σ := xs.foldl step s

section Run

variable {step : σ → α → σ} {s : σ} {xs ys : List α}

@[simp] theorem run_nil : run step s [] = s := rfl

@[simp] theorem run_cons {x : α} : run step s (x :: xs) = run step (step s x) xs := rfl

theorem run_append : run step s (xs ++ ys) = run step (run step s xs) ys := List.foldl_append

theorem run_snoc {x : α} : run step s (xs ++ [x]) = step (run step s xs) x := by
  rw [run_append]
  rfl

theorem run_invariant {Inv : σ → Prop} (hstep : ∀ s x, Inv s → Inv (step s x)) (h : Inv s)
    (xs : List α) : Inv (run step s xs) := by
  induction xs generalizing s with
  | nil => exact h
  | cons x xs ih => exact ih (hstep s x h)

/-- Every input of the run meets the condition, in the state it is given in. -/
def Along (step : σ → α → σ) (P : σ → α → Prop) : σ → List α → Prop
  | _, [] => True
  | s, x :: xs => P s x ∧ Along step P (step s x) xs

instance Along.decidable {P : σ → α → Prop} [∀ s x, Decidable (P s x)] :
    ∀ (s : σ) (xs : List α), Decidable (Along step P s xs)
  | _, [] => inferInstanceAs (Decidable True)
  | s, x :: xs =>
    have : Decidable (Along step P (step s x) xs) := Along.decidable (step s x) xs
    inferInstanceAs (Decidable (P s x ∧ Along step P (step s x) xs))

theorem along_append {P : σ → α → Prop} :
    Along step P s (xs ++ ys) ↔ Along step P s xs ∧ Along step P (run step s xs) ys := by
  induction xs generalizing s with
  | nil => simp [Along]
  | cons x xs ih => simp [Along, ih, and_assoc]

/-- The condition at one input of the run. -/
theorem Along.at_split {P : σ → α → Prop} {x : α} (h : Along step P s (xs ++ x :: ys)) :
    P (run step s xs) x := (along_append.mp h).2.1

/-- What every admitted input preserves, at every point of the run. -/
theorem Along.invariant {P : σ → α → Prop} {Inv : σ → Prop} (h : Along step P s xs) (hs : Inv s)
    (hstep : ∀ s x, Inv s → P s x → Inv (step s x)) : ∀ ys, ys <+: xs → Inv (run step s ys) := by
  induction xs generalizing s with
  | nil =>
    intro ys hys
    rw [List.prefix_nil.mp hys]
    exact hs
  | cons x xs ih =>
    intro ys hys
    cases ys with
    | nil => exact hs
    | cons y ys =>
      obtain ⟨rfl, hrest⟩ := List.cons_prefix_cons.mp hys
      exact ih h.2 (hstep s y hs h.1) ys hrest

/-- As long as something is left to do, the same input does some of it. -/
theorem run_replicate_descends {x : α} {P : σ → Prop} {μ : σ → ℕ}
    (hstep : ∀ s, P s → 0 < μ s → P (step s x) ∧ μ (step s x) < μ s) (s : σ) (hs : P s) :
    ∃ n ≤ μ s, P (run step s (List.replicate n x)) ∧ μ (run step s (List.replicate n x)) = 0 := by
  induction hμ : μ s using Nat.strong_induction_on generalizing s with
  | _ m ih =>
    rcases Nat.eq_zero_or_pos (μ s) with hzero | hpos
    · exact ⟨0, Nat.zero_le _, hs, hzero⟩
    · obtain ⟨hnext, hless⟩ := hstep s hs hpos
      obtain ⟨n, hn, hrest⟩ := ih (μ (step s x)) (hμ ▸ hless) (step s x) hnext rfl
      exact ⟨n + 1, by omega, hrest⟩

theorem along_of_split {P : σ → α → Prop} :
    ∀ {xs : List α} {s : σ}, (∀ ys x zs, xs = ys ++ x :: zs → P (run step s ys) x) → Along step P s xs
  | [], _, _ => trivial
  | x :: xs, s, h =>
    ⟨h [] x xs rfl, along_of_split fun ys y zs e => h (x :: ys) y zs (by rw [e]; rfl)⟩

end Run

/-! ## Stretches of a run -/

/-- `Q` at every point from the end of `xs` to the end of `ys`. -/
def Throughout (Q : List α → Prop) (xs ys : List α) : Prop := ∀ m, m <+: ys → Q (xs ++ m)

section Throughout

variable {Q : List α → Prop} {xs ys zs : List α}

theorem throughout_nil (h : Q xs) : Throughout Q xs [] := by
  intro m hm
  rw [List.prefix_nil.mp hm, List.append_nil]
  exact h

theorem Throughout.start (h : Throughout Q xs ys) : Q xs := by
  simpa using h [] (List.nil_prefix)

theorem Throughout.last (h : Throughout Q xs ys) : Q (xs ++ ys) := h ys (List.prefix_refl ys)

theorem Throughout.snoc {y : α} (h : Throughout Q xs ys) (hy : Q (xs ++ (ys ++ [y]))) :
    Throughout Q xs (ys ++ [y]) := by
  intro m hm
  rcases List.prefix_concat_iff.mp hm with rfl | hm
  · exact hy
  · exact h m hm

theorem Throughout.init (h : Throughout Q xs (ys ++ zs)) : Throughout Q xs ys :=
  fun m hm => h m (hm.trans (List.prefix_append ys zs))

theorem Throughout.append (h : Throughout Q xs ys) (h' : Throughout Q (xs ++ ys) zs) :
    Throughout Q xs (ys ++ zs) := by
  intro m hm
  rcases List.prefix_or_prefix_of_prefix hm (List.prefix_append ys zs) with hle | ⟨m', rfl⟩
  · exact h m hle
  · rw [← List.append_assoc]
    exact h' m' ((List.prefix_append_right_inj ys).mp hm)

theorem Throughout.cons {y : α} (h : Q xs) (h' : Throughout Q (xs ++ [y]) ys) :
    Throughout Q xs (y :: ys) := by
  intro m hm
  cases m with
  | nil => simpa using h
  | cons z m =>
    obtain ⟨rfl, hm'⟩ := List.cons_prefix_cons.mp hm
    simpa using h' m hm'

theorem Throughout.mono {Q' : List α → Prop} (h : Throughout Q xs ys) (hQ : ∀ l, Q l → Q' l) :
    Throughout Q' xs ys := fun m hm => hQ _ (h m hm)

end Throughout

/-! ## Looking back -/

/-- Some input `x`, given after `a`, satisfied `P a x`, and `Q` held at every point since then. -/
def Since (P : List α → α → Prop) (Q : List α → Prop) (xs : List α) : Prop :=
  ∃ a x b, xs = a ++ x :: b ∧ P a x ∧ Throughout Q (a ++ [x]) b

section Since

variable {P : List α → α → Prop} {Q : List α → Prop} {xs : List α}

theorem since_now {x : α} (hP : P xs x) (hQ : Q (xs ++ [x])) : Since P Q (xs ++ [x]) :=
  ⟨xs, x, [], rfl, hP, throughout_nil hQ⟩

theorem Since.snoc {y : α} (h : Since P Q xs) (hy : Q (xs ++ [y])) : Since P Q (xs ++ [y]) := by
  obtain ⟨a, x, b, rfl, hP, hQ⟩ := h
  refine ⟨a, x, b ++ [y], by simp, hP, hQ.snoc ?_⟩
  simpa using hy

theorem Since.now (h : Since P Q xs) : Q xs := by
  obtain ⟨a, x, b, rfl, -, hQ⟩ := h
  simpa using hQ.last

theorem Since.mono {P' : List α → α → Prop} {Q' : List α → Prop} (h : Since P Q xs)
    (hP : ∀ a x, P a x → P' a x) (hQ : ∀ l, Q l → Q' l) : Since P' Q' xs := by
  obtain ⟨a, x, b, rfl, hp, hq⟩ := h
  exact ⟨a, x, b, rfl, hP a x hp, hq.mono hQ⟩

end Since

end StarcoinMcp.Trace
