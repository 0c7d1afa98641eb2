import Mathlib.Logic.Basic

/-! Computations that may fail part way. The state written before a failure is
kept, as it is when a method on `&mut self` returns early with an error: a result
comes together with the state reached, whether it is a value or an error. -/

namespace StarcoinMcp

def FailState (σ ε α : Type) := σ → Except ε α × σ

variable {σ ε α β : Type}

theorem bind_eq_ok {x : Except ε α} {f : α → Except ε β} {b : β} (h : (x >>= f) = .ok b) :
    ∃ a, x = .ok a ∧ f a = .ok b := by
  cases x with
  | error e => cases h
  | ok a => exact ⟨a, rfl, h⟩

theorem bind_eq_ok_iff {x : Except ε α} {f : α → Except ε β} {b : β} :
    (x >>= f) = .ok b ↔ ∃ a, x = .ok a ∧ f a = .ok b := by
  constructor
  · exact bind_eq_ok
  · rintro ⟨a, rfl, h⟩
    exact h

theorem ok_bind (a : α) (f : α → Except ε β) : (Except.ok a >>= f) = f a := rfl

theorem mapError_ok {ε' : Type} (f : ε → ε') (a : α) : (Except.ok a : Except ε α).mapError f = .ok a := rfl

theorem mapError_eq_ok {ε ε' α : Type*} {x : Except ε α} {f : ε → ε'} {a : α}
    (h : x.mapError f = .ok a) : x = .ok a := by
  cases x with
  | ok b => exact congrArg Except.ok (Except.ok.inj h)
  | error e => cases h

theorem bind_eq_error {x : Except ε α} {f : α → Except ε β} {e : ε} (h : (x >>= f) = .error e) :
    x = .error e ∨ ∃ a, x = .ok a ∧ f a = .error e := by
  cases x with
  | error e' => exact .inl (congrArg _ (Except.error.inj h))
  | ok a => exact .inr ⟨a, rfl, h⟩

/-- A `do` block that passed an early return. -/
theorem guard_eq_ok {p : Prop} [Decidable p] {e : ε} {k : PUnit → Except ε α} {a : α}
    (h : (if p then (throw e >>= k : Except ε α) else k ⟨⟩) = .ok a) : ¬ p ∧ k ⟨⟩ = .ok a := by
  by_cases hp : p
  · rw [if_pos hp] at h
    cases h
  · rw [if_neg hp] at h
    exact ⟨hp, h⟩

theorem guard_eq_ok_iff {p : Prop} [Decidable p] {e : ε} {k : PUnit → Except ε α} {a : α} :
    (if p then (throw e >>= k : Except ε α) else k ⟨⟩) = .ok a ↔ ¬ p ∧ k ⟨⟩ = .ok a := by
  constructor
  · exact guard_eq_ok
  · rintro ⟨hp, h⟩
    rwa [if_neg hp]

namespace FailState

instance : Monad (FailState σ ε) where
  pure a := fun s => (.ok a, s)
  bind m f := fun s =>
    match m s with
    | (.ok a, s') => f a s'
    | (.error e, s') => (.error e, s')

def throw (e : ε) : FailState σ ε α := fun s => (.error e, s)

def lift (x : Except ε α) : FailState σ ε α := fun s => (x, s)

def read (f : σ → α) : FailState σ ε α := fun s => (.ok (f s), s)

/-- A call that writes only when it succeeds. -/
def call (f : σ → Except ε (α × σ)) : FailState σ ε α := fun s =>
  match f s with
  | .ok (a, s') => (.ok a, s')
  | .error e => (.error e, s)

@[simp] theorem pure_apply (a : α) (s : σ) : (pure a : FailState σ ε α) s = (.ok a, s) := rfl

@[simp] theorem throw_apply (e : ε) (s : σ) : (throw e : FailState σ ε α) s = (.error e, s) := rfl

@[simp] theorem lift_apply (x : Except ε α) (s : σ) : (lift x : FailState σ ε α) s = (x, s) := rfl

@[simp] theorem read_apply (f : σ → α) (s : σ) : (read f : FailState σ ε α) s = (.ok (f s), s) := rfl

theorem call_ok {f : σ → Except ε (α × σ)} {s s' : σ} {a : α} (h : f s = .ok (a, s')) :
    call f s = (.ok a, s') := by
  unfold call
  rw [h]

theorem call_error {f : σ → Except ε (α × σ)} {s : σ} {e : ε} (h : f s = .error e) :
    call f s = (.error e, s) := by
  unfold call
  rw [h]

theorem bind_ok {m : FailState σ ε α} {f : α → FailState σ ε β} {s s' : σ} {a : α}
    (h : m s = (.ok a, s')) : (m >>= f) s = f a s' := by
  show (match m s with
    | (.ok a, s') => f a s'
    | (.error e, s') => (.error e, s')) = _
  rw [h]

theorem bind_error {m : FailState σ ε α} {f : α → FailState σ ε β} {s s' : σ} {e : ε}
    (h : m s = (.error e, s')) : (m >>= f) s = (.error e, s') := by
  show (match m s with
    | (.ok a, s') => f a s'
    | (.error e, s') => (.error e, s')) = _
  rw [h]

theorem bind_assoc {γ : Type} (m : FailState σ ε α) (f : α → FailState σ ε β)
    (g : β → FailState σ ε γ) : (m >>= f) >>= g = m >>= fun a => f a >>= g := by
  funext s
  cases hm : m s with
  | mk x t =>
    cases x with
    | ok a =>
      rw [bind_ok hm]
      show (match (m >>= f) s with
        | (.ok a, s') => g a s'
        | (.error e, s') => (.error e, s')) = _
      rw [bind_ok hm]
      rfl
    | error e => rw [bind_error hm, bind_error (bind_error hm)]

/-- A sequence that succeeded, with the state in between. -/
theorem bind_apply_eq_ok {m : FailState σ ε α} {f : α → FailState σ ε β} {s s' : σ} {b : β}
    (h : (m >>= f) s = (.ok b, s')) : ∃ a t, m s = (.ok a, t) ∧ f a t = (.ok b, s') := by
  cases hm : m s with
  | mk x t =>
    cases x with
    | ok a => exact ⟨a, t, rfl, (bind_ok hm).symm.trans h⟩
    | error e => cases (bind_error hm).symm.trans h

theorem lift_eq_ok {x : Except ε α} {s s' : σ} {a : α}
    (h : (lift x : FailState σ ε α) s = (.ok a, s')) : x = .ok a ∧ s' = s :=
  ⟨congrArg Prod.fst h, (congrArg Prod.snd h).symm⟩

@[simp] theorem lift_ok_bind (a : α) (f : α → FailState σ ε β) (s : σ) :
    (lift (.ok a) >>= f) s = f a s := rfl

@[simp] theorem lift_error_bind (e : ε) (f : α → FailState σ ε β) (s : σ) :
    (lift (.error e) >>= f) s = (.error e, s) := rfl

@[simp] theorem read_bind (g : σ → α) (f : α → FailState σ ε β) (s : σ) :
    (read g >>= f) s = f (g s) s := rfl

@[simp] theorem throw_bind (e : ε) (f : α → FailState σ ε β) (s : σ) :
    (throw e >>= f) s = (.error e, s) := rfl

@[simp] theorem map_apply (f : α → β) (m : FailState σ ε α) (s : σ) :
    (f <$> m) s = ((m s).1.map f, (m s).2) := by
  show (m >>= fun a => pure (f a)) s = _
  cases hm : m s with
  | mk x s' =>
    cases x with
    | ok a => exact bind_ok hm
    | error e => exact bind_error hm

/-! ## Loops that find nothing to do -/

theorem foldlM_still {f : β → α → FailState σ ε β} {s : σ} {b : β} :
    ∀ {l : List α}, (∀ a ∈ l, f b a s = (.ok b, s)) → l.foldlM f b s = (.ok b, s)
  | [], _ => rfl
  | a :: l, h => by
    rw [List.foldlM_cons, bind_ok (h a (List.mem_cons_self ..))]
    exact foldlM_still fun x hx => h x (List.mem_cons_of_mem _ hx)

theorem forM_still {f : α → FailState σ ε PUnit} {s : σ} :
    ∀ {l : List α}, (∀ a ∈ l, f a s = (.ok ⟨⟩, s)) → l.forM f s = (.ok ⟨⟩, s)
  | [], _ => rfl
  | a :: _, h => (bind_ok (h a (List.mem_cons_self ..))).trans
    (forM_still fun x hx => h x (List.mem_cons_of_mem _ hx))

/-! ## Parts of the state a computation leaves alone -/

section Keeps

variable {τ : Type} {part : σ → τ}

/-- `part` of the state is the same after the computation, whether it succeeds or not. -/
def Keeps (part : σ → τ) (m : FailState σ ε α) : Prop := ∀ s, part (m s).2 = part s

theorem Keeps.lift (x : Except ε α) : Keeps part (FailState.lift x : FailState σ ε α) := fun _ => rfl

theorem Keeps.bind {m : FailState σ ε α} {f : α → FailState σ ε β} (hm : Keeps part m)
    (hf : ∀ a, Keeps part (f a)) : Keeps part (m >>= f) := by
  intro s
  cases hrun : m s with
  | mk x s' =>
    have hs : part s' = part s := by
      have := hm s
      rwa [hrun] at this
    cases x with
    | ok a => rw [bind_ok hrun, hf a s', hs]
    | error e => rw [bind_error hrun, hs]

theorem Keeps.forM {f : α → FailState σ ε PUnit} (hf : ∀ a, Keeps part (f a)) :
    ∀ l : List α, Keeps part (l.forM f)
  | [] => fun _ => rfl
  | a :: l => (hf a).bind fun _ => Keeps.forM hf l

theorem Keeps.call {f : σ → Except ε (α × σ)} (hf : ∀ s a s', f s = .ok (a, s') → part s' = part s) :
    Keeps part (FailState.call f) := by
  intro s
  cases hs : f s with
  | error e => rw [call_error hs]
  | ok x => rw [call_ok hs, hf s x.1 x.2 hs]

end Keeps

/-! ## Failures that leave no trace -/

section Atomic

/-- From `s`, the computation fails only with the state as it was. -/
def Atomic (m : FailState σ ε α) (s : σ) : Prop := ∀ e, (m s).1 = .error e → (m s).2 = s

theorem Atomic.of_error {m : FailState σ ε α} {s : σ} {e : ε} (h : m s = (.error e, s)) :
    Atomic m s := by
  intro _ _
  rw [h]

theorem Atomic.of_ok {m : FailState σ ε α} {s s' : σ} {a : α} (h : m s = (.ok a, s')) :
    Atomic m s := by
  intro e he
  rw [h] at he
  cases he

theorem atomic_congr {m m' : FailState σ ε α} {s : σ} (h : m s = m' s) :
    Atomic m s ↔ Atomic m' s := by
  unfold Atomic
  rw [h]

theorem atomic_of_unchanged {m : FailState σ ε α} {s : σ} (h : (m s).2 = s) : Atomic m s :=
  fun _ _ => h

theorem Atomic.lift_bind {x : Except ε α} {f : α → FailState σ ε β} {s : σ}
    (hf : ∀ a, x = .ok a → Atomic (f a) s) : Atomic (FailState.lift x >>= f) s := by
  cases x with
  | error e => exact .of_error rfl
  | ok a => exact hf a rfl

theorem Atomic.read_bind {g : σ → α} {f : α → FailState σ ε β} {s : σ} (hf : Atomic (f (g s)) s) :
    Atomic (FailState.read g >>= f) s := hf

theorem Atomic.call {f : σ → Except ε (α × σ)} {s : σ} : Atomic (FailState.call f) s := by
  cases hf : f s with
  | error e => exact .of_error (call_error hf)
  | ok x => exact .of_ok (call_ok hf)

theorem Atomic.bind_pure {m : FailState σ ε α} {f : α → β} {s : σ} (h : Atomic m s) :
    Atomic (m >>= fun a => pure (f a)) s := by
  cases hm : m s with
  | mk x s' =>
    cases x with
    | ok a => exact .of_ok (bind_ok hm)
    | error e =>
      have hs : s' = s := by simpa [hm] using h e
      exact .of_error (hs ▸ bind_error hm)

theorem atomic_map_iff {m : FailState σ ε α} {f : α → β} {s : σ} :
    Atomic (f <$> m) s ↔ Atomic m s := by
  unfold Atomic
  rw [map_apply]
  cases (m s).1 with
  | ok a => simp [Except.map]
  | error e => simp [Except.map]

end Atomic

/-! ## The errors a computation can end with -/

section Fails

variable {P : ε → Prop}

def Fails (P : ε → Prop) (m : FailState σ ε α) : Prop := ∀ s e, (m s).1 = .error e → P e

theorem Fails.pure (a : α) : Fails P (Pure.pure a : FailState σ ε α) := by
  intro s e h
  cases h

theorem Fails.lift {x : Except ε α} (hx : ∀ e, x = .error e → P e) :
    Fails P (FailState.lift x : FailState σ ε α) := fun _ e h => hx e h

theorem Fails.bind {m : FailState σ ε α} {f : α → FailState σ ε β} (hm : Fails P m)
    (hf : ∀ a, Fails P (f a)) : Fails P (m >>= f) := by
  intro s e h
  cases hrun : m s with
  | mk x s' =>
    cases x with
    | ok a =>
      rw [bind_ok hrun] at h
      exact hf a s' e h
    | error e' =>
      rw [bind_error hrun] at h
      refine hm s e ?_
      rw [hrun]
      exact congrArg _ (Except.error.inj h)

theorem Fails.forM {f : α → FailState σ ε PUnit} (hf : ∀ a, Fails P (f a)) :
    ∀ l : List α, Fails P (l.forM f)
  | [] => .pure _
  | a :: l => (hf a).bind fun _ => Fails.forM hf l

theorem Fails.call {f : σ → Except ε (α × σ)} (hf : ∀ s e, f s = .error e → P e) :
    Fails P (FailState.call f) := by
  intro s e h
  cases hs : f s with
  | error e' =>
    rw [call_error hs] at h
    exact hf s e (hs.trans (congrArg _ (Except.error.inj h)))
  | ok x =>
    rw [call_ok hs] at h
    cases h

end Fails

/-! ## Effects bounded by a relation -/

section Moves

variable {R : σ → σ → Prop}

/-- Whether it succeeds or not, the computation ends in a state related to the one it began in. -/
def Moves (R : σ → σ → Prop) (m : FailState σ ε α) : Prop := ∀ s, R s (m s).2

theorem Moves.bind (htrans : ∀ a b c, R a b → R b c → R a c) {m : FailState σ ε α}
    {f : α → FailState σ ε β} (hm : Moves R m) (hf : ∀ a, Moves R (f a)) : Moves R (m >>= f) := by
  intro s
  have hfirst := hm s
  cases hrun : m s with
  | mk x s' =>
    rw [hrun] at hfirst
    cases x with
    | ok a =>
      rw [bind_ok hrun]
      exact htrans _ _ _ hfirst (hf a s')
    | error e =>
      rw [bind_error hrun]
      exact hfirst

/-- A computation that only looks. -/
theorem Moves.of_still (hrefl : ∀ s, R s s) {m : FailState σ ε α} (h : ∀ s, (m s).2 = s) :
    Moves R m := by
  intro s
  rw [h s]
  exact hrefl s

theorem Moves.ite {c : Prop} [Decidable c] {m m' : FailState σ ε α} (hm : Moves R m)
    (hm' : Moves R m') : Moves R (if c then m else m') := by
  split <;> assumption

end Moves

/-! ## Two runs side by side -/

section Coupled

variable {R : σ → σ → Prop}

/-- From related states the two computations answer alike and end in related states. -/
def Coupled (R : σ → σ → Prop) (m m' : FailState σ ε α) : Prop :=
  ∀ s s', R s s' → (m s).1 = (m' s').1 ∧ R (m s).2 (m' s').2

theorem Coupled.pure (a : α) : Coupled R (Pure.pure a : FailState σ ε α) (Pure.pure a) :=
  fun _ _ h => ⟨rfl, h⟩

theorem Coupled.lift (x : Except ε α) : Coupled R (FailState.lift x) (FailState.lift x) :=
  fun _ _ h => ⟨rfl, h⟩

theorem Coupled.bind {m m' : FailState σ ε α} {f f' : α → FailState σ ε β} (hm : Coupled R m m')
    (hf : ∀ a, Coupled R (f a) (f' a)) : Coupled R (m >>= f) (m' >>= f') := by
  intro s s' h
  obtain ⟨hreply, hstate⟩ := hm s s' h
  cases hrun : m s with
  | mk x t =>
    cases hrun' : m' s' with
    | mk x' t' =>
      rw [hrun, hrun'] at hreply hstate
      cases hreply
      cases x with
      | ok a =>
        rw [bind_ok hrun, bind_ok hrun']
        exact hf a t t' hstate
      | error e =>
        rw [bind_error hrun, bind_error hrun']
        exact ⟨rfl, hstate⟩

theorem Coupled.forM {f f' : α → FailState σ ε PUnit} (hf : ∀ a, Coupled R (f a) (f' a)) :
    ∀ l : List α, Coupled R (l.forM f) (l.forM f')
  | [] => .pure _
  | a :: l => (hf a).bind fun _ => Coupled.forM hf l

theorem Coupled.map {m m' : FailState σ ε α} (g : α → β) (hm : Coupled R m m') :
    Coupled R (g <$> m) (g <$> m') := hm.bind fun _ => .pure _

theorem Coupled.call {f f' : σ → Except ε (α × σ)}
    (hf : ∀ s s', R s s' → (∃ e, f s = .error e ∧ f' s' = .error e) ∨
      ∃ a t t', f s = .ok (a, t) ∧ f' s' = .ok (a, t') ∧ R t t') :
    Coupled R (FailState.call f) (FailState.call f') := by
  intro s s' h
  rcases hf s s' h with ⟨e, he, he'⟩ | ⟨a, t, t', ht, ht', hR⟩
  · rw [call_error he, call_error he']
    exact ⟨rfl, h⟩
  · rw [call_ok ht, call_ok ht']
    exact ⟨rfl, hR⟩

end Coupled

/-! ## Two computations over different states -/

section Agrees

variable {τ : Type} {T : σ → τ → Prop} {x : σ} {s : τ}

/-- From these two states the computations answer alike, and end in related states. -/
def Agrees (T : σ → τ → Prop) (m : FailState σ ε α) (m' : FailState τ ε α) (x : σ) (s : τ) : Prop :=
  (m x).1 = (m' s).1 ∧ T (m x).2 (m' s).2

theorem agrees_of_eq {m : FailState σ ε α} {m' : FailState τ ε α} {y : σ} {t : τ} {a : Except ε α}
    (hm : m x = (a, y)) (hm' : m' s = (a, t)) (h : T y t) : Agrees T m m' x s := by
  unfold Agrees
  rw [hm, hm']
  exact ⟨rfl, h⟩

theorem Agrees.pure (h : T x s) (a : α) :
    Agrees T (Pure.pure a : FailState σ ε α) (Pure.pure a) x s := ⟨rfl, h⟩

theorem Agrees.throw (h : T x s) (e : ε) :
    Agrees T (FailState.throw e : FailState σ ε α) (FailState.throw e) x s := ⟨rfl, h⟩

theorem Agrees.bind {m : FailState σ ε α} {m' : FailState τ ε α} {f : α → FailState σ ε β}
    {f' : α → FailState τ ε β} (hm : Agrees T m m' x s)
    (hf : ∀ a y t, m x = (.ok a, y) → m' s = (.ok a, t) → T y t → Agrees T (f a) (f' a) y t) :
    Agrees T (m >>= f) (m' >>= f') x s := by
  obtain ⟨hreply, hstate⟩ := hm
  cases hrun : m x with
  | mk u y =>
    cases hrun' : m' s with
    | mk u' t =>
      rw [hrun, hrun'] at hreply hstate
      cases hreply
      cases u with
      | ok a =>
        unfold Agrees
        rw [bind_ok hrun, bind_ok hrun']
        exact hf a y t hrun hrun' hstate
      | error e => exact agrees_of_eq (bind_error hrun) (bind_error hrun') hstate

theorem Agrees.lift_bind {u : Except ε α} {f : α → FailState σ ε β} {f' : α → FailState τ ε β}
    (h : T x s) (hf : ∀ a, u = .ok a → Agrees T (f a) (f' a) x s) :
    Agrees T (FailState.lift u >>= f) (FailState.lift u >>= f') x s := by
  cases u with
  | error e => exact ⟨rfl, h⟩
  | ok a => exact hf a rfl

theorem Agrees.map {m : FailState σ ε α} {m' : FailState τ ε α} (g : α → β) (hm : Agrees T m m' x s) :
    Agrees T (g <$> m) (g <$> m') x s := hm.bind fun _ _ _ _ _ h => .pure h _

theorem Agrees.forM {f : α → FailState σ ε PUnit} {f' : α → FailState τ ε PUnit}
    (hf : ∀ a y t, T y t → Agrees T (f a) (f' a) y t) :
    ∀ (l : List α) {x : σ} {s : τ}, T x s → Agrees T (l.forM f) (l.forM f') x s
  | [], _, _, h => .pure h _
  | a :: l, x, s, h => (hf a x s h).bind fun _ _ _ _ _ h' => Agrees.forM hf l h'

end Agrees

end FailState

end StarcoinMcp
