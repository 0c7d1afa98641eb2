import StarcoinMcp.Lib.Interaction
import StarcoinMcp.Lib.Trace

/-! Processes under one operating system. Every process runs a program, and a happening
starts a process, serves the next request of one, or ends one. A request may have to
wait, and what it finds depends on chance and on what the other processes left, so a run
is an arbitrary interleaving in which any process may stop at any request. -/

namespace StarcoinMcp

/-- What the system does for process `i`. A request that gets no answer has to wait. -/
structure Kernel (σ Op : Type) (Ans : Op → Type) (χ : Type) where
  perform : ℕ → (o : Op) → χ → σ → Option (Ans o × σ)
  reap : ℕ → σ → σ

structure Process (ι Op : Type) (Ans : Op → Type) (ε α : Type) where
  name : ι
  past : List (Answered Ans)
  rest : Prog Op Ans ε α

structure Machine (ι σ Op : Type) (Ans : Op → Type) (ε α : Type) where
  shared : σ
  processes : List (Process ι Op Ans ε α)

inductive Happening (ι χ : Type)
  | start (name : ι)
  | serve (i : ℕ) (chance : χ)
  | reap (i : ℕ)

section Lists

variable {β : Type} {l : List β} {i j : ℕ} {a b : β}

theorem of_getElem?_set (h : (l.set i a)[j]? = some b) : (i = j ∧ b = a) ∨ (i ≠ j ∧ l[j]? = some b) := by
  by_cases hij : i = j
  · subst hij
    have hlt : i < (l.set i a).length := (List.getElem?_eq_some_iff.mp h).1
    rw [List.length_set] at hlt
    rw [List.getElem?_set_self hlt] at h
    exact .inl ⟨rfl, (Option.some.inj h).symm⟩
  · rw [List.getElem?_set_ne hij] at h
    exact .inr ⟨hij, h⟩

theorem of_getElem?_concat (h : (l ++ [a])[j]? = some b) : (j = l.length ∧ b = a) ∨ l[j]? = some b := by
  have hlt : j < (l ++ [a]).length := (List.getElem?_eq_some_iff.mp h).1
  rw [List.length_append, List.length_singleton] at hlt
  rcases Nat.lt_succ_iff_lt_or_eq.mp hlt with hlt | rfl
  · rw [List.getElem?_append_left hlt] at h
    exact .inr h
  · rw [List.getElem?_concat_length] at h
    exact .inl ⟨rfl, (Option.some.inj h).symm⟩

/-- A function of the entries, where an entry changes that it takes no notice of. -/
theorem bind_set {γ : Type} {f : β → Option γ} (hi : l[i]? = some b) (h : f a = f b) (j : ℕ) :
    ((l.set i a)[j]?).bind f = (l[j]?).bind f := by
  by_cases hij : i = j
  · subst hij
    rw [List.getElem?_set_self (List.getElem?_eq_some_iff.mp hi).1, hi]
    exact h
  · rw [List.getElem?_set_ne hij]

theorem bind_concat {γ : Type} {f : β → Option γ} (h : f a = none) (j : ℕ) :
    ((l ++ [a])[j]?).bind f = (l[j]?).bind f := by
  rcases lt_trichotomy j l.length with hlt | rfl | hgt
  · rw [List.getElem?_append_left hlt]
  · rw [List.getElem?_concat_length, List.getElem?_eq_none (le_refl _)]
    exact h
  · have hlen : (l ++ [a]).length ≤ j := by
      rw [List.length_append]
      exact hgt
    rw [List.getElem?_eq_none hlen, List.getElem?_eq_none hgt.le]

end Lists

namespace Process

variable {ι Op : Type} {Ans : Op → Type} {ε α : Type}

def running (p : Process ι Op Ans ε α) : Bool :=
  match p.rest with
  | .op _ _ => true
  | _ => false

/-- A process that has not come to its end never does. -/
def ended (p : Process ι Op Ans ε α) : Process ι Op Ans ε α :=
  match p.rest with
  | .op _ _ => { p with rest := .halt .unfinished }
  | _ => p

theorem ended_name (p : Process ι Op Ans ε α) : p.ended.name = p.name := by
  unfold ended
  split <;> rfl

theorem ended_past (p : Process ι Op Ans ε α) : p.ended.past = p.past := by
  unfold ended
  split <;> rfl

theorem ended_running (p : Process ι Op Ans ε α) : p.ended.running = false := by
  obtain ⟨name, past, rest⟩ := p
  cases rest <;> rfl

end Process

namespace Machine

variable {ι σ Op : Type} {Ans : Op → Type} {χ ε α : Type}
variable (kernel : Kernel σ Op Ans χ) (program : ι → Prog Op Ans ε α)

def started (m : Machine ι σ Op Ans ε α) (name : ι) : Machine ι σ Op Ans ε α :=
  { m with processes := m.processes ++ [⟨name, [], program name⟩] }

/-- Process `i`, waiting for `o`, goes on with the answer `x`. -/
def served (m : Machine ι σ Op Ans ε α) (i : ℕ) (p : Process ι Op Ans ε α) {o : Op}
    (k : Ans o → Prog Op Ans ε α) (x : Ans o) (s : σ) : Machine ι σ Op Ans ε α :=
  ⟨s, m.processes.set i ⟨p.name, p.past ++ [⟨o, x⟩], k x⟩⟩

def reaped (m : Machine ι σ Op Ans ε α) (i : ℕ) (p : Process ι Op Ans ε α) : Machine ι σ Op Ans ε α :=
  ⟨kernel.reap i m.shared, m.processes.set i p.ended⟩

def step (m : Machine ι σ Op Ans ε α) : Happening ι χ → Machine ι σ Op Ans ε α
  | .start name => started program m name
  | .serve i chance =>
    match m.processes[i]? with
    | some p =>
      match p.rest with
      | .op o k =>
        match kernel.perform i o chance m.shared with
        | some (x, s) => served m i p k x s
        | none => m
      | _ => m
    | none => m
  | .reap i =>
    match m.processes[i]? with
    | some p => reaped kernel m i p
    | none => m

def run (s : σ) (happenings : List (Happening ι χ)) : Machine ι σ Op Ans ε α :=
  Trace.run (step kernel program) ⟨s, []⟩ happenings

variable {kernel program}

/-- Everything that can happen. -/
theorem step_cases (m : Machine ι σ Op Ans ε α) (happening : Happening ι χ) :
    step kernel program m happening = m ∨
    (∃ name, step kernel program m happening = started program m name) ∨
    (∃ (i : ℕ) (p : Process ι Op Ans ε α) (o : Op) (k : Ans o → Prog Op Ans ε α) (chance : χ)
      (x : Ans o) (s : σ), m.processes[i]? = some p ∧ p.rest = .op o k ∧
      kernel.perform i o chance m.shared = some (x, s) ∧
      step kernel program m happening = served m i p k x s) ∨
    (∃ (i : ℕ) (p : Process ι Op Ans ε α), m.processes[i]? = some p ∧
      step kernel program m happening = reaped kernel m i p) := by
  cases happening with
  | start name => exact .inr (.inl ⟨name, rfl⟩)
  | serve i chance =>
    cases hp : m.processes[i]? with
    | none => exact .inl (by simp only [step, hp])
    | some p =>
      cases hrest : p.rest with
      | op o k =>
        cases hfound : kernel.perform i o chance m.shared with
        | none => exact .inl (by simp only [step, hp, hrest, hfound])
        | some found =>
          refine .inr (.inr (.inl ⟨i, p, o, k, chance, found.1, found.2, hp, hrest, hfound, ?_⟩))
          simp only [step, hp, hrest, hfound]
      | _ => exact .inl (by simp only [step, hp, hrest])
  | reap i =>
    cases hp : m.processes[i]? with
    | none => exact .inl (by simp only [step, hp])
    | some p => exact .inr (.inr (.inr ⟨i, p, hp, by simp only [step, hp]⟩))

theorem run_invariant {I : Machine ι σ Op Ans ε α → Prop} {s : σ} (h : I ⟨s, []⟩)
    (hstart : ∀ m name, I m → I (started program m name))
    (hserve : ∀ m i p o k chance x s, I m → m.processes[i]? = some p → p.rest = .op o k →
      kernel.perform i o chance m.shared = some (x, s) → I (served m i p k x s))
    (hreap : ∀ m i p, I m → m.processes[i]? = some p → I (reaped kernel m i p))
    (happenings : List (Happening ι χ)) : I (run kernel program s happenings) := by
  refine Trace.run_invariant (fun m happening hm => ?_) h happenings
  rcases step_cases m happening with hsame | ⟨name, hnext⟩ |
    ⟨i, p, o, k, chance, x, s, hp, hrest, hfound, hnext⟩ | ⟨i, p, hp, hnext⟩
  · rwa [hsame]
  · rw [hnext]
    exact hstart m name hm
  · rw [hnext]
    exact hserve m i p o k chance x s hm hp hrest hfound
  · rw [hnext]
    exact hreap m i p hm hp

/-- Every process keeps to what its program promises. -/
def Keeping (G : ι → List (Answered Ans) → Op → Prop)
    (Q : ι → List (Answered Ans) → Except ε α → Prop) (m : Machine ι σ Op Ans ε α) : Prop :=
  ∀ (i : ℕ) (p : Process ι Op Ans ε α), m.processes[i]? = some p →
    Prog.Meets (G p.name) (Q p.name) p.past p.rest

section Keeping

variable {G : ι → List (Answered Ans) → Op → Prop} {Q : ι → List (Answered Ans) → Except ε α → Prop}
  {m : Machine ι σ Op Ans ε α}

theorem Keeping.started (h : Keeping G Q m) (hprogram : ∀ c, Prog.Meets (G c) (Q c) [] (program c))
    (name : ι) : Keeping G Q (started program m name) := by
  intro i p hi
  rcases of_getElem?_concat hi with ⟨-, rfl⟩ | hi
  · exact hprogram name
  · exact h i p hi

theorem Keeping.served (h : Keeping G Q m) {i : ℕ} {p : Process ι Op Ans ε α} {o : Op}
    {k : Ans o → Prog Op Ans ε α} (hp : m.processes[i]? = some p) (hrest : p.rest = .op o k)
    (x : Ans o) (s : σ) : Keeping G Q (served m i p k x s) := by
  intro j q hq
  rcases of_getElem?_set hq with ⟨rfl, rfl⟩ | ⟨-, hq⟩
  · have hmeets := h i p hp
    rw [hrest] at hmeets
    exact hmeets.2 x
  · exact h j q hq

theorem Keeping.reaped (h : Keeping G Q m) {i : ℕ} {p : Process ι Op Ans ε α}
    (hp : m.processes[i]? = some p) : Keeping G Q (reaped kernel m i p) := by
  intro j q hq
  rcases of_getElem?_set hq with ⟨rfl, rfl⟩ | ⟨-, hq⟩
  · have hmeets := h i p hp
    unfold Process.ended
    split
    · exact trivial
    · exact hmeets
  · exact h j q hq

end Keeping

end Machine

end StarcoinMcp
