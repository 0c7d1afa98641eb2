import Mathlib.Data.List.Basic

/-! Programs that ask their surroundings for answers. A program is the tree of its
requests: an operation `o` and, for every answer to it, what the program does next.
Nothing is said about where answers come from, so a statement about all answers is a
statement about every endpoint, every clock and every interleaving with other programs.
`Meets` is the program logic: what a program may ask for, given the answers so far, and
how it may end. -/

namespace StarcoinMcp

/-- An operation together with the answer it got. -/
abbrev Answered {Op : Type} (Ans : Op → Type) := (o : Op) × Ans o

/-- Why a program has no result: it unwound, or a loop was followed only so far. -/
inductive Halt
  | panicked (message : String)
  | unfinished
deriving DecidableEq, Repr

inductive Prog (Op : Type) (Ans : Op → Type) (ε α : Type)
  | ret (a : α)
  | fail (e : ε)
  | halt (why : Halt)
  | op (o : Op) (k : Ans o → Prog Op Ans ε α)

namespace Prog

variable {Op : Type} {Ans : Op → Type} {ε α β γ : Type}

def bind : Prog Op Ans ε α → (α → Prog Op Ans ε β) → Prog Op Ans ε β
  | ret a, f => f a
  | fail e, _ => fail e
  | halt why, _ => halt why
  | op o k, f => op o fun x => (k x).bind f

instance : Monad (Prog Op Ans ε) where
  pure := ret
  bind := bind

/-- One request; the answer is the result. -/
def ask (o : Op) : Prog Op Ans ε (Ans o) := op o ret

def lift : Except ε α → Prog Op Ans ε α
  | .ok a => ret a
  | .error e => fail e

/-- The outcome as a value: an error of `p` does not end the caller. -/
def attempt : Prog Op Ans ε α → Prog Op Ans ε (Except ε α)
  | ret a => ret (.ok a)
  | fail e => ret (.error e)
  | halt why => halt why
  | op o k => op o fun x => (k x).attempt

/-- The same, in a caller with errors of another kind. -/
def outcome {ε' : Type} : Prog Op Ans ε α → Prog Op Ans ε' (Except ε α)
  | ret a => ret (.ok a)
  | fail e => ret (.error e)
  | halt why => halt why
  | op o k => op o fun x => (k x).outcome

instance : MonadLift (Except ε) (Prog Op Ans ε) := ⟨lift⟩

instance : MonadExcept ε (Prog Op Ans ε) where
  throw := fail
  tryCatch p f := p.attempt.bind fun
    | .ok a => ret a
    | .error e => f e

theorem bind_bind {p : Prog Op Ans ε α} {f : α → Prog Op Ans ε β} {g : β → Prog Op Ans ε γ} :
    p >>= f >>= g = p >>= fun a => f a >>= g := by
  induction p with
  | ret a => rfl
  | fail e => rfl
  | halt why => rfl
  | op o k ih => exact congrArg (op o) (funext ih)

/-! ## What a program asks for and how it ends -/

section Meets

variable {G : List (Answered Ans) → Op → Prop}
variable {Q : List (Answered Ans) → Except ε α → Prop}

/-- After the answers `t`, every request of the program is one `G` allows, given the answers
before it, and every outcome is one `Q` allows, given all of them. -/
def Meets (G : List (Answered Ans) → Op → Prop) :
    (Q : List (Answered Ans) → Except ε α → Prop) → List (Answered Ans) → Prog Op Ans ε α → Prop
  | Q, t, ret a => Q t (.ok a)
  | Q, t, fail e => Q t (.error e)
  | _, _, halt _ => True
  | Q, t, op o k => G t o ∧ ∀ x, Meets G Q (t ++ [⟨o, x⟩]) (k x)

/-- The outcome of a first part, handed on to the second. -/
def andThen (G : List (Answered Ans) → Op → Prop) (Q : List (Answered Ans) → Except ε β → Prop)
    (f : α → Prog Op Ans ε β) (t : List (Answered Ans)) : Except ε α → Prop
  | .ok a => Meets G Q t (f a)
  | .error e => Q t (.error e)

@[simp] theorem meets_pure {t : List (Answered Ans)} {a : α} :
    Meets G Q t (pure a) ↔ Q t (.ok a) := Iff.rfl

@[simp] theorem meets_throw {t : List (Answered Ans)} {e : ε} :
    Meets G Q t (throw e) ↔ Q t (.error e) := Iff.rfl

@[simp] theorem meets_halt {t : List (Answered Ans)} {why : Halt} :
    Meets G Q t (halt why) ↔ True := Iff.rfl

@[simp] theorem meets_ask {o : Op} {Q : List (Answered Ans) → Except ε (Ans o) → Prop}
    {t : List (Answered Ans)} :
    Meets G Q t (ask o) ↔ G t o ∧ ∀ x, Q (t ++ [⟨o, x⟩]) (.ok x) := Iff.rfl

@[simp] theorem meets_lift {t : List (Answered Ans)} {x : Except ε α} :
    Meets G Q t (lift x) ↔ Q t x := by
  cases x <;> exact Iff.rfl

theorem meets_bind {Q : List (Answered Ans) → Except ε β → Prop} {f : α → Prog Op Ans ε β}
    {p : Prog Op Ans ε α} : ∀ {t : List (Answered Ans)},
    Meets G Q t (p >>= f) ↔ Meets G (andThen G Q f) t p := by
  induction p with
  | ret a => exact Iff.rfl
  | fail e => exact Iff.rfl
  | halt why => exact Iff.rfl
  | op o k ih => exact and_congr_right fun _ => forall_congr' fun x => ih x

theorem meets_outcome {ε' : Type} {Q : List (Answered Ans) → Except ε' (Except ε α) → Prop}
    {p : Prog Op Ans ε α} : ∀ {t : List (Answered Ans)},
    Meets G Q t p.outcome ↔ Meets G (fun t r => Q t (.ok r)) t p := by
  induction p with
  | ret a => exact Iff.rfl
  | fail e => exact Iff.rfl
  | halt why => exact Iff.rfl
  | op o k ih => exact and_congr_right fun _ => forall_congr' fun x => ih x

theorem attempt_eq_outcome (p : Prog Op Ans ε α) : p.attempt = p.outcome := by
  induction p with
  | ret a => rfl
  | fail e => rfl
  | halt why => rfl
  | op o k ih => exact congrArg (op o) (funext ih)

theorem meets_attempt {Q : List (Answered Ans) → Except ε (Except ε α) → Prop}
    {p : Prog Op Ans ε α} {t : List (Answered Ans)} :
    Meets G Q t p.attempt ↔ Meets G (fun t r => Q t (.ok r)) t p := by
  rw [attempt_eq_outcome]
  exact meets_outcome

/-- The rule of consequence. The answers a program starts from stay the first ones. -/
theorem Meets.imp {G' : List (Answered Ans) → Op → Prop}
    {Q' : List (Answered Ans) → Except ε α → Prop} {p : Prog Op Ans ε α} :
    ∀ {t : List (Answered Ans)}, Meets G Q t p →
      (∀ d o, G (t ++ d) o → G' (t ++ d) o) → (∀ d r, Q (t ++ d) r → Q' (t ++ d) r) →
      Meets G' Q' t p := by
  induction p with
  | ret a =>
    intro t h _ hQ
    have := hQ [] (.ok a)
    rw [List.append_nil] at this
    exact this h
  | fail e =>
    intro t h _ hQ
    have := hQ [] (.error e)
    rw [List.append_nil] at this
    exact this h
  | halt why => exact fun _ _ _ => trivial
  | op o k ih =>
    intro t h hG hQ
    have ho := hG [] o
    rw [List.append_nil] at ho
    refine ⟨ho h.1, fun x => ih x (h.2 x) (fun d => ?_) fun d => ?_⟩
    · rw [List.append_assoc]
      exact hG _
    · rw [List.append_assoc]
      exact hQ _

theorem Meets.weaken {G' : List (Answered Ans) → Op → Prop} {p : Prog Op Ans ε α}
    {t : List (Answered Ans)} (h : Meets G Q t p) (hG : ∀ t o, G t o → G' t o) : Meets G' Q t p :=
  h.imp (fun _ => hG _) fun _ _ hQ => hQ

theorem Meets.imp_post {Q' : List (Answered Ans) → Except ε α → Prop} {p : Prog Op Ans ε α}
    {t : List (Answered Ans)} (h : Meets G Q t p) (hQ : ∀ d r, Q (t ++ d) r → Q' (t ++ d) r) :
    Meets G Q' t p := h.imp (fun _ _ hG => hG) hQ

/-- Sequencing: what is known after the first part is all the second part needs. -/
theorem Meets.bind {R : List (Answered Ans) → Except ε α → Prop}
    {Q : List (Answered Ans) → Except ε β → Prop} {p : Prog Op Ans ε α} {f : α → Prog Op Ans ε β}
    {t : List (Answered Ans)} (hp : Meets G R t p)
    (hok : ∀ d a, R (t ++ d) (.ok a) → Meets G Q (t ++ d) (f a))
    (herr : ∀ d e, R (t ++ d) (.error e) → Q (t ++ d) (.error e)) : Meets G Q t (p >>= f) := by
  rw [meets_bind]
  refine hp.imp_post fun d r hr => ?_
  cases r with
  | ok a => exact hok d a hr
  | error e => exact herr d e hr

/-- What a program whose requests all satisfy `A` leaves behind. -/
theorem Meets.extends {A : Op → Prop} {p : Prog Op Ans ε α} :
    ∀ {t : List (Answered Ans)}, Meets (fun _ o => A o) Q t p →
      Meets (fun _ o => A o) (fun t' r => Q t' r ∧ ∃ d, t' = t ++ d ∧ ∀ e ∈ d, A e.1) t p := by
  induction p with
  | ret a => exact fun h => ⟨h, [], (List.append_nil _).symm, fun e he => by cases he⟩
  | fail e => exact fun h => ⟨h, [], (List.append_nil _).symm, fun e he => by cases he⟩
  | halt why => exact fun _ => trivial
  | op o k ih =>
    intro t h
    refine ⟨h.1, fun x => (ih x (h.2 x)).imp_post ?_⟩
    rintro d r ⟨hQ, d', hd, hA⟩
    refine ⟨hQ, ⟨o, x⟩ :: d', by rw [hd, List.append_assoc, List.singleton_append], ?_⟩
    intro e he
    rcases List.mem_cons.mp he with rfl | he
    · exact h.1
    · exact hA e he

/-- A program that starts later meets what it would have met by itself. -/
theorem Meets.after {p : Prog Op Ans ε α} (before : List (Answered Ans)) :
    ∀ {t : List (Answered Ans)}, Meets G Q t p →
      Meets (fun u o => ∃ d, u = before ++ d ∧ G d o) (fun u r => ∃ d, u = before ++ d ∧ Q d r)
        (before ++ t) p := by
  induction p with
  | ret a => exact fun h => ⟨_, rfl, h⟩
  | fail e => exact fun h => ⟨_, rfl, h⟩
  | halt why => exact fun _ => trivial
  | op o k ih =>
    intro t h
    refine ⟨⟨t, rfl, h.1⟩, fun x => ?_⟩
    rw [List.append_assoc]
    exact ih x (h.2 x)

/-- A pure step that may fail. -/
theorem meets_lift_bind {Q : List (Answered Ans) → Except ε β → Prop} {x : Except ε α}
    {f : α → Prog Op Ans ε β} {t : List (Answered Ans)}
    (hok : ∀ a, x = .ok a → Meets G Q t (f a)) (herr : ∀ e, x = .error e → Q t (.error e)) :
    Meets G Q t (lift x >>= f) := by
  cases x with
  | ok a => exact hok a rfl
  | error e => exact herr e rfl

/-- A request, and what follows each answer to it. -/
theorem meets_ask_bind {Q : List (Answered Ans) → Except ε β → Prop} {o : Op}
    {f : Ans o → Prog Op Ans ε β} {t : List (Answered Ans)} (ho : G t o)
    (hf : ∀ x, Meets G Q (t ++ [⟨o, x⟩]) (f x)) : Meets G Q t (ask o >>= f) := ⟨ho, hf⟩

theorem meets_ite {c : Prop} [Decidable c] {p q : Prog Op Ans ε α} {t : List (Answered Ans)}
    (hp : c → Meets G Q t p) (hq : ¬ c → Meets G Q t q) : Meets G Q t (if c then p else q) := by
  split
  next hc => exact hp hc
  next hc => exact hq hc

theorem meets_any {p : Prog Op Ans ε α} {t : List (Answered Ans)} :
    Meets (fun _ _ => True) (fun _ _ => True) t p := by
  induction p generalizing t with
  | ret a => exact trivial
  | fail e => exact trivial
  | halt why => exact trivial
  | op o k ih => exact ⟨trivial, fun x => ih x⟩

/-- A first part about which nothing need be known. -/
theorem meets_bind_any {Q : List (Answered Ans) → Except ε β → Prop} {p : Prog Op Ans ε α}
    {f : α → Prog Op Ans ε β} {t : List (Answered Ans)}
    (hok : ∀ d a, Meets (fun _ _ => True) Q (t ++ d) (f a)) (herr : ∀ d e, Q (t ++ d) (.error e)) :
    Meets (fun _ _ => True) Q t (p >>= f) :=
  meets_any.bind (fun d a _ => hok d a) fun d e _ => herr d e

end Meets

/-! ## What a program returns -/

section Returns

variable {P : α → Prop}

/-- Whatever it is told, a value that the program returns satisfies `P`. -/
def Returns (P : α → Prop) : Prog Op Ans ε α → Prop
  | ret a => P a
  | fail _ | halt _ => True
  | op _ k => ∀ x, Returns P (k x)

theorem returns_pure {a : α} (h : P a) : Returns P (pure a : Prog Op Ans ε α) := h

theorem returns_throw {e : ε} : Returns P (throw e : Prog Op Ans ε α) := trivial

theorem returns_bind {P : β → Prop} {p : Prog Op Ans ε α} {f : α → Prog Op Ans ε β}
    (hf : ∀ a, Returns P (f a)) : Returns P (p >>= f) := by
  induction p with
  | ret a => exact hf a
  | fail e => trivial
  | halt why => trivial
  | op o k ih => exact fun x => ih x

theorem returns_ite {c : Prop} [Decidable c] {p q : Prog Op Ans ε α} (hp : Returns P p)
    (hq : Returns P q) : Returns P (if c then p else q) := by
  split <;> assumption

theorem Meets.returns {G : List (Answered Ans) → Op → Prop}
    {Q : List (Answered Ans) → Except ε α → Prop} {p : Prog Op Ans ε α} (hp : Returns P p) :
    ∀ {t : List (Answered Ans)}, Meets G Q t p →
      Meets G (fun t r => Q t r ∧ ∀ a, r = .ok a → P a) t p := by
  induction p with
  | ret a => exact fun h => ⟨h, fun b hb => Except.ok.inj hb ▸ hp⟩
  | fail e => exact fun h => ⟨h, fun b hb => nomatch hb⟩
  | halt why => exact fun _ => trivial
  | op o k ih => exact fun h => ⟨h.1, fun x => ih x (hp x) (h.2 x)⟩

end Returns

/-- Two specifications of one program, taken together. -/
theorem Meets.and {G G' : List (Answered Ans) → Op → Prop}
    {Q Q' : List (Answered Ans) → Except ε α → Prop} {p : Prog Op Ans ε α} :
    ∀ {t : List (Answered Ans)}, Meets G Q t p → Meets G' Q' t p →
      Meets (fun t o => G t o ∧ G' t o) (fun t r => Q t r ∧ Q' t r) t p := by
  induction p with
  | ret a => exact fun h h' => ⟨h, h'⟩
  | fail e => exact fun h h' => ⟨h, h'⟩
  | halt why => exact fun _ _ => trivial
  | op o k ih => exact fun h h' => ⟨⟨h.1, h'.1⟩, fun x => ih x (h.2 x) (h'.2 x)⟩

/-! ## Programs that ask only for certain things -/

section Asks

variable {A : Op → Bool}

def Asks (A : Op → Bool) : Prog Op Ans ε α → Prop
  | ret _ | fail _ | halt _ => True
  | op o k => A o ∧ ∀ x, Asks A (k x)

theorem asks_pure {a : α} : Asks A (pure a : Prog Op Ans ε α) := trivial

theorem asks_throw {e : ε} : Asks A (throw e : Prog Op Ans ε α) := trivial

theorem asks_lift {x : Except ε α} : Asks A (lift x : Prog Op Ans ε α) := by
  cases x <;> trivial

theorem asks_ask {o : Op} (h : A o = true) : Asks A (ask o : Prog Op Ans ε (Ans o)) :=
  ⟨h, fun _ => trivial⟩

theorem Asks.bind {p : Prog Op Ans ε α} {f : α → Prog Op Ans ε β} (hp : Asks A p)
    (hf : ∀ a, Asks A (f a)) : Asks A (p >>= f) := by
  induction p with
  | ret a => exact hf a
  | fail e => trivial
  | halt why => trivial
  | op o k ih => exact ⟨hp.1, fun x => ih x (hp.2 x)⟩

theorem asks_lift_bind {x : Except ε α} {f : α → Prog Op Ans ε β}
    (h : ∀ a, x = .ok a → Asks A (f a)) : Asks A (lift x >>= f) := by
  cases x with
  | ok a => exact h a rfl
  | error e => trivial

theorem Asks.attempt {p : Prog Op Ans ε α} (hp : Asks A p) : Asks A p.attempt := by
  induction p with
  | ret a => trivial
  | fail e => trivial
  | halt why => trivial
  | op o k ih => exact ⟨hp.1, fun x => ih x (hp.2 x)⟩

theorem asks_ite {c : Prop} [Decidable c] {p q : Prog Op Ans ε α} (hp : Asks A p) (hq : Asks A q) :
    Asks A (if c then p else q) := by
  split <;> assumption

theorem Asks.imp {B : Op → Bool} {p : Prog Op Ans ε α} (hp : Asks A p) (h : ∀ o, A o → B o) :
    Asks B p := by
  induction p with
  | ret a => trivial
  | fail e => trivial
  | halt why => trivial
  | op o k ih => exact ⟨h o hp.1, fun x => ih x (hp.2 x)⟩

/-- Such a program is allowed wherever its requests are. -/
theorem Asks.meets {G : List (Answered Ans) → Op → Prop} {p : Prog Op Ans ε α} (hp : Asks A p)
    (hG : ∀ t o, A o → G t o) : ∀ {t : List (Answered Ans)}, Meets G (fun _ _ => True) t p := by
  induction p with
  | ret a => exact trivial
  | fail e => exact trivial
  | halt why => exact trivial
  | op o k ih => exact ⟨hG _ o hp.1, fun x => ih x (hp.2 x)⟩

/-- The same where the requests keep an invariant of the answers, and are allowed under it. -/
theorem Asks.meets_keeping {G : List (Answered Ans) → Op → Prop} {I : List (Answered Ans) → Prop}
    {p : Prog Op Ans ε α} (hp : Asks A p) (hG : ∀ t o, I t → A o → G t o)
    (hI : ∀ t o x, I t → A o → I (t ++ [⟨o, x⟩])) :
    ∀ {t : List (Answered Ans)}, I t → Meets G (fun t' _ => I t') t p := by
  induction p with
  | ret a => exact fun h => h
  | fail e => exact fun h => h
  | halt why => exact fun _ => trivial
  | op o k ih => exact fun h => ⟨hG _ o h hp.1, fun x => ih x (hp.2 x) (hI _ o x h hp.1)⟩

end Asks

/-! ## Relying on the answers -/

section Given

variable {H : Answered Ans → Prop} {Q : Except ε α → Prop}

/-- As long as every answer is one that `H` allows, every outcome is one that `Q` allows. -/
def Given (H : Answered Ans → Prop) (Q : Except ε α → Prop) : Prog Op Ans ε α → Prop
  | ret a => Q (.ok a)
  | fail e => Q (.error e)
  | halt _ => True
  | op o k => ∀ x, H ⟨o, x⟩ → Given H Q (k x)

@[simp] theorem given_pure {a : α} : Given H Q (pure a) ↔ Q (.ok a) := Iff.rfl

@[simp] theorem given_throw {e : ε} : Given H Q (throw e) ↔ Q (.error e) := Iff.rfl

@[simp] theorem given_lift {x : Except ε α} : Given H Q (lift x) ↔ Q x := by
  cases x <;> exact Iff.rfl

/-- A request, and what follows each answer that is allowed. -/
theorem given_ask_bind {Q : Except ε β → Prop} {o : Op} {f : Ans o → Prog Op Ans ε β}
    (hf : ∀ x, H ⟨o, x⟩ → Given H Q (f x)) : Given H Q (ask o >>= f) := hf

theorem Given.bind {R : Except ε α → Prop} {Q : Except ε β → Prop} {p : Prog Op Ans ε α}
    {f : α → Prog Op Ans ε β} (hp : Given H R p) (hok : ∀ a, R (.ok a) → Given H Q (f a))
    (herr : ∀ e, R (.error e) → Q (.error e)) : Given H Q (p >>= f) := by
  induction p with
  | ret a => exact hok a hp
  | fail e => exact herr e hp
  | halt why => exact trivial
  | op o k ih => exact fun x hx => ih x (hp x hx)

theorem Given.imp {Q' : Except ε α → Prop} {p : Prog Op Ans ε α} (hp : Given H Q p)
    (h : ∀ r, Q r → Q' r) : Given H Q' p := by
  induction p with
  | ret a => exact h _ hp
  | fail e => exact h _ hp
  | halt why => exact trivial
  | op o k ih => exact fun x hx => ih x (hp x hx)

theorem Given.attempt {Q : Except ε (Except ε α) → Prop} {p : Prog Op Ans ε α}
    (hp : Given H (fun r => Q (.ok r)) p) : Given H Q p.attempt := by
  induction p with
  | ret a => exact hp
  | fail e => exact hp
  | halt why => exact trivial
  | op o k ih => exact fun x hx => ih x (hp x hx)

/-- What the values of a program satisfy, where its failures are no concern. -/
def Yields (P : α → Prop) : Except ε α → Prop
  | .ok a => P a
  | .error _ => True

theorem Given.bind_yields {P : α → Prop} {R : β → Prop} {p : Prog Op Ans ε α}
    {f : α → Prog Op Ans ε β} (hp : Given H (Yields P) p)
    (hf : ∀ a, P a → Given H (Yields R) (f a)) : Given H (Yields R) (p >>= f) :=
  hp.bind hf fun _ _ => trivial

theorem given_ite {c : Prop} [Decidable c] {p q : Prog Op Ans ε α} (hp : c → Given H Q p)
    (hq : ¬ c → Given H Q q) : Given H Q (if c then p else q) := by
  split
  next hc => exact hp hc
  next hc => exact hq hc

end Given

/-! ## Following a program -/

/-- The program `p`, after the answers `d`, has become `q`. -/
inductive Steps : Prog Op Ans ε α → List (Answered Ans) → Prog Op Ans ε α → Prop
  | start (p : Prog Op Ans ε α) : Steps p [] p
  | answer {o : Op} {k : Ans o → Prog Op Ans ε α} {x : Ans o} {d : List (Answered Ans)}
      {q : Prog Op Ans ε α} : Steps (k x) d q → Steps (op o k) (⟨o, x⟩ :: d) q

theorem Steps.snoc {p : Prog Op Ans ε α} {d : List (Answered Ans)} {o : Op}
    {k : Ans o → Prog Op Ans ε α} (h : Steps p d (op o k)) (x : Ans o) :
    Steps p (d ++ [⟨o, x⟩]) (k x) := by
  generalize hq : op o k = q at h
  induction h with
  | start p =>
    subst hq
    exact .answer (.start (k x))
  | answer _ ih => exact .answer (ih hq)

theorem Steps.of_op {o : Op} {k : Ans o → Prog Op Ans ε α} {d : List (Answered Ans)}
    {q : Prog Op Ans ε α} (h : Steps (op o k) d q) :
    (d = [] ∧ q = op o k) ∨ ∃ x d', d = ⟨o, x⟩ :: d' ∧ Steps (k x) d' q := by
  cases h with
  | start => exact .inl ⟨rfl, rfl⟩
  | answer hrest => exact .inr ⟨_, _, rfl, hrest⟩

theorem Steps.of_ret {a : α} {d : List (Answered Ans)} {q : Prog Op Ans ε α}
    (h : Steps (ret a) d q) : d = [] ∧ q = ret a := by
  cases h
  exact ⟨rfl, rfl⟩

theorem Steps.of_nil {p q : Prog Op Ans ε α} (h : Steps p [] q) : q = p := by
  cases h
  rfl

theorem Steps.of_snoc {p q : Prog Op Ans ε α} {d : List (Answered Ans)} {o : Op} {x : Ans o}
    (h : Steps p (d ++ [⟨o, x⟩]) q) : ∃ k, Steps p d (op o k) ∧ q = k x := by
  induction d generalizing p with
  | nil =>
    cases h with
    | answer hrest => exact ⟨_, .start _, hrest.of_nil⟩
  | cons y d ih =>
    cases h with
    | answer hrest =>
      obtain ⟨k, hk, hq⟩ := ih hrest
      exact ⟨k, .answer hk, hq⟩

theorem Steps.of_ask_bind {o : Op} {f : Ans o → Prog Op Ans ε β} {d : List (Answered Ans)}
    {y : Answered Ans} {q : Prog Op Ans ε β} (h : Steps (ask o >>= f) (d ++ [y]) q) :
    ∃ x d', d ++ [y] = ⟨o, x⟩ :: d' ∧ Steps (f x) d' q := by
  rcases h.of_op with ⟨hd, -⟩ | h
  · exact absurd hd (by simp)
  · exact h

theorem Meets.steps {G : List (Answered Ans) → Op → Prop}
    {Q : List (Answered Ans) → Except ε α → Prop} {p q : Prog Op Ans ε α}
    {d : List (Answered Ans)} (h : Steps p d q) :
    ∀ {t : List (Answered Ans)}, Meets G Q t p → Meets G Q (t ++ d) q := by
  induction h with
  | start p =>
    intro t hp
    rwa [List.append_nil]
  | @answer o k x d q _ ih =>
    intro t hp
    have := ih (hp.2 x)
    rwa [List.append_assoc] at this

/-- Every request of a run was allowed when it was made. -/
theorem Meets.asked {G : List (Answered Ans) → Op → Prop}
    {Q : List (Answered Ans) → Except ε α → Prop} {p q : Prog Op Ans ε α}
    {t d : List (Answered Ans)} {x : Answered Ans} (h : Meets G Q [] p)
    (hsteps : Steps p (t ++ x :: d) q) : G t x.1 := by
  suffices hfrom : ∀ (t u : List (Answered Ans)) (p : Prog Op Ans ε α), Meets G Q u p →
      Steps p (t ++ x :: d) q → G (u ++ t) x.1 by
    have := hfrom t [] p h hsteps
    rwa [List.nil_append] at this
  intro t
  induction t with
  | nil =>
    intro u p hp hrun
    cases hrun with
    | answer hrest =>
      rw [List.append_nil]
      exact hp.1
  | cons y t ih =>
    intro u p hp hrun
    cases hrun with
    | answer hrest =>
      have hlater := ih (u ++ [_]) _ (hp.2 _) hrest
      rwa [List.append_assoc] at hlater

/-! ## Programs that do not panic -/

section Calm

/-- Whatever it is told, the program does not panic. -/
def Calm : Prog Op Ans ε α → Prop
  | ret _ | fail _ | halt .unfinished => True
  | halt (.panicked _) => False
  | op _ k => ∀ x, Calm (k x)

theorem calm_pure {a : α} : Calm (pure a : Prog Op Ans ε α) := trivial

theorem calm_throw {e : ε} : Calm (throw e : Prog Op Ans ε α) := trivial

theorem calm_lift {x : Except ε α} : Calm (lift x : Prog Op Ans ε α) := by
  cases x <;> trivial

theorem calm_ask {o : Op} : Calm (ask o : Prog Op Ans ε (Ans o)) := fun _ => trivial

theorem Calm.bind {p : Prog Op Ans ε α} {f : α → Prog Op Ans ε β} (hp : Calm p)
    (hf : ∀ a, Calm (f a)) : Calm (p >>= f) := by
  induction p with
  | ret a => exact hf a
  | fail e => trivial
  | halt why =>
    cases why with
    | panicked message => exact hp.elim
    | unfinished => trivial
  | op o k ih => exact fun x => ih x (hp x)

theorem Calm.attempt {p : Prog Op Ans ε α} (hp : Calm p) : Calm p.attempt := by
  induction p with
  | ret a => trivial
  | fail e => trivial
  | halt why =>
    cases why with
    | panicked message => exact hp.elim
    | unfinished => trivial
  | op o k ih => exact fun x => ih x (hp x)

theorem calm_ite {c : Prop} [Decidable c] {p q : Prog Op Ans ε α} (hp : Calm p) (hq : Calm q) :
    Calm (if c then p else q) := by
  split <;> assumption

theorem Calm.not_panicked {p : Prog Op Ans ε α} (hp : Calm p) (d : List (Answered Ans))
    (message : String) : ¬ Steps p d (halt (.panicked message)) := by
  intro h
  generalize hq : halt (.panicked message) = q at h
  induction h with
  | start p =>
    subst hq
    exact hp
  | answer _ ih => exact ih (hp _) hq

end Calm

/-- Whatever it is told, the program ends of itself. -/
def Total : Prog Op Ans ε α → Prop
  | ret _ | fail _ => True
  | halt _ => False
  | op _ k => ∀ x, Total (k x)

/-! ## How a program ended -/

section Ended

/-- The program was given the answers `d`, one after the other, and ended in `r`. -/
inductive Ended : {α : Type} → Prog Op Ans ε α → List (Answered Ans) → Except ε α → Prop
  | ret {α : Type} (a : α) : Ended (ret a) [] (.ok a)
  | fail {α : Type} (e : ε) : Ended (fail e : Prog Op Ans ε α) [] (.error e)
  | op {α : Type} {o : Op} {k : Ans o → Prog Op Ans ε α} {x : Ans o} {d : List (Answered Ans)}
      {r : Except ε α} : Ended (k x) d r → Ended (op o k) (⟨o, x⟩ :: d) r

variable {d : List (Answered Ans)}

theorem ended_pure {a : α} {r : Except ε α} :
    Ended (pure a : Prog Op Ans ε α) d r ↔ d = [] ∧ r = .ok a := by
  constructor
  · intro h
    cases h
    exact ⟨rfl, rfl⟩
  · rintro ⟨rfl, rfl⟩
    exact .ret a

theorem ended_throw {e : ε} {r : Except ε α} :
    Ended (throw e : Prog Op Ans ε α) d r ↔ d = [] ∧ r = .error e := by
  constructor
  · intro h
    cases h
    exact ⟨rfl, rfl⟩
  · rintro ⟨rfl, rfl⟩
    exact .fail e

theorem ended_lift {x r : Except ε α} : Ended (lift x : Prog Op Ans ε α) d r ↔ d = [] ∧ r = x := by
  cases x with
  | ok a => exact ended_pure
  | error e => exact ended_throw

theorem ended_ask_bind {o : Op} {f : Ans o → Prog Op Ans ε β} {r : Except ε β} :
    Ended (ask o >>= f) d r ↔ ∃ x d', d = ⟨o, x⟩ :: d' ∧ Ended (f x) d' r := by
  constructor
  · intro h
    cases h with
    | op hrest => exact ⟨_, _, rfl, hrest⟩
  · rintro ⟨x, d', rfl, h⟩
    exact .op h

theorem ended_ask {o : Op} {r : Except ε (Ans o)} :
    Ended (ask o : Prog Op Ans ε (Ans o)) d r ↔ ∃ x, d = [⟨o, x⟩] ∧ r = .ok x := by
  constructor
  · intro h
    cases h with
    | op hrest =>
      cases hrest
      exact ⟨_, rfl, rfl⟩
  · rintro ⟨x, rfl, rfl⟩
    exact .op (.ret x)

/-- A sequence failed in its first part, or in its second part after what the first returned. -/
theorem Ended.of_bind {p : Prog Op Ans ε α} {f : α → Prog Op Ans ε β} {r : Except ε β}
    (h : Ended (p >>= f) d r) :
    (∃ e, r = .error e ∧ Ended p d (.error e)) ∨
      ∃ a d₁ d₂, d = d₁ ++ d₂ ∧ Ended p d₁ (.ok a) ∧ Ended (f a) d₂ r := by
  induction p generalizing d with
  | ret a => exact .inr ⟨a, [], d, rfl, .ret a, h⟩
  | fail e =>
    obtain ⟨rfl, rfl⟩ := ended_throw.mp h
    exact .inl ⟨e, rfl, .fail e⟩
  | halt why => cases h
  | op o k ih =>
    cases h with
    | op hrest =>
      rcases ih _ hrest with ⟨e, rfl, hp⟩ | ⟨a, d₁, d₂, rfl, hp, hf⟩
      · exact .inl ⟨e, rfl, .op hp⟩
      · exact .inr ⟨a, _ :: d₁, d₂, rfl, .op hp, hf⟩

/-- A sequence succeeded: both its parts did. -/
theorem Ended.of_bind_ok {p : Prog Op Ans ε α} {f : α → Prog Op Ans ε β} {b : β}
    (h : Ended (p >>= f) d (.ok b)) :
    ∃ a d₁ d₂, d = d₁ ++ d₂ ∧ Ended p d₁ (.ok a) ∧ Ended (f a) d₂ (.ok b) := by
  rcases h.of_bind with ⟨e, he, -⟩ | h
  · cases he
  · exact h

theorem Ended.of_lift_bind_ok {x : Except ε α} {f : α → Prog Op Ans ε β} {b : β}
    (h : Ended (lift x >>= f) d (.ok b)) : ∃ a, x = .ok a ∧ Ended (f a) d (.ok b) := by
  obtain ⟨a, d₁, d₂, rfl, hx, hf⟩ := h.of_bind_ok
  obtain ⟨rfl, ha⟩ := ended_lift.mp hx
  exact ⟨a, ha.symm, hf⟩

/-- A run whose answers are all allowed ends as promised. -/
theorem Ended.given {H : Answered Ans → Prop} {Q : Except ε α → Prop} {p : Prog Op Ans ε α}
    {r : Except ε α} (h : Ended p d r) (hp : Given H Q p) (hd : ∀ e ∈ d, H e) : Q r := by
  induction p generalizing d with
  | ret a =>
    obtain ⟨-, rfl⟩ := ended_pure.mp h
    exact hp
  | fail e =>
    obtain ⟨-, rfl⟩ := ended_throw.mp h
    exact hp
  | halt why => cases h
  | op o k ih =>
    cases h with
    | op hrest =>
      have hfirst := hd _ List.mem_cons_self
      exact ih _ hrest (hp _ hfirst) fun e he => hd e (List.mem_cons_of_mem _ he)

/-- The program where each operation is answered by `reply`: what it was told and how it ended. -/
def answeredBy (reply : (o : Op) → Ans o) :
    Prog Op Ans ε α → Option (List (Answered Ans) × Except ε α)
  | ret a => some ([], .ok a)
  | fail e => some ([], .error e)
  | halt _ => none
  | op o k => ((k (reply o)).answeredBy reply).map fun (d, r) => (⟨o, reply o⟩ :: d, r)

theorem ended_of_answeredBy {reply : (o : Op) → Ans o} {p : Prog Op Ans ε α} {r : Except ε α}
    (h : p.answeredBy reply = some (d, r)) : Ended p d r := by
  induction p generalizing d with
  | ret a =>
    cases h
    exact .ret a
  | fail e =>
    cases h
    exact .fail e
  | halt why => cases h
  | op o k ih =>
    obtain ⟨⟨d', r'⟩, hk, heq⟩ := Option.map_eq_some_iff.mp h
    cases heq
    exact .op (ih _ hk)

/-- Every answer is the one that `reply` gives. -/
theorem eq_reply_of_answeredBy {reply : (o : Op) → Ans o} {p : Prog Op Ans ε α} {r : Except ε α}
    (h : p.answeredBy reply = some (d, r)) : ∀ x ∈ d, x = ⟨x.1, reply x.1⟩ := by
  induction p generalizing d with
  | ret a =>
    cases h
    exact fun x hx => nomatch hx
  | fail e =>
    cases h
    exact fun x hx => nomatch hx
  | halt why => cases h
  | op o k ih =>
    obtain ⟨⟨d', r'⟩, hk, heq⟩ := Option.map_eq_some_iff.mp h
    cases heq
    intro x hx
    rcases List.mem_cons.mp hx with rfl | hx
    · rfl
    · exact ih _ hk x hx

/-- A program that ended went on, after each answer, with one that ended. -/
theorem Ended.steps {p : Prog Op Ans ε α} {d' : List (Answered Ans)} {r : Except ε α}
    (h : Ended p (d ++ d') r) : ∃ q, Steps p d q ∧ Ended q d' r := by
  induction d generalizing p with
  | nil => exact ⟨p, .start p, h⟩
  | cons x d ih =>
    cases h with
    | op hrest =>
      obtain ⟨q, hsteps, hq⟩ := ih hrest
      exact ⟨q, .answer hsteps, hq⟩

theorem Ended.of_outcome {ε' : Type} {p : Prog Op Ans ε α} {r : Except ε' (Except ε α)}
    (h : Ended (p.outcome : Prog Op Ans ε' (Except ε α)) d r) : ∃ r', r = .ok r' ∧ Ended p d r' := by
  induction p generalizing d with
  | ret a =>
    obtain ⟨rfl, rfl⟩ := ended_pure.mp h
    exact ⟨.ok a, rfl, .ret a⟩
  | fail e =>
    obtain ⟨rfl, rfl⟩ := ended_pure.mp h
    exact ⟨.error e, rfl, .fail e⟩
  | halt why => cases h
  | op o k ih =>
    cases h with
    | op hrest =>
      obtain ⟨r', rfl, hp⟩ := ih _ hrest
      exact ⟨r', rfl, .op hp⟩

/-- What a program may end in, it ends in. -/
theorem Meets.ended {G : List (Answered Ans) → Op → Prop}
    {Q : List (Answered Ans) → Except ε α → Prop} {p : Prog Op Ans ε α} {r : Except ε α}
    {t : List (Answered Ans)} (h : Meets G Q t p) (hended : Ended p d r) : Q (t ++ d) r := by
  induction hended generalizing t with
  | ret a => rwa [List.append_nil]
  | fail e => rwa [List.append_nil]
  | op _ ih =>
    have hrest := ih (h.2 _)
    rwa [List.append_assoc] at hrest

theorem Ended.of_attempt {p : Prog Op Ans ε α} {r : Except ε (Except ε α)}
    (h : Ended p.attempt d r) : ∃ r', r = .ok r' ∧ Ended p d r' := by
  rw [attempt_eq_outcome] at h
  exact h.of_outcome

theorem Ended.asked {A : Op → Bool} {p : Prog Op Ans ε α} {r : Except ε α} (h : Ended p d r)
    (hp : Asks A p) : ∀ x ∈ d, A x.1 = true := by
  induction h with
  | ret a => exact fun x hx => nomatch hx
  | fail e => exact fun x hx => nomatch hx
  | op _ ih =>
    intro x hx
    rcases List.mem_cons.mp hx with rfl | hx
    · exact hp.1
    · exact ih (hp.2 _) x hx

/-- A sequence is still in its first part, or in its second part after what the first returned. -/
theorem Steps.of_bind {p : Prog Op Ans ε α} {f : α → Prog Op Ans ε β} {q : Prog Op Ans ε β}
    (h : Steps (p >>= f) d q) :
    (∃ p', Steps p d p' ∧ q = p' >>= f) ∨
      ∃ a d₁ d₂, d = d₁ ++ d₂ ∧ Ended p d₁ (.ok a) ∧ Steps (f a) d₂ q := by
  induction p generalizing d with
  | ret a => exact .inr ⟨a, [], d, rfl, .ret a, h⟩
  | fail e =>
    cases h
    exact .inl ⟨_, .start _, rfl⟩
  | halt why =>
    cases h
    exact .inl ⟨_, .start _, rfl⟩
  | op o k ih =>
    rcases h.of_op with ⟨rfl, rfl⟩ | ⟨x, d', rfl, hrest⟩
    · exact .inl ⟨_, .start _, rfl⟩
    · rcases ih x hrest with ⟨p', hp, hq⟩ | ⟨a, d₁, d₂, rfl, hp, hf⟩
      · exact .inl ⟨p', .answer hp, hq⟩
      · exact .inr ⟨a, _ :: d₁, d₂, rfl, .op hp, hf⟩

theorem Steps.asked {A : Op → Bool} {p q : Prog Op Ans ε α} (h : Steps p d q) (hp : Asks A p) :
    ∀ x ∈ d, A x.1 = true := by
  induction h with
  | start p => exact fun x hx => nomatch hx
  | answer _ ih =>
    intro x hx
    rcases List.mem_cons.mp hx with rfl | hx
    · exact hp.1
    · exact ih (hp.2 _) x hx

/-- What the first part of a sequence does not ask for, the second part was answered. -/
theorem Steps.of_bind_asks {A : Op → Bool} {p : Prog Op Ans ε α} {f : α → Prog Op Ans ε β}
    {q : Prog Op Ans ε β} {x : Answered Ans} (h : Steps (p >>= f) d q) (hp : Asks A p) (hx : x ∈ d)
    (hA : A x.1 = false) :
    ∃ a d₁ d₂, d = d₁ ++ d₂ ∧ x ∈ d₂ ∧ Ended p d₁ (.ok a) ∧ Steps (f a) d₂ q := by
  have hnot : ¬ A x.1 = true := by simp [hA]
  rcases h.of_bind with ⟨p', hfirst, -⟩ | ⟨a, d₁, d₂, rfl, hfirst, hrest⟩
  · exact absurd (hfirst.asked hp x hx) hnot
  · refine ⟨a, d₁, d₂, rfl, ?_, hfirst, hrest⟩
    rcases List.mem_append.mp hx with hx | hx
    · exact absurd (hfirst.asked hp x hx) hnot
    · exact hx

end Ended

/-! ## Answers that end a program -/

section Heeds

variable {F : Answered Ans → Prop} {last : Option (Answered Ans)}

/-- No answer is in `F` if the program succeeded; the last one, and only that one, is if it failed. -/
def EndsAt (F : Answered Ans → Prop) (d : List (Answered Ans)) : Except ε α → Prop
  | .ok _ => ∀ x ∈ d, ¬ F x
  | .error _ => ∃ d' x, d = d' ++ [x] ∧ F x ∧ ∀ y ∈ d', ¬ F y

theorem EndsAt.append {d₁ d₂ : List (Answered Ans)} {r : Except ε α} (h : EndsAt F d₂ r)
    (h₁ : ∀ x ∈ d₁, ¬ F x) : EndsAt F (d₁ ++ d₂) r := by
  cases r with
  | ok a =>
    intro x hx
    rcases List.mem_append.mp hx with hx | hx
    · exact h₁ x hx
    · exact h x hx
  | error e =>
    obtain ⟨d', x, rfl, hF, hbefore⟩ := h
    refine ⟨d₁ ++ d', x, by rw [List.append_assoc], hF, ?_⟩
    intro y hy
    rcases List.mem_append.mp hy with hy | hy
    · exact h₁ y hy
    · exact hbefore y hy

/-- The program fails at the first answer in `F` and nowhere else. It starts right after the
answer `last`, which may be the one it fails at. -/
def Heeds (F : Answered Ans → Prop) (last : Option (Answered Ans)) (p : Prog Op Ans ε α) : Prop :=
  ∀ d r, Ended p d r → EndsAt F (last.toList ++ d) r

theorem Heeds.after {p : Prog Op Ans ε α} (h : Heeds F none p) (hlast : ∀ x ∈ last, ¬ F x) :
    Heeds F last p := by
  intro d r hd
  refine (h d r hd).append ?_
  intro x hx
  exact hlast x (Option.mem_toList.mp hx)

theorem heeds_pure {a : α} : Heeds F none (pure a : Prog Op Ans ε α) := by
  intro d r hd
  obtain ⟨rfl, rfl⟩ := ended_pure.mp hd
  exact fun x hx => nomatch hx

theorem heeds_halt {why : Halt} : Heeds F last (halt why : Prog Op Ans ε α) := by
  intro d r hd
  cases hd

/-- A check of the answer just given. -/
theorem heeds_lift {y : Answered Ans} {x : Except ε α} (hok : ∀ a, x = .ok a → ¬ F y)
    (herror : ∀ e, x = .error e → F y) : Heeds F (some y) (lift x : Prog Op Ans ε α) := by
  intro d r hd
  obtain ⟨rfl, rfl⟩ := ended_lift.mp hd
  cases r with
  | ok a =>
    intro z hz
    rw [List.mem_singleton.mp hz]
    exact hok a rfl
  | error e => exact ⟨[], y, rfl, herror e rfl, fun z hz => nomatch hz⟩

theorem heeds_throw {y : Answered Ans} {e : ε} (h : F y) :
    Heeds F (some y) (throw e : Prog Op Ans ε α) := by
  intro d r hd
  obtain ⟨rfl, rfl⟩ := ended_throw.mp hd
  exact ⟨[], y, rfl, h, fun z hz => nomatch hz⟩

theorem heeds_ask {o : Op} (h : ∀ x, ¬ F ⟨o, x⟩) : Heeds F none (ask o : Prog Op Ans ε (Ans o)) := by
  intro d r hd
  obtain ⟨x, rfl, rfl⟩ := ended_ask.mp hd
  intro y hy
  rw [List.mem_singleton.mp hy]
  exact h x

theorem heeds_ask_bind {o : Op} {f : Ans o → Prog Op Ans ε β}
    (h : ∀ x, Heeds F (some ⟨o, x⟩) (f x)) : Heeds F none (ask o >>= f) := by
  intro d r hd
  obtain ⟨x, d', rfl, hrest⟩ := ended_ask_bind.mp hd
  exact h x d' r hrest

theorem Heeds.bind {p : Prog Op Ans ε α} {f : α → Prog Op Ans ε β} (hp : Heeds F last p)
    (hf : ∀ a, Heeds F none (f a)) : Heeds F last (p >>= f) := by
  intro d r hd
  rcases hd.of_bind with ⟨e, rfl, hfail⟩ | ⟨a, d₁, d₂, rfl, hfirst, hrest⟩
  · exact hp d _ hfail
  · have h₁ : ∀ x ∈ last.toList ++ d₁, ¬ F x := hp d₁ _ hfirst
    have h₂ : EndsAt F d₂ r := hf a d₂ r hrest
    rw [← List.append_assoc]
    exact h₂.append h₁

/-- A part whose errors are values, and which asks for nothing that `F` is about. -/
theorem heeds_outcome {ε' : Type} {A : Op → Bool} {p : Prog Op Ans ε α} (hp : Asks A p)
    (hA : ∀ x : Answered Ans, A x.1 = true → ¬ F x) :
    Heeds F none (p.outcome : Prog Op Ans ε' (Except ε α)) := by
  intro d r hd
  obtain ⟨r', rfl, hended⟩ := hd.of_outcome
  intro x hx
  exact hA x (hended.asked hp x hx)

end Heeds

/-! ## What was answered first -/

section FirstAnswer

variable [DecidableEq Op]

/-- The first answer to `o`, if it was asked for. -/
def firstAnswer (o : Op) : List (Answered Ans) → Option (Ans o)
  | [] => none
  | ⟨o', x⟩ :: t => if h : o' = o then some (h ▸ x) else firstAnswer o t

@[simp] theorem firstAnswer_nil {o : Op} : firstAnswer o ([] : List (Answered Ans)) = none := rfl

@[simp] theorem firstAnswer_cons_self {o : Op} {x : Ans o} {t : List (Answered Ans)} :
    firstAnswer o (⟨o, x⟩ :: t) = some x := by
  simp [firstAnswer]

theorem firstAnswer_cons_of_ne {o : Op} {e : Answered Ans} {t : List (Answered Ans)}
    (h : e.1 ≠ o) : firstAnswer o (e :: t) = firstAnswer o t := by
  obtain ⟨o', x⟩ := e
  exact dif_neg h

theorem firstAnswer_append_of_not_mem {o : Op} {t d : List (Answered Ans)}
    (h : ∀ e ∈ t, e.1 ≠ o) : firstAnswer o (t ++ d) = firstAnswer o d := by
  induction t with
  | nil => rfl
  | cons e t ih =>
    rw [List.cons_append, firstAnswer_cons_of_ne (h e (List.mem_cons_self ..))]
    exact ih fun e' he' => h e' (List.mem_cons_of_mem _ he')

theorem firstAnswer_append_of_some {o : Op} {x : Ans o} {t : List (Answered Ans)}
    (h : firstAnswer o t = some x) (d : List (Answered Ans)) : firstAnswer o (t ++ d) = some x := by
  induction t with
  | nil => cases h
  | cons e t ih =>
    obtain ⟨o', y⟩ := e
    rw [List.cons_append]
    by_cases ho : o' = o
    · subst ho
      rw [firstAnswer_cons_self] at h ⊢
      exact h
    · rw [firstAnswer_cons_of_ne ho] at h ⊢
      exact ih h

end FirstAnswer

end Prog

end StarcoinMcp
