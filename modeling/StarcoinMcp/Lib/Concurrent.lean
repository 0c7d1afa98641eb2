import StarcoinMcp.Lib.Interaction
import StarcoinMcp.Lib.Trace

/-! Any number of programs at work on one shared state. A step starts a call or gives
one waiting call its next answer, so a run is an arbitrary interleaving, one atomic
operation at a time. The log records every operation with its caller, its time and its
answer; what a call has done so far is its part of the log. Time does not go back. -/

namespace StarcoinMcp

/-- The calls that can be made and what an operation does. The surroundings propose an
answer; an operation on the shared state finds its own, whatever is proposed. -/
structure System (ι σ Op : Type) (Ans : Op → Type) (ε α : Type) where
  program : ι → Prog Op Ans ε α
  perform : (o : Op) → ℕ → Ans o → σ → Ans o × σ
  settled : ∀ o now x s, perform o now (perform o now x s).1 s = perform o now x s

/-- One operation of one call. -/
structure Entry {Op : Type} (Ans : Op → Type) where
  call : ℕ
  time : ℕ
  event : Answered Ans

structure World (ι σ Op : Type) (Ans : Op → Type) (ε α : Type) where
  shared : σ
  clock : ℕ
  calls : List (ι × Prog Op Ans ε α)
  log : List (Entry Ans)

inductive Move (ι : Type) {Op : Type} (Ans : Op → Type)
  | start (c : ι)
  | answer (call : ℕ) (elapsed : ℕ) (reply : (o : Op) → Ans o)

/-- What call `i` asked for, and was answered, in a stretch of the log. -/
def traceOf {Op : Type} {Ans : Op → Type} (i : ℕ) (log : List (Entry Ans)) : List (Answered Ans) :=
  (log.filter fun e => e.call = i).map Entry.event

/-- `P` of every entry of the log, given the entries before it. -/
def Logged {Op : Type} {Ans : Op → Type} (P : List (Entry Ans) → Entry Ans → Prop)
    (log : List (Entry Ans)) : Prop := ∀ before e after, log = before ++ e :: after → P before e

section Log

variable {Op : Type} {Ans : Op → Type} {i : ℕ} {log : List (Entry Ans)}

@[simp] theorem traceOf_nil : traceOf i ([] : List (Entry Ans)) = [] := rfl

theorem traceOf_append {log' : List (Entry Ans)} :
    traceOf i (log ++ log') = traceOf i log ++ traceOf i log' := by
  simp [traceOf]

theorem traceOf_snoc_self {now : ℕ} {x : Answered Ans} :
    traceOf i (log ++ [⟨i, now, x⟩]) = traceOf i log ++ [x] := by
  simp [traceOf]

theorem traceOf_snoc_other {j now : ℕ} {x : Answered Ans} (h : j ≠ i) :
    traceOf i (log ++ [⟨j, now, x⟩]) = traceOf i log := by
  simp [traceOf, h]

theorem mem_traceOf {x : Answered Ans} :
    x ∈ traceOf i log ↔ ∃ e ∈ log, e.call = i ∧ e.event = x := by
  simp [traceOf, and_assoc]

theorem logged_nil {P : List (Entry Ans) → Entry Ans → Prop} : Logged P [] := by
  intro before e after h
  simp at h

theorem Logged.snoc {P : List (Entry Ans) → Entry Ans → Prop} {e : Entry Ans} (h : Logged P log)
    (he : P log e) : Logged P (log ++ [e]) := by
  intro before e' after heq
  rcases List.eq_nil_or_concat after with rfl | ⟨after, e'', rfl⟩
  · obtain ⟨rfl, hlast⟩ := List.append_inj' heq rfl
    cases hlast
    exact he
  · rw [List.concat_eq_append, ← List.cons_append, ← List.append_assoc] at heq
    obtain ⟨rfl, -⟩ := List.append_inj' heq rfl
    exact h before e' after rfl

theorem Logged.of_append {P : List (Entry Ans) → Entry Ans → Prop} {log' : List (Entry Ans)}
    (h : Logged P (log ++ log')) : Logged P log := by
  intro before e after heq
  exact h before e (after ++ log') (by rw [heq, List.append_assoc, List.cons_append])

/-- The log around one answer of a call. -/
theorem exists_split_of_traceOf {x : Answered Ans} {t₁ t₂ : List (Answered Ans)} :
    ∀ {log : List (Entry Ans)}, traceOf i log = t₁ ++ x :: t₂ →
      ∃ before e after, log = before ++ e :: after ∧ e.call = i ∧ e.event = x ∧
        traceOf i before = t₁ := by
  intro log h
  induction log generalizing t₁ with
  | nil => simp at h
  | cons e log ih =>
    by_cases he : e.call = i
    · have hcons : traceOf i (e :: log) = e.event :: traceOf i log := by simp [traceOf, he]
      rw [hcons] at h
      cases t₁ with
      | nil =>
        obtain ⟨rfl, -⟩ := List.cons.inj h
        exact ⟨[], e, log, rfl, he, rfl, rfl⟩
      | cons y t₁ =>
        obtain ⟨rfl, hrest⟩ := List.cons.inj h
        obtain ⟨before, e', after, rfl, hcall, hevent, htrace⟩ := ih hrest
        refine ⟨e :: before, e', after, rfl, hcall, hevent, ?_⟩
        rw [← htrace]
        simp [traceOf, he]
    · have hskip : traceOf i (e :: log) = traceOf i log := by simp [traceOf, he]
      rw [hskip] at h
      obtain ⟨before, e', after, rfl, hcall, hevent, htrace⟩ := ih h
      refine ⟨e :: before, e', after, rfl, hcall, hevent, ?_⟩
      rw [← htrace]
      simp [traceOf, he]

end Log

namespace System

variable {ι σ Op : Type} {Ans : Op → Type} {ε α : Type} (sys : System ι σ Op Ans ε α)

def initial (s : σ) : World ι σ Op Ans ε α := ⟨s, 0, [], []⟩

def started (w : World ι σ Op Ans ε α) (c : ι) : World ι σ Op Ans ε α :=
  { w with calls := w.calls ++ [(c, sys.program c)] }

/-- Call `i`, waiting for `o`, goes on at time `now` with what `o` finds, `x` being proposed. -/
def answered (w : World ι σ Op Ans ε α) (i : ℕ) (c : ι) {o : Op} (k : Ans o → Prog Op Ans ε α)
    (now : ℕ) (x : Ans o) : World ι σ Op Ans ε α :=
  { shared := (sys.perform o now x w.shared).2
    clock := now
    calls := w.calls.set i (c, k (sys.perform o now x w.shared).1)
    log := w.log ++ [⟨i, now, ⟨o, (sys.perform o now x w.shared).1⟩⟩] }

def step (w : World ι σ Op Ans ε α) : Move ι Ans → World ι σ Op Ans ε α
  | .start c => sys.started w c
  | .answer i elapsed reply =>
    match w.calls[i]? with
    | some (c, .op o k) => sys.answered w i c k (w.clock + elapsed) (reply o)
    | _ => w

def run (s : σ) (moves : List (Move ι Ans)) : World ι σ Op Ans ε α :=
  Trace.run sys.step (initial s) moves

variable {sys}

/-- What survives a start and one answer survives any number of moves. -/
theorem steps_invariant {I : World ι σ Op Ans ε α → Prop} {w : World ι σ Op Ans ε α} (h : I w)
    (hstart : ∀ w c, I w → I (sys.started w c))
    (hanswer : ∀ w i c o k now x, I w → w.calls[i]? = some (c, .op o k) → w.clock ≤ now →
      I (sys.answered w i c k now x)) (moves : List (Move ι Ans)) : I (Trace.run sys.step w moves) := by
  refine Trace.run_invariant (fun w m hw => ?_) h moves
  cases m with
  | start c => exact hstart w c hw
  | answer i elapsed reply =>
    show I (match w.calls[i]? with
      | some (c, .op o k) => sys.answered w i c k (w.clock + elapsed) (reply o)
      | _ => w)
    split
    · next c o k hi => exact hanswer w i c o k _ _ hw hi (Nat.le_add_right _ _)
    · exact hw

/-- An invariant of every run. -/
theorem run_invariant {I : World ι σ Op Ans ε α → Prop} {s : σ} (hinit : I (initial s))
    (hstart : ∀ w c, I w → I (sys.started w c))
    (hanswer : ∀ w i c o k now x, I w → w.calls[i]? = some (c, .op o k) → w.clock ≤ now →
      I (sys.answered w i c k now x)) (moves : List (Move ι Ans)) : I (sys.run s moves) :=
  steps_invariant hinit hstart hanswer moves

/-- A call that has returned asks for nothing more. -/
theorem log_after_return {s : σ} {moves₁ : List (Move ι Ans)} {i : ℕ} {c : ι} {a : α}
    (h : (sys.run s moves₁).calls[i]? = some (c, .ret a)) (moves₂ : List (Move ι Ans)) :
    ∃ more, (sys.run s (moves₁ ++ moves₂)).log = (sys.run s moves₁).log ++ more ∧
      ∀ e ∈ more, e.call ≠ i := by
  have hrun : sys.run s (moves₁ ++ moves₂) = Trace.run sys.step (sys.run s moves₁) moves₂ :=
    Trace.run_append
  rw [hrun]
  refine (steps_invariant (I := fun w => w.calls[i]? = some (c, .ret a) ∧
    ∃ more, w.log = (sys.run s moves₁).log ++ more ∧ ∀ e ∈ more, e.call ≠ i)
    ⟨h, [], (List.append_nil _).symm, fun e he => nomatch he⟩ ?_ ?_ moves₂).2
  · rintro w c' ⟨hi, hlog⟩
    exact ⟨(List.getElem?_append_left (List.getElem?_eq_some_iff.mp hi).1).trans hi, hlog⟩
  · rintro w j c' o k now x ⟨hi, more, hlog, hmore⟩ hj _
    have hne : j ≠ i := by
      rintro rfl
      cases hi.symm.trans hj
    refine ⟨(List.getElem?_set_ne hne).trans hi, more ++
      [⟨j, now, ⟨o, (sys.perform o now x w.shared).1⟩⟩], ?_, ?_⟩
    · rw [← List.append_assoc, ← hlog]
      rfl
    · intro e he
      rcases List.mem_append.mp he with he | he
      · exact hmore e he
      · rw [List.mem_singleton.mp he]
        exact hne

/-! ## Every call follows its program -/

/-- The calls of the world are where their part of the log has brought them. -/
structure Followed (sys : System ι σ Op Ans ε α) (w : World ι σ Op Ans ε α) : Prop where
  calls : ∀ i c p, w.calls[i]? = some (c, p) → (sys.program c).Steps (traceOf i w.log) p
  known : ∀ e ∈ w.log, e.call < w.calls.length
  reached : Logged (fun before e => ∃ c p k, w.calls[e.call]? = some (c, p) ∧
    (sys.program c).Steps (traceOf e.call before) (.op e.event.1 k)) w.log

theorem traceOf_eq_nil {log : List (Entry Ans)} {n : ℕ} (h : ∀ e ∈ log, e.call < n) :
    traceOf n log = [] := by
  unfold traceOf
  rw [List.filter_eq_nil_iff.mpr, List.map_nil]
  intro e he
  simpa using (h e he).ne

theorem Followed.started {w : World ι σ Op Ans ε α} (h : Followed sys w) (c : ι) :
    Followed sys (sys.started w c) := by
  have hold : ∀ {i : ℕ} {x}, w.calls[i]? = some x → (sys.started w c).calls[i]? = some x :=
    fun hi => (List.getElem?_append_left (List.getElem?_eq_some_iff.mp hi).1).trans hi
  refine ⟨fun i c' p hi => ?_, fun e he => ?_, fun before e after heq => ?_⟩
  · rcases lt_trichotomy i w.calls.length with hlt | rfl | hgt
    · exact h.calls i c' p ((List.getElem?_append_left hlt).symm.trans hi)
    · -- the new call has nothing in the log yet
      have hnew : (sys.started w c).calls[w.calls.length]? = some (c, sys.program c) :=
        List.getElem?_concat_length
      obtain ⟨rfl, rfl⟩ := Prod.mk.inj (Option.some.inj (hnew.symm.trans hi))
      show (sys.program c).Steps (traceOf w.calls.length w.log) _
      rw [traceOf_eq_nil h.known]
      exact .start _
    · have hlen : (sys.started w c).calls.length = w.calls.length + 1 := List.length_append
      have hnone := List.getElem?_eq_none (hlen.trans_le hgt)
      cases hnone.symm.trans hi
  · exact (h.known e he).trans_le (by simp [System.started])
  · obtain ⟨c', p, k, hcall, hsteps⟩ := h.reached before e after heq
    exact ⟨c', p, k, hold hcall, hsteps⟩

theorem Followed.answered {w : World ι σ Op Ans ε α} (h : Followed sys w) {i : ℕ} {c : ι} {o : Op}
    {k : Ans o → Prog Op Ans ε α} (hi : w.calls[i]? = some (c, .op o k)) (now : ℕ) (x : Ans o) :
    Followed sys (sys.answered w i c k now x) := by
  have hlt : i < w.calls.length := (List.getElem?_eq_some_iff.mp hi).1
  have hself : (sys.answered w i c k now x).calls[i]? =
      some (c, k (sys.perform o now x w.shared).1) := List.getElem?_set_self hlt
  have hother : ∀ {j : ℕ}, i ≠ j → (sys.answered w i c k now x).calls[j]? = w.calls[j]? :=
    fun hne => List.getElem?_set_ne hne
  -- a call keeps its name whatever is answered to whom
  have hname : ∀ {j : ℕ} {c' : ι} {p}, w.calls[j]? = some (c', p) →
      ∃ p', (sys.answered w i c k now x).calls[j]? = some (c', p') := by
    intro j c' p hj
    by_cases hij : i = j
    · subst hij
      obtain ⟨rfl, -⟩ := Prod.mk.inj (Option.some.inj (hi.symm.trans hj))
      exact ⟨_, hself⟩
    · exact ⟨p, (hother hij).trans hj⟩
  refine ⟨fun j c' p hj => ?_, fun e he => ?_, ?_⟩
  · by_cases hij : i = j
    · subst hij
      obtain ⟨rfl, rfl⟩ := Prod.mk.inj (Option.some.inj (hself.symm.trans hj))
      show (sys.program c).Steps (traceOf i (w.log ++ [_])) _
      rw [traceOf_snoc_self]
      exact (h.calls i c _ hi).snoc _
    · rw [hother hij] at hj
      show (sys.program c').Steps (traceOf j (w.log ++ [_])) _
      rw [traceOf_snoc_other hij]
      exact h.calls j c' p hj
  · have hlen : (sys.answered w i c k now x).calls.length = w.calls.length := List.length_set
    rw [hlen]
    rcases List.mem_append.mp he with he | he
    · exact h.known e he
    · rw [List.mem_singleton.mp he]
      exact hlt
  · refine Logged.snoc (fun before e after heq => ?_) ⟨c, _, k, hself, h.calls i c _ hi⟩
    obtain ⟨c', p, k', hcall, hsteps⟩ := h.reached before e after heq
    obtain ⟨p', hp'⟩ := hname hcall
    exact ⟨c', p', k', hp', hsteps⟩

theorem followed_run (s : σ) (moves : List (Move ι Ans)) : Followed sys (sys.run s moves) := by
  refine run_invariant ⟨?_, ?_, logged_nil⟩ (fun w c hw => hw.started c)
    (fun w i c o k now x hw hi _ => hw.answered hi now x) moves
  · intro i c p hi
    simp [initial] at hi
  · intro e he
    simp [initial] at he

/-- A request found in the log is one its program asked for, after the answers it had by then. -/
theorem Followed.allowed {w : World ι σ Op Ans ε α} (h : Followed sys w)
    {G : ι → List (Answered Ans) → Op → Prop} {Q : ι → List (Answered Ans) → Except ε α → Prop}
    (hmeets : ∀ c, (sys.program c).Meets (G c) (Q c) []) {before after : List (Entry Ans)}
    {e : Entry Ans} (heq : w.log = before ++ e :: after) :
    ∃ c p, w.calls[e.call]? = some (c, p) ∧ G c (traceOf e.call before) e.event.1 := by
  obtain ⟨c, p, k, hcall, hsteps⟩ := h.reached before e after heq
  have hat := Prog.Meets.steps hsteps (hmeets c)
  exact ⟨c, p, hcall, hat.1⟩

/-! ## Time -/

/-- The log is in the order of time, and the clock shows the time of the last entry. -/
structure Timed (w : World ι σ Op Ans ε α) : Prop where
  ordered : Logged (fun before e => ∀ e' ∈ before, e'.time ≤ e.time) w.log
  past : ∀ e ∈ w.log, e.time ≤ w.clock
  last : ∀ before e, w.log = before ++ [e] → w.clock = e.time

theorem timed_run (s : σ) (moves : List (Move ι Ans)) : Timed (sys.run s moves) := by
  refine run_invariant ⟨logged_nil, ?_, ?_⟩ (fun w c hw => ⟨hw.ordered, hw.past, hw.last⟩)
    (fun w i c o k now x hw _ hnow => ⟨?_, ?_, ?_⟩) moves
  · intro e he
    simp [initial] at he
  · intro before e he
    simp [initial] at he
  · exact hw.ordered.snoc fun e he => (hw.past e he).trans hnow
  · intro e he
    rcases List.mem_append.mp he with he | he
    · exact (hw.past e he).trans hnow
    · rw [List.mem_singleton.mp he]
      exact le_rfl
  · intro before e he
    obtain ⟨-, hlast⟩ := List.append_inj' he rfl
    cases hlast
    rfl

theorem run_ordered (s : σ) (moves : List (Move ι Ans)) :
    Logged (fun before e => ∀ e' ∈ before, e'.time ≤ e.time) (sys.run s moves).log :=
  (timed_run s moves).ordered

/-! ## The log grows -/

theorem log_step (sys : System ι σ Op Ans ε α) (w : World ι σ Op Ans ε α) (m : Move ι Ans) :
    (sys.step w m).log = w.log ∨ ∃ e, (sys.step w m).log = w.log ++ [e] := by
  cases m with
  | start c => exact .inl rfl
  | answer i elapsed reply =>
    show (match w.calls[i]? with
      | some (c, .op o k) => sys.answered w i c k (w.clock + elapsed) (reply o)
      | _ => w).log = w.log ∨ ∃ e, (match w.calls[i]? with
      | some (c, .op o k) => sys.answered w i c k (w.clock + elapsed) (reply o)
      | _ => w).log = w.log ++ [e]
    split
    · exact .inr ⟨_, rfl⟩
    · exact .inl rfl

theorem log_append (w : World ι σ Op Ans ε α) (moves : List (Move ι Ans)) :
    ∃ more, (Trace.run sys.step w moves).log = w.log ++ more :=
  steps_invariant (I := fun w' => ∃ more, w'.log = w.log ++ more) ⟨[], (List.append_nil _).symm⟩
    (fun _ _ h => h) (fun w' i c o k now x ⟨more, h⟩ _ _ => ⟨more ++ [_], by
      rw [← List.append_assoc, ← h]
      rfl⟩) moves

/-- Every part of the log was all of it at some time. -/
theorem exists_moves_of_log {w : World ι σ Op Ans ε α} {moves : List (Move ι Ans)}
    {l l' : List (Entry Ans)} (h : (Trace.run sys.step w moves).log = w.log ++ l ++ l') :
    ∃ m₁ m₂, moves = m₁ ++ m₂ ∧ (Trace.run sys.step w m₁).log = w.log ++ l := by
  induction moves using List.reverseRecOn generalizing l' with
  | nil =>
    have hnil : l = [] := by
      rw [List.append_assoc] at h
      exact (List.append_eq_nil_iff.mp (List.self_eq_append_right.mp h)).1
    exact ⟨[], [], rfl, by rw [hnil, List.append_nil]; rfl⟩
  | append_singleton moves m ih =>
    rcases List.eq_nil_or_concat l' with rfl | ⟨l'', e, rfl⟩
    · exact ⟨moves ++ [m], [], (List.append_nil _).symm, by rw [h, List.append_nil]⟩
    · have hstep : Trace.run sys.step w (moves ++ [m]) = sys.step (Trace.run sys.step w moves) m :=
        Trace.run_append
      rw [hstep] at h
      obtain ⟨l₀, h₀⟩ : ∃ l₀, (Trace.run sys.step w moves).log = w.log ++ l ++ l₀ := by
        rcases sys.log_step (Trace.run sys.step w moves) m with hsame | ⟨x, hgrown⟩
        · exact ⟨_, hsame.symm.trans h⟩
        · rw [hgrown, List.concat_eq_append, ← List.append_assoc] at h
          exact ⟨l'', (List.append_inj' h rfl).1⟩
      obtain ⟨m₁, m₂, rfl, hm⟩ := ih h₀
      exact ⟨m₁, m₂ ++ [m], by rw [List.append_assoc], hm⟩

/-! ## The shared state is what the log makes of it -/

def effect (sys : System ι σ Op Ans ε α) (s : σ) (e : Entry Ans) : σ :=
  (sys.perform e.event.1 e.time e.event.2 s).2

def replay (sys : System ι σ Op Ans ε α) (s : σ) (log : List (Entry Ans)) : σ :=
  log.foldl sys.effect s

@[simp] theorem replay_nil (s : σ) : sys.replay s [] = s := rfl

theorem replay_snoc (s : σ) (log : List (Entry Ans)) (e : Entry Ans) :
    sys.replay s (log ++ [e]) = sys.effect (sys.replay s log) e := by
  simp [replay]

/-- Every answer in the log is the one the operation found, in the state the log had led to. -/
theorem run_replay (s : σ) (moves : List (Move ι Ans)) :
    (sys.run s moves).shared = sys.replay s (sys.run s moves).log ∧
    Logged (fun before e => (sys.perform e.event.1 e.time e.event.2 (sys.replay s before)).1 =
      e.event.2) (sys.run s moves).log := by
  refine run_invariant (I := fun w => w.shared = sys.replay s w.log ∧
    Logged (fun before e => (sys.perform e.event.1 e.time e.event.2 (sys.replay s before)).1 =
      e.event.2) w.log) ⟨rfl, logged_nil⟩ (fun w c hw => hw) (fun w i c o k now x hw _ _ => ?_) moves
  have hfound := sys.settled o now x w.shared
  refine ⟨?_, hw.2.snoc ?_⟩
  · show _ = sys.replay s (w.log ++ [_])
    rw [replay_snoc, ← hw.1]
    exact congrArg Prod.snd hfound.symm
  · rw [← hw.1]
    exact congrArg Prod.fst hfound

/-- Where a property of the shared state was lost: after one of the entries in between. -/
theorem exists_lost {P : σ → Prop} {s : σ} {log : List (Entry Ans)} (h : P (sys.replay s log)) :
    ∀ {more : List (Entry Ans)}, ¬ P (sys.replay s (log ++ more)) →
      ∃ l e l', more = l ++ e :: l' ∧ P (sys.replay s (log ++ l)) ∧
        ¬ P (sys.effect (sys.replay s (log ++ l)) e) := by
  intro more
  induction more using List.reverseRecOn with
  | nil =>
    intro hlost
    rw [List.append_nil] at hlost
    exact absurd h hlost
  | append_singleton more e ih =>
    intro hlost
    by_cases hmore : P (sys.replay s (log ++ more))
    · refine ⟨more, e, [], rfl, hmore, ?_⟩
      rwa [← List.append_assoc, replay_snoc] at hlost
    · obtain ⟨l, e', l', rfl, hP, hnot⟩ := ih hmore
      exact ⟨l, e', l' ++ [e], by simp, hP, hnot⟩

/-- An invariant of the shared state and the log that led to it. -/
theorem replay_invariant {I : List (Entry Ans) → σ → Prop} {s : σ} (hinit : I [] s)
    (hstep : ∀ log e, I log (sys.replay s log) → (∀ e' ∈ log, e'.time ≤ e.time) →
      I (log ++ [e]) (sys.effect (sys.replay s log) e)) :
    ∀ {log : List (Entry Ans)}, Logged (fun before e => ∀ e' ∈ before, e'.time ≤ e.time) log →
      I log (sys.replay s log) := by
  intro log
  induction log using List.reverseRecOn with
  | nil => exact fun _ => hinit
  | append_singleton log e ih =>
    intro hordered
    rw [replay_snoc]
    exact hstep log e (ih hordered.of_append) (hordered log e [] rfl)

end System

end StarcoinMcp
