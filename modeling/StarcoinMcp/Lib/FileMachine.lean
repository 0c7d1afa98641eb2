import Mathlib.Data.List.Forall2
import StarcoinMcp.Lib.LockedFile

/-! Machines whose processes keep the discipline of a locked file. The contents of the
file are those of the replacements, one after the other in the order of the lock, and who
reads without the lock finds the contents after some of them. -/

namespace StarcoinMcp

/-! ## One process -/

section Past

variable {C ε : Type} {update : Option C → Option C} {phase : Phase C}
  {past : List (Answered (FileOp.Ans (C := C) ε))} {o : FileOp C}

theorem Phase.ofPast_snoc (x : o.Ans ε) :
    Phase.ofPast (past ++ [⟨o, x⟩]) = (Phase.ofPast past).next ⟨o, x⟩ := by
  simp [Phase.ofPast]

theorem Phase.replacedIn_snoc (e : Answered (FileOp.Ans (C := C) ε)) :
    Phase.replacedIn (past ++ [e]) = (Phase.replacedIn past || Phase.replacedIn [e]) := by
  simp [Phase.replacedIn]

/-- Nothing but a replacement makes one. -/
theorem Phase.commit?_after {x : o.Value} (h : ∀ n, o ≠ .replace n) :
    (phase.after o x).commit? = phase.commit? := by
  cases o with
  | replace n => exact absurd rfl (h n)
  | openPath | pathExists => cases phase <;> cases x <;> rfl
  | _ => cases phase <;> rfl

/-- A process that kept the discipline so far. -/
structure Behaved (update : Option C → Option C) (past : List (Answered (FileOp.Ans (C := C) ε))) :
    Prop where
  follows : (Phase.ofPast past).Follows update
  replaced : Phase.replacedIn past = (Phase.ofPast past).commit?.isSome

theorem behaved_nil : Behaved update ([] : List (Answered (FileOp.Ans (C := C) ε))) where
  follows := fun _ _ h => nomatch h
  replaced := rfl

theorem Phase.Follows.commit (h : phase.Follows update) {found : Option C} {c : C}
    (hcommit : phase.commit? = some (found, c)) : update found = some c := by
  cases phase with
  | drafted => cases hcommit
  | _ => exact h found c hcommit

theorem Phase.Follows.after (h : phase.Follows update) (hallowed : phase.Allowed update o) (x : o.Value) :
    (phase.after o x).Follows update := by
  cases o with
  | write m c =>
    cases phase with
    | drafting found n => exact hallowed.2
    | _ => exact hallowed.elim
  | replace m =>
    cases phase with
    | drafted found n c =>
      rintro found' c' hcommit
      cases hcommit
      exact h
    | _ => exact hallowed.elim
  | unlock | closeLock =>
    have hleft : (Phase.finished phase.commit?).Follows update := fun found c hcommit => h.commit hcommit
    cases phase <;> exact hleft
  | lock | readAll | createDraft =>
    cases phase <;> first | exact hallowed.elim | exact fun _ _ hcommit => nomatch hcommit
  | openPath | pathExists =>
    cases phase <;> cases x <;> first | exact hallowed.elim | exact fun _ _ hcommit => nomatch hcommit
  | _ => cases phase <;> exact h

theorem Behaved.snoc (h : Behaved update past) (hallowed : (Phase.ofPast past).Allowed update o)
    (x : o.Ans ε) : Behaved update (past ++ [⟨o, x⟩]) := by
  cases x with
  | error e =>
    have hsame : Phase.ofPast (past ++ [⟨o, .error e⟩]) = Phase.ofPast past := Phase.ofPast_snoc _
    have hnot : Phase.replacedIn [(⟨o, .error e⟩ : Answered (FileOp.Ans (C := C) ε))] = false := by
      cases o <;> rfl
    refine ⟨?_, ?_⟩
    · rw [hsame]
      exact h.follows
    · rw [hsame, Phase.replacedIn_snoc, hnot, Bool.or_false]
      exact h.replaced
  | ok x =>
    have hnext : Phase.ofPast (past ++ [⟨o, .ok x⟩]) = (Phase.ofPast past).after o x := Phase.ofPast_snoc _
    refine ⟨?_, ?_⟩
    · rw [hnext]
      exact h.follows.after hallowed x
    · rw [hnext, Phase.replacedIn_snoc]
      by_cases hreplace : ∃ n, o = .replace n
      · obtain ⟨n, rfl⟩ := hreplace
        generalize Phase.ofPast past = phase at hallowed
        cases phase with
        | drafted found m c => exact Bool.or_true _
        | _ => exact hallowed.elim
      · have hnot : Phase.replacedIn [(⟨o, .ok x⟩ : Answered (FileOp.Ans (C := C) ε))] = false := by
          cases o with
          | replace n => exact absurd ⟨n, rfl⟩ hreplace
          | _ => rfl
        rw [Phase.commit?_after (fun n hn => hreplace ⟨n, hn⟩), hnot, Bool.or_false]
        exact h.replaced

end Past

/-! ## Programs that keep the discipline -/

namespace Prog

variable {C ε α β : Type} {update : Option C → Option C} {phase : Phase C}

/-- From `phase` on, the program asks only for what is allowed, and ends as `Q` says. -/
def Orders (update : Option C → Option C) : (Phase C → Except ε α → Prop) → Phase C →
    Prog (FileOp C) (FileOp.Ans ε) ε α → Prop
  | Q, phase, ret a => Q phase (.ok a)
  | Q, phase, fail e => Q phase (.error e)
  | _, _, halt _ => True
  | Q, phase, op o k => phase.Allowed update o ∧ ∀ x, Orders update Q (phase.next ⟨o, x⟩) (k x)

/-- A request; its failure is an error of the program. -/
def act (o : FileOp C) : Prog (FileOp C) (FileOp.Ans ε) ε o.Value := (ask o).bind lift

/-- `cleanup` after `p`, however `p` ends. -/
def ensuring (p : Prog (FileOp C) (FileOp.Ans ε) ε α) (cleanup : Prog (FileOp C) (FileOp.Ans ε) ε Unit) :
    Prog (FileOp C) (FileOp.Ans ε) ε α := do
  let r ← p.attempt
  cleanup
  lift r

@[simp] theorem orders_pure {Q : Phase C → Except ε α → Prop} {a : α} :
    Orders update Q phase (pure a) ↔ Q phase (.ok a) := Iff.rfl

@[simp] theorem orders_throw {Q : Phase C → Except ε α → Prop} {e : ε} :
    Orders update Q phase (throw e) ↔ Q phase (.error e) := Iff.rfl

@[simp] theorem orders_lift {Q : Phase C → Except ε α → Prop} {x : Except ε α} :
    Orders update Q phase (lift x) ↔ Q phase x := by
  cases x <;> exact Iff.rfl

theorem orders_bind {Q : Phase C → Except ε β → Prop} {p : Prog (FileOp C) (FileOp.Ans ε) ε α}
    {f : α → Prog (FileOp C) (FileOp.Ans ε) ε β} :
    Orders update Q phase (p >>= f) ↔ Orders update (fun phase r => match r with
      | .ok a => Orders update Q phase (f a)
      | .error e => Q phase (.error e)) phase p := by
  induction p generalizing phase with
  | ret a => exact Iff.rfl
  | fail e => exact Iff.rfl
  | halt why => exact Iff.rfl
  | op o k ih => exact and_congr_right fun _ => forall_congr' fun x => ih x

theorem orders_attempt {Q : Phase C → Except ε (Except ε α) → Prop}
    {p : Prog (FileOp C) (FileOp.Ans ε) ε α} :
    Orders update Q phase p.attempt ↔ Orders update (fun phase r => Q phase (.ok r)) phase p := by
  induction p generalizing phase with
  | ret a => exact Iff.rfl
  | fail e => exact Iff.rfl
  | halt why => exact Iff.rfl
  | op o k ih => exact and_congr_right fun _ => forall_congr' fun x => ih x

theorem Orders.imp {Q Q' : Phase C → Except ε α → Prop} {p : Prog (FileOp C) (FileOp.Ans ε) ε α}
    (h : Orders update Q phase p) (hQ : ∀ phase r, Q phase r → Q' phase r) :
    Orders update Q' phase p := by
  induction p generalizing phase with
  | ret a => exact hQ _ _ h
  | fail e => exact hQ _ _ h
  | halt why => exact trivial
  | op o k ih => exact ⟨h.1, fun x => ih x (h.2 x)⟩

/-- A request that fails leaves the phase as it is. -/
theorem orders_act {o : FileOp C} {Q : Phase C → Except ε o.Value → Prop} :
    Orders update Q phase (act o) ↔
      phase.Allowed update o ∧ (∀ x, Q (phase.after o x) (.ok x)) ∧ ∀ e, Q phase (.error e) := by
  constructor
  · rintro ⟨hallowed, h⟩
    exact ⟨hallowed, fun x => h (.ok x), fun e => h (.error e)⟩
  · rintro ⟨hallowed, hok, herror⟩
    refine ⟨hallowed, fun x => ?_⟩
    cases x with
    | ok x => exact hok x
    | error e => exact herror e

theorem orders_act_bind {o : FileOp C} {Q : Phase C → Except ε β → Prop}
    {f : o.Value → Prog (FileOp C) (FileOp.Ans ε) ε β} (hallowed : phase.Allowed update o)
    (hok : ∀ x, Orders update Q (phase.after o x) (f x)) (herror : ∀ e, Q phase (.error e)) :
    Orders update Q phase (act o >>= f) := by
  rw [orders_bind, orders_act]
  exact ⟨hallowed, hok, herror⟩

theorem Orders.bind {R : Phase C → Except ε α → Prop} {Q : Phase C → Except ε β → Prop}
    {p : Prog (FileOp C) (FileOp.Ans ε) ε α} {f : α → Prog (FileOp C) (FileOp.Ans ε) ε β}
    (hp : Orders update R phase p) (hok : ∀ phase a, R phase (.ok a) → Orders update Q phase (f a))
    (herror : ∀ phase e, R phase (.error e) → Q phase (.error e)) : Orders update Q phase (p >>= f) := by
  rw [orders_bind]
  refine hp.imp fun phase r hr => ?_
  cases r with
  | ok a => exact hok phase a hr
  | error e => exact herror phase e hr

theorem Orders.ensuring {R : Phase C → Except ε α → Prop} {Q : Phase C → Except ε α → Prop}
    {p : Prog (FileOp C) (FileOp.Ans ε) ε α} {cleanup : Prog (FileOp C) (FileOp.Ans ε) ε Unit}
    (hp : Orders update R phase p) (hcleanup : ∀ phase r, R phase r → Orders update (fun phase' done =>
      match done with
      | .ok _ => Q phase' r
      | .error e => Q phase' (.error e)) phase cleanup) :
    Orders update Q phase (p.ensuring cleanup) := by
  unfold Prog.ensuring
  rw [orders_bind, orders_attempt]
  refine hp.imp fun phase r hr => ?_
  show Orders update Q phase (cleanup >>= fun _ => lift r)
  rw [orders_bind]
  refine (hcleanup phase r hr).imp fun phase' done hdone => ?_
  cases done with
  | ok _ => exact orders_lift.mpr hdone
  | error e => exact hdone

/-- In terms of all the answers so far. -/
theorem Orders.meets {Q : Phase C → Except ε α → Prop} {p : Prog (FileOp C) (FileOp.Ans ε) ε α} :
    ∀ {past : List (Answered (FileOp.Ans (C := C) ε))}, Orders update Q (Phase.ofPast past) p →
      p.Meets (fun past o => (Phase.ofPast past).Allowed update o)
        (fun past r => Q (Phase.ofPast past) r) past := by
  induction p with
  | ret a => exact fun h => h
  | fail e => exact fun h => h
  | halt why => exact fun _ => trivial
  | op o k ih =>
    intro past h
    refine ⟨h.1, fun x => ih x ?_⟩
    rw [Phase.ofPast_snoc]
    exact h.2 x

end Prog

/-! ## All processes -/

section Machines

variable {ι ε α C : Type}

abbrev FileMachine (ι C ε α : Type) := Machine ι (Files C) (FileOp C) (FileOp.Ans ε) ε α

def Process.party (p : Process ι (FileOp C) (FileOp.Ans ε) ε α) : Party C :=
  (Phase.ofPast p.past, p.running)

/-- What the process was to do, if it has put its draft in place. -/
def Process.completed? (p : Process ι (FileOp C) (FileOp.Ans ε) ε α) : Option ι :=
  if Phase.replacedIn p.past then some p.name else none

namespace Machine

/-- The replacements that were made, in the order of the lock. -/
def completed (m : FileMachine ι C ε α) : List ι :=
  m.shared.granted.filterMap fun i => (m.processes[i]?).bind Process.completed?

def parties (m : FileMachine ι C ε α) : List (Party C) := m.processes.map Process.party

variable {update : ι → Option C → Option C} {program : ι → Prog (FileOp C) (FileOp.Ans ε) ε α}
  {Q : ι → List (Answered (FileOp.Ans (C := C) ε)) → Except ε α → Prop} {first : Option C}
  {m : FileMachine ι C ε α} {i : ℕ} {p : Process ι (FileOp C) (FileOp.Ans ε) ε α}

/-- The discipline, as a bound on what a program may ask for. -/
def Discipline (update : ι → Option C → Option C) (name : ι)
    (past : List (Answered (FileOp.Ans (C := C) ε))) (o : FileOp C) : Prop :=
  (Phase.ofPast past).Allowed (update name) o

structure Orderly (update : ι → Option C → Option C)
    (Q : ι → List (Answered (FileOp.Ans (C := C) ε)) → Except ε α → Prop) (first : Option C)
    (m : FileMachine ι C ε α) : Prop where
  keeping : Keeping (Discipline update) Q m
  behaved : ∀ (i : ℕ) p, m.processes[i]? = some p → Behaved (update p.name) p.past
  guarded : Guarded first m.shared m.parties

theorem parties_of_process (hp : m.processes[i]? = some p) : m.parties[i]? = some p.party := by
  unfold parties
  rw [List.getElem?_map, hp]
  rfl

theorem parties_of_running {o : FileOp C} {k : o.Ans ε → Prog (FileOp C) (FileOp.Ans ε) ε α}
    (hp : m.processes[i]? = some p) (hrest : p.rest = .op o k) :
    m.parties[i]? = some (Phase.ofPast p.past, true) := by
  rw [parties_of_process hp, Process.party]
  unfold Process.running
  rw [hrest]

theorem parties_set (q : Process ι (FileOp C) (FileOp.Ans ε) ε α) :
    (m.processes.set i q).map Process.party = m.parties.set i q.party := List.map_set

theorem orderly_initial : Orderly update Q first (⟨.initial first, []⟩ : FileMachine ι C ε α) := by
  refine ⟨fun i p hi => by simp at hi, fun i p hi => by simp at hi, ?_⟩
  have hnobody : ∀ {i : ℕ} {party : Party C}, (parties (⟨.initial first, []⟩ : FileMachine ι C ε α))[i]? ≠
      some party := by
    simp [parties]
  refine ⟨fun i phase hi => absurd hi hnobody, List.nodup_nil, fun i hi => (by cases hi),
    fun i party hi => absurd hi hnobody, fun i hi => (by cases hi), fun n hn => ?_,
    fun i found running hi => absurd hi hnobody, ?_⟩
  · cases first with
    | none => cases hn
    | some c =>
      obtain rfl : n = 0 := List.mem_singleton.mp hn
      exact ⟨Nat.zero_lt_one, [], List.prefix_refl _, rfl⟩
  · cases first <;> rfl

theorem Orderly.started (h : Orderly update Q first m)
    (hprogram : ∀ c, (program c).Meets (Discipline update c) (Q c) []) (name : ι) :
    Orderly update Q first (started program m name) := by
  refine ⟨h.keeping.started hprogram name, fun j q hj => ?_, ?_⟩
  · rcases of_getElem?_concat hj with ⟨-, rfl⟩ | hj
    · exact behaved_nil
    · exact h.behaved j q hj
  · have hparties : (Machine.started program m name).parties =
        m.parties ++ [(.outside, (⟨name, [], program name⟩ : Process ι _ _ ε α).running)] := List.map_append
    rw [hparties]
    exact h.guarded.start _

/-- A process that waits for an answer keeps the discipline with the request it made. -/
theorem Orderly.allowed (h : Orderly update Q first m) {o : FileOp C}
    {k : o.Ans ε → Prog (FileOp C) (FileOp.Ans ε) ε α} (hp : m.processes[i]? = some p)
    (hrest : p.rest = .op o k) : (Phase.ofPast p.past).Allowed (update p.name) o := by
  have hmeets := h.keeping i p hp
  rw [hrest] at hmeets
  exact hmeets.1

theorem Orderly.served (h : Orderly update Q first m) {o : FileOp C}
    {k : o.Ans ε → Prog (FileOp C) (FileOp.Ans ε) ε α} {weather : Weather ε C} {x : o.Ans ε} {s : Files C}
    (hp : m.processes[i]? = some p) (hrest : p.rest = .op o k)
    (hperform : Files.kernel.perform i o weather m.shared = some (x, s)) :
    Orderly update Q first (served m i p k x s) := by
  have hallowed := h.allowed hp hrest
  refine ⟨h.keeping.served hp hrest x s, fun j q hj => ?_, ?_⟩
  · rcases of_getElem?_set hj with ⟨rfl, rfl⟩ | ⟨-, hj⟩
    · exact (h.behaved i p hp).snoc hallowed x
    · exact h.behaved j q hj
  have hparty := parties_of_running hp hrest
  have hlt : i < m.parties.length := (List.getElem?_eq_some_iff.mp hparty).1
  have hserved : Guarded first s (m.parties.set i ((Phase.ofPast p.past).next ⟨o, x⟩, true)) := by
    obtain ⟨fault, junk⟩ := weather
    cases fault with
    | some e =>
      cases hperform
      exact h.guarded.spoil hparty hallowed junk
    | none =>
      obtain ⟨⟨value, s'⟩, hserve, hfound⟩ := Option.map_eq_some_iff.mp hperform
      cases hfound
      exact h.guarded.serve hparty hallowed hserve
  have hparties : (Machine.served m i p k x s).parties = (m.parties.set i
      ((Phase.ofPast p.past).next ⟨o, x⟩, true)).set i ((Phase.ofPast p.past).next ⟨o, x⟩,
        (⟨p.name, p.past ++ [⟨o, x⟩], k x⟩ : Process ι _ _ ε α).running) := by
    rw [List.set_set, ← Phase.ofPast_snoc]
    exact parties_set _
  rw [hparties]
  exact hserved.still (List.getElem?_set_self hlt) _

theorem Orderly.reaped (h : Orderly update Q first m) (hp : m.processes[i]? = some p) :
    Orderly update Q first (reaped Files.kernel m i p) := by
  refine ⟨h.keeping.reaped hp, fun j q hj => ?_, ?_⟩
  · rcases of_getElem?_set hj with ⟨rfl, rfl⟩ | ⟨-, hj⟩
    · rw [p.ended_name, p.ended_past]
      exact h.behaved i p hp
    · exact h.behaved j q hj
  have hparty := parties_of_process hp
  have hparties : (Machine.reaped Files.kernel m i p).parties =
      m.parties.set i (Phase.ofPast p.past, false) := by
    rw [← p.ended_past, ← p.ended_running]
    exact parties_set _
  rw [hparties]
  exact h.guarded.leave hparty rfl id
    (fun found hfound => h.guarded.seen i found p.running (hfound ▸ hparty))
    false fun hrunning => nomatch hrunning

/-- Programs that keep the discipline keep the machine in order, whatever happens. -/
theorem orderly_run (hprogram : ∀ c, (program c).Meets (Discipline update c) (Q c) [])
    (happenings : List (Happening ι (Weather ε C))) :
    Orderly update Q first (run Files.kernel program (.initial first) happenings) :=
  run_invariant orderly_initial (fun _ name hm => hm.started hprogram name)
    (fun _ _ _ _ _ _ _ _ hm hp hrest hperform => hm.served hp hrest hperform)
    (fun _ _ _ hm hp => hm.reaped hp) happenings

/-- The contents that a list of replacements makes of `first`. -/
def applied (update : ι → Option C → Option C) (first : Option C) (names : List ι) : Option C :=
  names.foldl (fun file name => update name file) first

theorem applied_of_chain {names : List ι} {commits : List (Option C × C)} {last : Option C}
    (h : List.Forall₂ (fun name commit => update name commit.1 = some commit.2) names commits)
    (hchain : Chain first commits last) : last = applied update first names := by
  induction h generalizing first with
  | nil => exact hchain.symm
  | @cons name commit names commits hcommit _ ih =>
    obtain ⟨hfirst, hrest⟩ := hchain
    rw [ih hrest, ← hcommit, hfirst]
    rfl

theorem forall₂_filterMap {β γ : Type} {R : β → γ → Prop} {f : ℕ → Option β} {g : ℕ → Option γ}
    (h : ∀ i, (f i = none ∧ g i = none) ∨ ∃ b c, f i = some b ∧ g i = some c ∧ R b c) (l : List ℕ) :
    List.Forall₂ R (l.filterMap f) (l.filterMap g) := by
  induction l with
  | nil => exact .nil
  | cons i l ih =>
    rcases h i with ⟨hf, hg⟩ | ⟨b, c, hf, hg, hR⟩
    · rwa [List.filterMap_cons_none hf, List.filterMap_cons_none hg]
    · rw [List.filterMap_cons_some hf, List.filterMap_cons_some hg]
      exact .cons hR ih

/-- Every replacement that was made is the one its process was to make. -/
theorem Orderly.updates (h : Orderly update Q first m) :
    List.Forall₂ (fun name commit => update name commit.1 = some commit.2) m.completed
      (commits m.shared m.parties) := by
  refine forall₂_filterMap (fun i => ?_) _
  cases hp : m.processes[i]? with
  | none =>
    have hparty : m.parties[i]? = none := by
      unfold parties
      rw [List.getElem?_map, hp]
      rfl
    exact .inl ⟨rfl, by rw [hparty]; rfl⟩
  | some p =>
    rw [parties_of_process hp]
    obtain ⟨hfollows, hreplaced⟩ := h.behaved i p hp
    show (p.completed? = none ∧ (Phase.ofPast p.past).commit? = none) ∨ ∃ b c, p.completed? = some b ∧
      (Phase.ofPast p.past).commit? = some c ∧ update b c.1 = some c.2
    unfold Process.completed?
    rw [hreplaced]
    cases hcommit : (Phase.ofPast p.past).commit? with
    | none => exact .inl ⟨rfl, rfl⟩
    | some commit => exact .inr ⟨p.name, commit, rfl, rfl, hfollows.commit hcommit⟩

/-- The contents are those of the completed replacements, in the order of the lock. -/
theorem Orderly.current_eq (h : Orderly update Q first m) :
    m.shared.current = applied update first m.completed := applied_of_chain h.updates h.guarded.chain

/-- What was seen without the lock are the contents after some of the replacements. -/
theorem Orderly.seen_eq (h : Orderly update Q first m) (hp : m.processes[i]? = some p) {found : Option C}
    (hphase : Phase.ofPast p.past = .seen found) :
    ∃ done, done <+: m.completed ∧ found = applied update first done := by
  have hparty := parties_of_process hp
  rw [Process.party, hphase] at hparty
  obtain ⟨done, hdone, hchain⟩ := h.guarded.seen i found p.running hparty
  rw [List.prefix_iff_eq_take.mp hdone] at hchain
  exact ⟨m.completed.take done.length, List.take_prefix _ _,
    applied_of_chain (List.forall₂_take _ h.updates) hchain⟩

/-- A process that has put its draft in place had the lock. -/
theorem Orderly.granted (h : Orderly update Q first m) (hp : m.processes[i]? = some p)
    (hreplaced : Phase.replacedIn p.past = true) : i ∈ m.shared.granted := by
  refine h.guarded.made i p.party (parties_of_process hp) fun hnone => ?_
  have hcommit : (Phase.ofPast p.past).commit? = none := hnone
  rw [(h.behaved i p hp).replaced, hcommit] at hreplaced
  cases hreplaced

theorem completed_congr {m' : FileMachine ι C ε α} (hgranted : m'.shared.granted = m.shared.granted)
    (h : ∀ i : ℕ, (m'.processes[i]?).bind Process.completed? = (m.processes[i]?).bind Process.completed?) :
    m'.completed = m.completed := by
  unfold completed
  rw [hgranted]
  exact congrArg (fun f => m.shared.granted.filterMap f) (funext h)

theorem release_granted {s : Files C} : (s.release i).granted = s.granted := by
  unfold Files.release
  split_ifs <;> rfl

/-- A replacement that succeeds comes after all the others. -/
theorem Orderly.completed_replace (h : Orderly update Q first m) {n : ℕ} {s : Files C}
    {k : (FileOp.replace n : FileOp C).Ans ε → Prog (FileOp C) (FileOp.Ans ε) ε α}
    (hp : m.processes[i]? = some p) (hrest : p.rest = .op (.replace n) k)
    (hgranted : s.granted = m.shared.granted) :
    (Machine.served m i p k (.ok ()) s).completed = m.completed ++ [p.name] := by
  have hallowed := h.allowed hp hrest
  have hparty := parties_of_running hp hrest
  have hphase : (Phase.ofPast p.past).inside = true ∧ (Phase.ofPast p.past).commit? = none := by
    generalize Phase.ofPast p.past = phase at hallowed
    cases phase with
    | drafted => exact ⟨rfl, rfl⟩
    | _ => exact hallowed.elim
  obtain ⟨rest, hlast⟩ := h.guarded.last i ((h.guarded.fits i _ hparty).holder hphase.1)
  have hnodup := h.guarded.nodup
  unfold completed
  show s.granted.filterMap _ = _
  rw [hgranted]
  rw [hlast] at hnodup ⊢
  refine filterMap_last hnodup ?_ ?_ fun j hij => ?_
  · have hreplaced := (h.behaved i p hp).replaced
    rw [hphase.2] at hreplaced
    rw [hp]
    show p.completed? = none
    unfold Process.completed?
    rw [hreplaced]
    rfl
  · show ((m.processes.set i _)[i]?).bind Process.completed? = _
    rw [List.getElem?_set_self (List.getElem?_eq_some_iff.mp hp).1]
    show Process.completed? _ = some p.name
    unfold Process.completed?
    rw [Phase.replacedIn_snoc]
    exact if_pos (Bool.or_true _)
  · show ((m.processes.set i _)[j]?).bind Process.completed? = _
    rw [List.getElem?_set_ne hij]

/-- A request that replaces nothing completes nothing. -/
theorem completed_served {o : FileOp C} {k : o.Ans ε → Prog (FileOp C) (FileOp.Ans ε) ε α}
    {x : o.Ans ε} {s : Files C} (hp : m.processes[i]? = some p)
    (hgranted : s.granted = m.shared.granted)
    (hnot : Phase.replacedIn [(⟨o, x⟩ : Answered (FileOp.Ans (C := C) ε))] = false) :
    (served m i p k x s).completed = m.completed := by
  refine completed_congr hgranted (bind_set hp ?_)
  unfold Process.completed?
  rw [Phase.replacedIn_snoc, hnot, Bool.or_false]

/-- One happening completes at most one replacement. -/
theorem Orderly.completed_step (h : Orderly update Q first m)
    (program : ι → Prog (FileOp C) (FileOp.Ans ε) ε α) (happening : Happening ι (Weather ε C)) :
    (step Files.kernel program m happening).completed = m.completed ∨
      ∃ name, (step Files.kernel program m happening).completed = m.completed ++ [name] := by
  rcases step_cases m happening with hsame | ⟨name, hnext⟩ |
    ⟨i, p, o, k, ⟨fault, junk⟩, x, s, hp, hrest, hfound, hnext⟩ | ⟨i, p, hp, hnext⟩
  · rw [hsame]
    exact .inl rfl
  · rw [hnext]
    exact .inl (completed_congr rfl (bind_concat rfl))
  · rw [hnext]
    cases fault with
    | some e =>
      cases hfound
      refine .inl (completed_served hp ?_ ?_)
      · cases o <;> rfl
      · cases o <;> rfl
    | none =>
      obtain ⟨⟨value, s'⟩, hserve, hvalue⟩ := Option.map_eq_some_iff.mp hfound
      cases hvalue
      cases o with
      | lock =>
        -- whoever asks for the lock has replaced nothing yet
        have hout : Phase.ofPast p.past = .outside := by
          have hallowed := h.allowed hp hrest
          generalize Phase.ofPast p.past = phase at hallowed
          cases phase with
          | outside => rfl
          | _ => exact hallowed.elim
        have hnone : p.completed? = none := by
          unfold Process.completed?
          rw [(h.behaved i p hp).replaced, hout]
          rfl
        have hserved : (Machine.served m i p k (.ok value) s').completed =
            s'.granted.filterMap fun j => (m.processes[j]?).bind Process.completed? := by
          refine congrArg (fun f => s'.granted.filterMap f) (funext (bind_set hp ?_))
          unfold Process.completed?
          rw [Phase.replacedIn_snoc]
          exact congrArg (fun b : Bool => if b = true then some p.name else none) (Bool.or_false _)
        unfold Files.serve at hserve
        split_ifs at hserve
        cases hserve
        refine .inl (hserved.trans ?_)
        simp [completed, hp, hnone]
      | replace n =>
        cases hserve
        exact .inr ⟨p.name, h.completed_replace hp hrest rfl⟩
      | unlock | closeLock =>
        cases hserve
        exact .inl (completed_served hp release_granted rfl)
      | _ =>
        cases hserve
        exact .inl (completed_served hp rfl rfl)
  · rw [hnext]
    refine .inl (completed_congr release_granted (bind_set hp ?_))
    unfold Process.completed?
    rw [p.ended_name, p.ended_past]

end Machine

end Machines

end StarcoinMcp
