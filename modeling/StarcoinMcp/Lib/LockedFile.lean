import StarcoinMcp.Lib.Processes

/-! One file that many processes read and replace. Who replaces it holds an exclusive
lock, looks at the file, writes a draft beside it and puts the draft in its place; who
only reads it takes no lock. Any request may fail, a failed write leaves anything in the
draft, and a process may end at any time, which gives the lock back. `Allowed` is the
discipline and `Guarded` what it keeps. -/

namespace StarcoinMcp

inductive FileOp (C : Type)
  | mkdir
  | touchLock
  | openLock
  /-- Waits until nobody else holds the lock. -/
  | lock
  | unlock
  | closeLock
  | pathExists
  | openPath
  | readAll (file : ℕ)
  | createDraft
  | write (file : ℕ) (contents : C)
  | sync (file : ℕ)
  | closeDraft (file : ℕ)
  | replace (file : ℕ)
  | syncDirectory
  | unlink (file : ℕ)

/-- What a request gives if it does not fail. Nothing is opened at a path that names no file. -/
def FileOp.Value {C : Type} : FileOp C → Type
  | .pathExists => Bool
  | .openPath => Option ℕ
  | .readAll _ => C
  | .createDraft => ℕ
  | _ => Unit

abbrev FileOp.Ans {C : Type} (ε : Type) (o : FileOp C) : Type := Except ε o.Value

/-- The files, each under the number it was created with. -/
structure Files (C : Type) where
  contentsOf : List C
  /-- The files the path has named, the present one first. -/
  named : List ℕ
  holder : Option ℕ
  /-- Who was given the lock, in this order. -/
  granted : List ℕ

/-- Whether a request fails, and what is in a file that nobody has written completely. -/
structure Weather (ε C : Type) where
  fault : Option ε
  junk : C

namespace Files

variable {C ε : Type}

def initial (file : Option C) : Files C where
  contentsOf := file.toList
  named := file.toList.map fun _ => 0
  holder := none
  granted := []

def path (s : Files C) : Option ℕ := s.named.head?

/-- What the path leads to. -/
def current (s : Files C) : Option C := s.path.bind fun n => s.contentsOf[n]?

def release (i : ℕ) (s : Files C) : Files C :=
  if s.holder = some i then { s with holder := none } else s

def serve (i : ℕ) (junk : C) (s : Files C) : (o : FileOp C) → Option (o.Value × Files C)
  | .lock =>
    if s.holder = none then some ((), { s with holder := some i, granted := s.granted ++ [i] }) else none
  | .unlock => some ((), s.release i)
  | .closeLock => some ((), s.release i)
  | .pathExists => some (s.path.isSome, s)
  | .openPath => some (s.path, s)
  | .readAll n => some (s.contentsOf.getD n junk, s)
  | .createDraft => some (s.contentsOf.length, { s with contentsOf := s.contentsOf ++ [junk] })
  | .write n c => some ((), { s with contentsOf := s.contentsOf.set n c })
  | .replace n => some ((), { s with named := n :: s.named })
  | .mkdir => some ((), s)
  | .touchLock => some ((), s)
  | .openLock => some ((), s)
  | .sync _ => some ((), s)
  | .closeDraft _ => some ((), s)
  | .syncDirectory => some ((), s)
  | .unlink _ => some ((), s)

/-- What a request does that fails. -/
def spoil (junk : C) (s : Files C) : FileOp C → Files C
  | .write n _ => { s with contentsOf := s.contentsOf.set n junk }
  | _ => s

def kernel : Kernel (Files C) (FileOp C) (FileOp.Ans ε) (Weather ε C) where
  perform i o weather s :=
    match weather.fault with
    | some e => some (.error e, s.spoil weather.junk o)
    | none => (s.serve i weather.junk o).map fun found => (.ok found.1, found.2)
  reap := release

end Files

/-! ## The discipline -/

/-- Where a process is. Under the lock it knows what the path leads to. -/
inductive Phase (C : Type)
  | outside
  | viewing (file : ℕ)
  | seen (found : Option C)
  | holding
  | opened (file : ℕ)
  | looked (found : Option C)
  | drafting (found : Option C) (draft : ℕ)
  | drafted (found : Option C) (draft : ℕ) (contents : C)
  | committed (found : Option C) (contents : C)
  | finished (commit : Option (Option C × C))

namespace Phase

variable {C ε : Type}

/-- What the process has replaced, and by what. -/
def commit? : Phase C → Option (Option C × C)
  | .committed found contents => some (found, contents)
  | .finished commit => commit
  | _ => none

/-- The process has the lock, unless it has ended. -/
def inside : Phase C → Bool
  | .holding | .opened _ | .looked _ | .drafting _ _ | .drafted _ _ _ | .committed _ _ => true
  | _ => false

/-- The process has not asked for the lock. -/
def before : Phase C → Bool
  | .outside | .viewing _ | .seen _ => true
  | _ => false

def after : Phase C → (o : FileOp C) → o.Value → Phase C
  | .outside, .lock, _ => .holding
  | .outside, .openPath, none => .seen none
  | .outside, .openPath, some n => .viewing n
  | .viewing _, .readAll _, c => .seen (some c)
  | .holding, .openPath, none => .looked none
  | .holding, .openPath, some n => .opened n
  | .holding, .pathExists, false => .looked none
  | .opened _, .readAll _, c => .looked (some c)
  | .looked found, .createDraft, n => .drafting found n
  | .drafting found n, .write _ c, _ => .drafted found n c
  | .drafted found _ c, .replace _, _ => .committed found c
  | p, .unlock, _ => .finished p.commit?
  | p, .closeLock, _ => .finished p.commit?
  | p, _, _ => p

def next (p : Phase C) : Answered (FileOp.Ans (C := C) ε) → Phase C
  | ⟨o, .ok x⟩ => p.after o x
  | ⟨_, .error _⟩ => p

def ofPast (past : List (Answered (FileOp.Ans (C := C) ε))) : Phase C := past.foldl next .outside

/-- Which requests may be made where, by a process that is to put `update file` in the place of
`file`. -/
def Allowed (update : Option C → Option C) : Phase C → FileOp C → Prop
  | .outside, .lock => True
  | .outside, .openPath => True
  | .viewing n, .readAll m => m = n
  | .holding, .openPath => True
  | .holding, .pathExists => True
  | .opened n, .readAll m => m = n
  | .looked _, .createDraft => True
  | .drafting found n, .write m c => m = n ∧ update found = some c
  | .drafted _ n _, .replace m => m = n
  | _, .mkdir | _, .touchLock | _, .openLock | _, .unlock | _, .closeLock | _, .sync _ | _, .closeDraft _
  | _, .syncDirectory | _, .unlink _ => True
  | _, _ => False

/-- The requests that touch no file the path may lead to. -/
def idle : FileOp C → Bool
  | .mkdir | .touchLock | .openLock | .sync _ | .closeDraft _ | .syncDirectory | .unlink _ => true
  | _ => false

theorem allowed_idle {update : Option C → Option C} {p : Phase C} {o : FileOp C} (h : idle o = true) :
    p.Allowed update o := by
  cases o with
  | mkdir | touchLock | openLock | sync | closeDraft | syncDirectory | unlink => cases p <;> trivial
  | _ => cases h

theorem after_idle {p : Phase C} {o : FileOp C} (h : idle o = true) (x : o.Value) : p.after o x = p := by
  cases o with
  | mkdir | touchLock | openLock | sync | closeDraft | syncDirectory | unlink => cases p <;> rfl
  | _ => cases h

theorem allowed_unlock {update : Option C → Option C} {p : Phase C} :
    p.Allowed update .unlock ∧ p.Allowed update .closeLock := by
  cases p <;> exact ⟨trivial, trivial⟩

theorem after_unlock {p : Phase C} :
    p.after .unlock () = .finished p.commit? ∧ p.after .closeLock () = .finished p.commit? := by
  cases p <;> exact ⟨rfl, rfl⟩

/-- What has been drafted or put in place is what was to be. -/
def Follows (update : Option C → Option C) : Phase C → Prop
  | .drafted found _ c => update found = some c
  | p => ∀ found c, p.commit? = some (found, c) → update found = some c

/-- The process has put a draft in place. -/
def replacedIn (past : List (Answered (FileOp.Ans (C := C) ε))) : Bool :=
  past.any fun e => match e with
    | ⟨.replace _, .ok _⟩ => true
    | _ => false

end Phase

/-! ## Contents, one replacement after the other -/

/-- The replacements lead from `first` to `last`: each of what the one before put in place. -/
def Chain {C : Type} : Option C → List (Option C × C) → Option C → Prop
  | first, [], last => first = last
  | first, commit :: rest, last => commit.1 = first ∧ Chain (some commit.2) rest last

theorem Chain.snoc {C : Type} {commits : List (Option C × C)} {first last : Option C}
    (h : Chain first commits last) (contents : C) :
    Chain first (commits ++ [(last, contents)]) (some contents) := by
  induction commits generalizing first with
  | nil => exact ⟨h.symm, rfl⟩
  | cons commit rest ih => exact ⟨h.1, ih h.2⟩

/-- The contents after some of the replacements, in their order. -/
def Was {C : Type} (first : Option C) (commits : List (Option C × C)) (file : Option C) : Prop :=
  ∃ done, done <+: commits ∧ Chain first done file

theorem Was.append {C : Type} {commits more : List (Option C × C)} {first file : Option C}
    (h : Was first commits file) : Was first (commits ++ more) file := by
  obtain ⟨done, hdone, hchain⟩ := h
  exact ⟨done, hdone.trans (List.prefix_append commits more), hchain⟩

/-! ## What the discipline keeps -/

/-- A process as the discipline sees it: its phase, and whether it still runs. -/
abbrev Party (C : Type) := Phase C × Bool

section Guarded

variable {C ε : Type}

/-- The replacements made so far, in the order of the lock. -/
def commits (s : Files C) (parties : List (Party C)) : List (Option C × C) :=
  s.granted.filterMap fun i => (parties[i]?).bind fun party => party.1.commit?

/-- What a running process in this phase may rely on. -/
def Fits (s : Files C) (i : ℕ) : Phase C → Prop
  | .outside | .seen _ | .finished _ => True
  | .viewing n => n ∈ s.named
  | .holding => s.holder = some i
  | .opened n => s.holder = some i ∧ s.path = some n
  | .looked found => s.holder = some i ∧ s.current = found
  | .drafting found n => s.holder = some i ∧ s.current = found ∧ n < s.contentsOf.length ∧ n ∉ s.named
  | .drafted found n c =>
    s.holder = some i ∧ s.current = found ∧ s.contentsOf[n]? = some c ∧ n ∉ s.named
  | .committed _ _ => s.holder = some i

structure Guarded (first : Option C) (s : Files C) (parties : List (Party C)) : Prop where
  fits : ∀ (i : ℕ) phase, parties[i]? = some (phase, true) → Fits s i phase
  nodup : s.granted.Nodup
  entered : ∀ i ∈ s.granted, ∃ party, parties[i]? = some party ∧ party.1.before = false
  made : ∀ (i : ℕ) party, parties[i]? = some party → party.1.commit? ≠ none → i ∈ s.granted
  last : ∀ i, s.holder = some i → ∃ rest, s.granted = rest ++ [i]
  named : ∀ n ∈ s.named, n < s.contentsOf.length ∧ Was first (commits s parties) s.contentsOf[n]?
  seen : ∀ (i : ℕ) found running, parties[i]? = some (Phase.seen found, running) →
    Was first (commits s parties) found
  chain : Chain first (commits s parties) s.current

variable {first : Option C} {s s' : Files C} {parties : List (Party C)} {i j : ℕ} {phase phase' : Phase C}
  {running : Bool}

theorem Fits.holder (h : Fits s i phase) (hinside : phase.inside = true) : s.holder = some i := by
  cases phase with
  | outside | viewing | seen | finished => cases hinside
  | holding | committed => exact h
  | opened | looked | drafting | drafted => exact h.1

/-- A process that does not hold the lock relies on the named files only. -/
theorem Fits.frame (h : Fits s i phase) (hinside : phase.inside = false) (hnamed : s.named ⊆ s'.named) :
    Fits s' i phase := by
  cases phase with
  | outside | seen | finished => trivial
  | viewing n => exact hnamed h
  | holding | opened | looked | drafting | drafted | committed => cases hinside

/-- Of two processes under the lock there is only one. -/
theorem Guarded.outside_of_ne (h : Guarded first s parties) (hi : parties[i]? = some (phase, true))
    (hinside : phase.inside = true) (hj : parties[j]? = some (phase', true)) (hij : i ≠ j) :
    phase'.inside = false := by
  by_contra hinside'
  have hholder : s.holder = some i := (h.fits i phase hi).holder hinside
  have hholder' : s.holder = some j := (h.fits j phase' hj).holder (by simpa using hinside')
  exact hij (Option.some.inj (hholder.symm.trans hholder'))

theorem commits_congr {parties' : List (Party C)} (hgranted : s'.granted = s.granted)
    (h : ∀ i : ℕ, (parties'[i]?).bind (fun party => party.1.commit?) =
      (parties[i]?).bind fun party => party.1.commit?) : commits s' parties' = commits s parties := by
  unfold commits
  rw [hgranted]
  exact congrArg (fun f => s.granted.filterMap f) (funext h)

/-- The replacements stay what they are as long as the phase of one process changes that does not
replace anything. -/
theorem commits_set (hi : parties[i]? = some (phase, running)) (hgranted : s'.granted = s.granted)
    (hcommit : phase'.commit? = phase.commit?) (running' : Bool) :
    commits s' (parties.set i (phase', running')) = commits s parties :=
  commits_congr hgranted (bind_set hi hcommit)

theorem current_congr (hnamed : s'.named = s.named)
    (hcontents : ∀ n ∈ s.named, s'.contentsOf[n]? = s.contentsOf[n]?) : s'.current = s.current := by
  unfold Files.current Files.path
  rw [hnamed]
  cases hhead : s.named with
  | nil => rfl
  | cons n rest =>
    refine hcontents n ?_
    rw [hhead]
    exact List.mem_cons_self ..

/-- A change of one phase that touches no named file. -/
theorem Guarded.set (h : Guarded first s parties) (hi : parties[i]? = some (phase, running))
    (hgranted : s'.granted = s.granted) (hnamed : s'.named = s.named)
    (hholder : ∀ j, s'.holder = some j → s.holder = some j)
    (hlength : s.contentsOf.length ≤ s'.contentsOf.length)
    (hcontents : ∀ n ∈ s.named, s'.contentsOf[n]? = s.contentsOf[n]?)
    (hcommit : phase'.commit? = phase.commit?) (hbefore : phase.before = false → phase'.before = false)
    (hseen : ∀ found, phase' = .seen found → Was first (commits s parties) found)
    (running' : Bool) (hself : running' = true → Fits s' i phase')
    (hothers : ∀ j phase, i ≠ j → parties[j]? = some (phase, true) → Fits s' j phase) :
    Guarded first s' (parties.set i (phase', running')) := by
  have hcommits : commits s' (parties.set i (phase', running')) = commits s parties :=
    commits_set hi hgranted hcommit running'
  refine ⟨?_, ?_, ?_, ?_, ?_, ?_, ?_, ?_⟩
  · intro j q hq
    rcases of_getElem?_set hq with ⟨rfl, heq⟩ | ⟨hij, hj⟩
    · obtain ⟨rfl, rfl⟩ := Prod.mk.inj heq
      exact hself rfl
    · exact hothers j q hij hj
  · rw [hgranted]
    exact h.nodup
  · intro j hj
    rw [hgranted] at hj
    obtain ⟨party, hparty, hentered⟩ := h.entered j hj
    by_cases hij : i = j
    · subst hij
      obtain rfl := Option.some.inj (hi.symm.trans hparty)
      exact ⟨_, List.getElem?_set_self (List.getElem?_eq_some_iff.mp hi).1, hbefore hentered⟩
    · exact ⟨party, (List.getElem?_set_ne hij).trans hparty, hentered⟩
  · intro j party hj hmade
    rw [hgranted]
    rcases of_getElem?_set hj with ⟨rfl, rfl⟩ | ⟨-, hj⟩
    · exact h.made i _ hi (hcommit ▸ hmade)
    · exact h.made j party hj hmade
  · intro j hj
    rw [hgranted]
    exact h.last j (hholder j hj)
  · intro n hn
    rw [hnamed] at hn
    obtain ⟨hlt, hwas⟩ := h.named n hn
    rw [hcommits, hcontents n hn]
    exact ⟨lt_of_lt_of_le hlt hlength, hwas⟩
  · intro j found r hj
    rw [hcommits]
    rcases of_getElem?_set hj with ⟨rfl, heq⟩ | ⟨-, hj⟩
    · exact hseen found (Prod.mk.inj heq).1.symm
    · exact h.seen j found r hj
  · rw [hcommits, current_congr hnamed hcontents]
    exact h.chain

/-- A change of one phase only. -/
theorem Guarded.look (h : Guarded first s parties) (hi : parties[i]? = some (phase, true))
    (hcommit : phase'.commit? = phase.commit?) (hbefore : phase.before = false → phase'.before = false)
    (hseen : ∀ found, phase' = .seen found → Was first (commits s parties) found)
    (hself : Fits s i phase') : Guarded first s (parties.set i (phase', true)) :=
  h.set hi rfl rfl (fun _ hj => hj) (le_refl _) (fun _ _ => rfl) hcommit hbefore hseen true
    (fun _ => hself) fun j q _ hj => h.fits j q hj

theorem Guarded.still (h : Guarded first s parties) (hi : parties[i]? = some (phase, true))
    (running' : Bool) : Guarded first s (parties.set i (phase, running')) :=
  h.set hi rfl rfl (fun _ hj => hj) (le_refl _) (fun _ _ => rfl) rfl id
    (fun found hfound => h.seen i found true (hfound ▸ hi)) running' (fun _ => h.fits i phase hi)
    fun j q _ hj => h.fits j q hj

/-- A change that a process makes under the lock. -/
theorem Guarded.draft (h : Guarded first s parties) (hi : parties[i]? = some (phase, true))
    (hinside : phase.inside = true) (hgranted : s'.granted = s.granted) (hnamed : s'.named = s.named)
    (hholder : s'.holder = s.holder) (hlength : s.contentsOf.length ≤ s'.contentsOf.length)
    (hcontents : ∀ n ∈ s.named, s'.contentsOf[n]? = s.contentsOf[n]?)
    (hcommit : phase'.commit? = phase.commit?) (hinside' : phase'.inside = true)
    (hself : Fits s' i phase') : Guarded first s' (parties.set i (phase', true)) := by
  refine h.set hi hgranted hnamed (fun j hj => hholder ▸ hj) hlength hcontents hcommit (fun _ => ?_)
    (fun found hfound => ?_) true (fun _ => hself) fun j q hij hj => ?_
  · cases phase' <;> first | rfl | cases hinside'
  · rw [hfound] at hinside'
    cases hinside'
  · have hout : q.inside = false := h.outside_of_ne hi hinside hj hij
    exact (h.fits j q hj).frame hout (fun n hn => hnamed ▸ hn)

/-- The lock is given back, if the process has it. -/
theorem Guarded.leave (h : Guarded first s parties) (hi : parties[i]? = some (phase, running))
    (hcommit : phase'.commit? = phase.commit?) (hbefore : phase.before = false → phase'.before = false)
    (hseen : ∀ found, phase' = .seen found → Was first (commits s parties) found)
    (running' : Bool) (hself : running' = true → Fits (s.release i) i phase') :
    Guarded first (s.release i) (parties.set i (phase', running')) := by
  have hsame : (s.release i).granted = s.granted ∧ (s.release i).named = s.named ∧
      (s.release i).contentsOf = s.contentsOf ∧ (s.release i).current = s.current := by
    unfold Files.release
    split_ifs <;> exact ⟨rfl, rfl, rfl, rfl⟩
  obtain ⟨hgranted, hnamed, hcontents, hcurrent⟩ := hsame
  have hholder : ∀ j, (s.release i).holder = some j → s.holder = some j := by
    intro j hj
    unfold Files.release at hj
    split_ifs at hj
    exact hj
  refine h.set hi hgranted hnamed hholder (le_of_eq (congrArg List.length hcontents.symm))
    (fun n _ => congrArg (fun l : List C => l[n]?) hcontents) hcommit hbefore hseen running' hself
    fun j q hij hj => ?_
  have hfits := h.fits j q hj
  by_cases hinside : q.inside = true
  · -- the lock is with `j`, so that nothing is given back
    have hother : s.holder ≠ some i := by
      rw [hfits.holder hinside]
      exact fun heq => hij (Option.some.inj heq).symm
    have hkept : s.release i = s := if_neg hother
    rwa [hkept]
  · exact hfits.frame (by simpa using hinside) (fun n hn => hnamed ▸ hn)

theorem Guarded.start (h : Guarded first s parties) (running : Bool) :
    Guarded first s (parties ++ [(.outside, running)]) := by
  have hcommits : commits s (parties ++ [(Phase.outside, running)]) = commits s parties :=
    commits_congr rfl (bind_concat rfl)
  refine ⟨?_, h.nodup, ?_, ?_, h.last, ?_, ?_, ?_⟩
  · intro j q hq
    rcases of_getElem?_concat hq with ⟨-, heq⟩ | hj
    · rw [(Prod.mk.inj heq).1]
      trivial
    · exact h.fits j q hj
  · intro j hj
    obtain ⟨party, hparty, hentered⟩ := h.entered j hj
    exact ⟨party, (List.getElem?_append_left (List.getElem?_eq_some_iff.mp hparty).1).trans
      hparty, hentered⟩
  · intro j party hj hmade
    rcases of_getElem?_concat hj with ⟨-, rfl⟩ | hj
    · exact absurd rfl hmade
    · exact h.made j party hj hmade
  · rw [hcommits]
    exact h.named
  · intro j found r hj
    rw [hcommits]
    rcases of_getElem?_concat hj with ⟨-, heq⟩ | hj
    · cases (Prod.mk.inj heq).1
    · exact h.seen j found r hj
  · rw [hcommits]
    exact h.chain

/-- The lock is free, and given to a process that has not had it before. -/
theorem Guarded.lock (h : Guarded first s parties) (hi : parties[i]? = some (.outside, true))
    (hfree : s.holder = none) :
    Guarded first { s with holder := some i, granted := s.granted ++ [i] }
      (parties.set i (.holding, true)) := by
  have hcommits : commits { s with holder := some i, granted := s.granted ++ [i] }
      (parties.set i (.holding, true)) = commits s parties := by
    have hgrant : commits { s with holder := some i, granted := s.granted ++ [i] } parties =
        commits s parties := by
      simp [commits, hi, Phase.commit?]
    rw [← hgrant]
    exact commits_set hi rfl (show Phase.holding.commit? = Phase.outside.commit? from rfl) true
  have hfresh : i ∉ s.granted := by
    intro hmem
    obtain ⟨party, hparty, hentered⟩ := h.entered i hmem
    rw [← Option.some.inj (hi.symm.trans hparty)] at hentered
    cases hentered
  refine ⟨?_, ?_, ?_, ?_, ?_, ?_, ?_, ?_⟩
  · intro j q hq
    rcases of_getElem?_set hq with ⟨rfl, heq⟩ | ⟨-, hj⟩
    · rw [(Prod.mk.inj heq).1]
      rfl
    · have hfits := h.fits j q hj
      have hout : q.inside = false := by
        by_contra hinside
        have hholder := hfits.holder (by simpa using hinside)
        rw [hfree] at hholder
        cases hholder
      exact hfits.frame hout (List.Subset.refl _)
  · exact List.nodup_append.mpr ⟨h.nodup, List.pairwise_singleton _ i, fun j hj k hk hjk =>
      hfresh (List.mem_singleton.mp hk ▸ hjk ▸ hj)⟩
  · intro j hj
    by_cases hij : i = j
    · subst hij
      exact ⟨_, List.getElem?_set_self (List.getElem?_eq_some_iff.mp hi).1, rfl⟩
    · have hold : j ∈ s.granted := by
        rcases List.mem_append.mp hj with hj | hj
        · exact hj
        · exact absurd (List.mem_singleton.mp hj).symm hij
      obtain ⟨party, hparty, hentered⟩ := h.entered j hold
      exact ⟨party, (List.getElem?_set_ne hij).trans hparty, hentered⟩
  · intro j party hj hmade
    rcases of_getElem?_set hj with ⟨-, rfl⟩ | ⟨-, hj⟩
    · exact absurd rfl hmade
    · exact List.mem_append_left _ (h.made j party hj hmade)
  · intro j hj
    rw [← Option.some.inj hj]
    exact ⟨s.granted, rfl⟩
  · rw [hcommits]
    exact h.named
  · intro j found r hj
    rw [hcommits]
    rcases of_getElem?_set hj with ⟨-, heq⟩ | ⟨-, hj⟩
    · cases (Prod.mk.inj heq).1
    · exact h.seen j found r hj
  · rw [hcommits]
    exact h.chain

/-- Where only the last entry changes, from nothing to something. -/
theorem filterMap_last {β : Type} {f f' : ℕ → Option β} {l : List ℕ} {b : β} (hnodup : (l ++ [i]).Nodup)
    (hold : f i = none) (hnew : f' i = some b) (hother : ∀ j, i ≠ j → f' j = f j) :
    (l ++ [i]).filterMap f' = (l ++ [i]).filterMap f ++ [b] := by
  have hfresh : i ∉ l := fun hmem =>
    (List.nodup_append.mp hnodup).2.2 i hmem i (List.mem_singleton_self i) rfl
  have hsame : ∀ j ∈ l, f' j = f j := by
    intro j hj
    refine hother j ?_
    rintro rfl
    exact hfresh hj
  simp [List.filterMap_append, List.filterMap_congr hsame, hold, hnew]

/-- The draft takes the place of what the process has found there. -/
theorem Guarded.replace {found : Option C} {n : ℕ} {c : C} (h : Guarded first s parties)
    (hi : parties[i]? = some (.drafted found n c, true)) :
    Guarded first { s with named := n :: s.named } (parties.set i (.committed found c, true)) := by
  obtain ⟨hholder, hcurrent, hcontents, hunnamed⟩ := h.fits i _ hi
  have hlt : i < parties.length := (List.getElem?_eq_some_iff.mp hi).1
  have hcommits : commits { s with named := n :: s.named } (parties.set i (.committed found c, true)) =
      commits s parties ++ [(s.current, c)] := by
    obtain ⟨rest, hrest⟩ := h.last i hholder
    have hnodup := h.nodup
    unfold commits
    rw [hrest] at hnodup ⊢
    refine filterMap_last hnodup ?_ ?_ fun j hij => ?_
    · rw [hi]
      rfl
    · rw [List.getElem?_set_self hlt, hcurrent]
      rfl
    · rw [List.getElem?_set_ne hij]
  have hnow : Files.current { s with named := n :: s.named } = some c := hcontents
  refine ⟨?_, h.nodup, ?_, ?_, h.last, ?_, ?_, ?_⟩
  · intro j q hq
    rcases of_getElem?_set hq with ⟨rfl, heq⟩ | ⟨hij, hj⟩
    · rw [(Prod.mk.inj heq).1]
      exact hholder
    · have hout : q.inside = false := h.outside_of_ne hi rfl hj hij
      exact (h.fits j q hj).frame hout (List.subset_cons_self n s.named)
  · intro j hj
    obtain ⟨party, hparty, hentered⟩ := h.entered j hj
    by_cases hij : i = j
    · subst hij
      exact ⟨_, List.getElem?_set_self hlt, rfl⟩
    · exact ⟨party, (List.getElem?_set_ne hij).trans hparty, hentered⟩
  · intro j party hj hmade
    rcases of_getElem?_set hj with ⟨rfl, -⟩ | ⟨-, hj⟩
    · obtain ⟨rest, hrest⟩ := h.last i hholder
      show i ∈ s.granted
      rw [hrest]
      exact List.mem_append_right _ (List.mem_singleton_self i)
    · exact h.made j party hj hmade
  · intro m hm
    rw [hcommits]
    rcases List.mem_cons.mp hm with rfl | hm
    · refine ⟨(List.getElem?_eq_some_iff.mp hcontents).1, _, List.prefix_refl _, ?_⟩
      show Chain first _ s.contentsOf[m]?
      rw [hcontents]
      exact h.chain.snoc c
    · exact ⟨(h.named m hm).1, (h.named m hm).2.append⟩
  · intro j found' r hj
    rw [hcommits]
    rcases of_getElem?_set hj with ⟨-, heq⟩ | ⟨-, hj⟩
    · cases (Prod.mk.inj heq).1
    · exact (h.seen j found' r hj).append
  · rw [hcommits, hnow]
    exact h.chain.snoc c

theorem set_self {party : Party C} (hi : parties[i]? = some party) : parties.set i party = parties := by
  refine List.ext_getElem? fun j => ?_
  by_cases hij : i = j
  · subst hij
    rw [List.getElem?_set_self (List.getElem?_eq_some_iff.mp hi).1, hi]
  · rw [List.getElem?_set_ne hij]

/-- Writing into a draft. -/
theorem Guarded.write {found : Option C} {n : ℕ} (h : Guarded first s parties)
    (hi : parties[i]? = some (.drafting found n, true)) (c : C) (hcommit : phase'.commit? = none)
    (hinside : phase'.inside = true)
    (hself : Fits { s with contentsOf := s.contentsOf.set n c } i phase') :
    Guarded first { s with contentsOf := s.contentsOf.set n c } (parties.set i (phase', true)) := by
  obtain ⟨-, -, -, hunnamed⟩ := h.fits i _ hi
  refine h.draft hi rfl rfl rfl rfl ?_ ?_ hcommit hinside hself
  · exact le_of_eq (List.length_set).symm
  · intro m hm
    have hne : n ≠ m := by
      rintro rfl
      exact hunnamed hm
    exact List.getElem?_set_ne hne

theorem current_set {n : ℕ} {c : C} (hn : n ∉ s.named) :
    Files.current { s with contentsOf := s.contentsOf.set n c } = s.current := by
  refine current_congr rfl fun m hm => ?_
  have hne : n ≠ m := by
    rintro rfl
    exact hn hm
  exact List.getElem?_set_ne hne

theorem path_mem {n : ℕ} (h : s.path = some n) : n ∈ s.named := List.mem_of_head? h

theorem current_of_path {n : ℕ} (h : s.path = some n) : s.current = s.contentsOf[n]? := by
  unfold Files.current
  rw [h]
  rfl

theorem current_of_no_path (h : s.path = none) : s.current = none := by
  unfold Files.current
  rw [h]
  rfl

theorem getD_of_lt {n : ℕ} (h : n < s.contentsOf.length) (junk : C) :
    s.contentsOf[n]? = some (s.contentsOf.getD n junk) := by
  rw [List.getD_eq_getElem?_getD, List.getElem?_eq_getElem h]
  rfl

/-- The present contents are the outcome of all replacements. -/
theorem Guarded.was_current (h : Guarded first s parties) : Was first (commits s parties) s.current :=
  ⟨_, List.prefix_refl _, h.chain⟩

/-- One request that is allowed and does not fail. -/
theorem Guarded.serve (h : Guarded first s parties) (hi : parties[i]? = some (phase, true))
    {update : Option C → Option C} {o : FileOp C} (hallowed : phase.Allowed update o) {junk : C}
    {x : o.Value}
    (hserve : s.serve i junk o = some (x, s')) :
    Guarded first s' (parties.set i (phase.after o x, true)) := by
  have hfits := h.fits i phase hi
  cases o with
  | mkdir | touchLock | openLock | sync | closeDraft | syncDirectory | unlink =>
    rw [Phase.after_idle rfl x]
    cases hserve
    rw [set_self hi]
    exact h
  | unlock | closeLock =>
    cases hserve
    have hcommit : (Phase.finished phase.commit?).commit? = phase.commit? := rfl
    first | rw [Phase.after_unlock.1] | rw [Phase.after_unlock.2]
    exact h.leave hi hcommit (fun _ => rfl) (fun _ hfound => nomatch hfound) true fun _ => trivial
  | lock =>
    cases phase with
    | outside =>
      unfold Files.serve at hserve
      split_ifs at hserve with hfree
      cases hserve
      exact h.lock hi hfree
    | _ => exact hallowed.elim
  | pathExists =>
    cases hserve
    cases phase with
    | holding =>
      cases hpath : s.path with
      | none => exact h.look hi rfl id (fun _ hfound => nomatch hfound) ⟨hfits, current_of_no_path hpath⟩
      | some n => exact h.look hi rfl id (fun _ hfound => nomatch hfound) hfits
    | _ => exact hallowed.elim
  | openPath =>
    cases hserve
    cases phase with
    | outside =>
      cases hpath : s.path with
      | none =>
        refine h.look hi rfl (fun hout => nomatch hout) (fun found hfound => ?_) trivial
        rw [← Phase.seen.inj hfound, ← current_of_no_path hpath]
        exact h.was_current
      | some n =>
        exact h.look hi rfl (fun hout => nomatch hout) (fun _ hfound => nomatch hfound)
          (path_mem hpath)
    | holding =>
      cases hpath : s.path with
      | none => exact h.look hi rfl id (fun _ hfound => nomatch hfound) ⟨hfits, current_of_no_path hpath⟩
      | some n => exact h.look hi rfl id (fun _ hfound => nomatch hfound) ⟨hfits, hpath⟩
    | _ => exact hallowed.elim
  | readAll m =>
    cases hserve
    cases phase with
    | viewing n =>
      obtain rfl : m = n := hallowed
      obtain ⟨hlt, hwas⟩ := h.named m hfits
      rw [getD_of_lt hlt junk] at hwas
      refine h.look hi rfl (fun hout => nomatch hout) (fun found hfound => ?_) trivial
      rw [← Phase.seen.inj hfound]
      exact hwas
    | opened n =>
      obtain rfl : m = n := hallowed
      obtain ⟨hholder, hpath⟩ := hfits
      have hlt := (h.named m (path_mem hpath)).1
      have hcurrent := (current_of_path hpath).trans (getD_of_lt hlt junk)
      exact h.look hi rfl id (fun _ hfound => nomatch hfound) ⟨hholder, hcurrent⟩
    | _ => exact hallowed.elim
  | createDraft =>
    cases hserve
    cases phase with
    | looked found =>
      obtain ⟨hholder, hcurrent⟩ := hfits
      have hkept : ∀ n ∈ s.named, (s.contentsOf ++ [junk])[n]? = s.contentsOf[n]? :=
        fun n hn => List.getElem?_append_left (h.named n hn).1
      refine h.draft hi rfl rfl rfl rfl (by simp) hkept rfl rfl ⟨hholder, ?_, by simp, ?_⟩
      · rw [← hcurrent]
        exact current_congr rfl hkept
      · exact fun hmem => lt_irrefl _ (h.named _ hmem).1
    | _ => exact hallowed.elim
  | write m c =>
    cases hserve
    cases phase with
    | drafting found n =>
      obtain ⟨rfl, -⟩ := hallowed
      obtain ⟨hholder, hcurrent, hlt, hunnamed⟩ := hfits
      exact h.write hi c rfl rfl
        ⟨hholder, (current_set hunnamed).trans hcurrent, List.getElem?_set_self hlt, hunnamed⟩
    | _ => exact hallowed.elim
  | replace m =>
    cases hserve
    cases phase with
    | drafted found n c =>
      obtain rfl : m = n := hallowed
      exact h.replace hi
    | _ => exact hallowed.elim

/-- One request that is allowed and fails. -/
theorem Guarded.spoil (h : Guarded first s parties) (hi : parties[i]? = some (phase, true))
    {update : Option C → Option C} {o : FileOp C} (hallowed : phase.Allowed update o) (junk : C) :
    Guarded first (s.spoil junk o) (parties.set i (phase, true)) := by
  cases o with
  | write m c =>
    cases phase with
    | drafting found n =>
      obtain ⟨rfl, -⟩ := hallowed
      obtain ⟨hholder, hcurrent, hlt, hunnamed⟩ := h.fits i _ hi
      refine h.write hi junk rfl rfl ⟨hholder, (current_set hunnamed).trans hcurrent, ?_, hunnamed⟩
      show m < (s.contentsOf.set m junk).length
      rwa [List.length_set]
    | _ => exact hallowed.elim
  | _ =>
    rw [set_self hi]
    exact h

end Guarded

end StarcoinMcp
