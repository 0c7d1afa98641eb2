import StarcoinMcp.Starmask.Expiry
import StarcoinMcp.Starmask.Heartbeats
import StarcoinMcp.Starmask.Maintenance

/-! How long a result is kept. The deadline of a result is computed when the request is
approved. Where that sum leaves the range of the clock it is dropped without an error, and the
result has no deadline; everywhere else the first tick at or after the deadline removes it, and
no tick before does. -/

namespace StarcoinMcp.Starmask

open Coordinator

/-- The end of the retention of a result approved at `a`, as an integer. -/
def Coordinator.retentionEnd (c : Coordinator) (a : TimestampMs) : TimestampMs :=
  a + c.config.resultRetention * 1000

/-- A result is on an approved request and has the deadline of its approval. -/
def RequestRecord.Retained (c : Coordinator) (r : RequestRecord) : Prop :=
  r.result.isSome = true → ∃ a, r.approvedAt = some a ∧ r.resultExpiresAt = some (c.retentionEnd a)

/-- A command that approves a request finds the deadline of the result in the range of the clock. -/
def InRetention (c : Coordinator) (s : Store) (x : Step) : Prop :=
  ∀ m r, x.command = .resolveRequest m → requireOwnedRequest m.requestId m.walletInstanceId s = .ok r →
    validateRequestResult r m.result = .ok () →
    validatePresentation r m.presentationId (x.env.now 0) = .ok () →
    checkedAddSeconds (x.env.now 0) c.config.resultRetention ≠ none

section Records

variable {c : Coordinator} {x : Step} {s : Store} {answer : CoreResult CoordinatorResponse}
  {id : RequestId} {r r' : RequestRecord}

theorem retained_of_result_none (h : r.result = none) : r.Retained c := by
  intro hsome
  rw [h] at hsome
  cases hsome

theorem Edit.retained (h : Edit c x.env s x.command answer r r') (hr : s.getRequest id = some r)
    (hwell : r.WellFormed) (hx : InRetention c s x) : r'.Retained c := by
  -- a request that is not decided holds no result, and only an approval writes one
  rcases h.live_or_evicted with hlive | ⟨-, -, -, -, rfl⟩
  · have hnone := (hwell.undecided hlive).result
    generalize hcommand : x.command = command at h
    cases h with
    | resolve hid hw hst hp hm hshown hk =>
      have hvalid := validatePresentation_of_live hst hp hshown
      rw [hm] at hvalid
      have hrange := hx _ r hcommand (requireOwnedRequest_of_owned hr hid hw)
        (validateRequestResult_of_kind hk) hvalid
      obtain ⟨t, ht⟩ := Option.ne_none_iff_exists'.mp hrange
      intro _
      refine ⟨x.env.now 0, rfl, ?_⟩
      show checkedAddSeconds (x.env.now 0) c.config.resultRetention = some (c.retentionEnd (x.env.now 0))
      rw [ht, checkedAddSeconds_eq_some ht]
      rfl
    | evict => exact retained_of_result_none rfl
    | _ => exact retained_of_result_none hnone
  · exact retained_of_result_none rfl

end Records

section Runs

variable {c : Coordinator} {steps : List Step} {id : RequestId} {r : RequestRecord}

/-- In a run whose approvals are in range every stored result has its deadline. -/
theorem run_retained (hsteps : Trace.Along c.step (InRetention c) Store.empty steps)
    (hr : (c.run steps).getRequest id = some r) : r.Retained c := by
  induction steps using List.reverseRecOn generalizing r with
  | nil => cases hr
  | append_singleton steps x ih =>
    obtain ⟨hinit, hlast, -⟩ := Trace.along_append.mp hsteps
    have hchange := run_change c steps x id
    rw [hr] at hchange
    generalize hbefore : (c.run steps).getRequest id = found at hchange
    cases hchange with
    | same => exact ih hinit hbefore
    | creation h =>
      refine retained_of_result_none ?_
      rw [h.record]
      rfl
    | edit h => exact h.retained hbefore (run_wellFormed c steps id _ hbefore) hlast

end Runs

/-! ## The claim on a run -/

/-- A tick at or after `deadline`. -/
def Step.TicksAt (deadline : TimestampMs) (x : Step) : Prop :=
  x.command = .tickMaintenance ∧ deadline ≤ x.env.now 0

/-- What `request.getStatus` answers with is the result. -/
def Store.Returns (s : Store) (id : RequestId) (result : RequestResult) : Prop :=
  ∃ status, getRequestStatus id s = .ok status ∧ status.result = some result

/-- Retention in the run `steps`: every result has a deadline, it is returned until a tick at or
after the deadline, and that tick removes it. -/
structure RetainsResults (c : Coordinator) (steps : List Step) : Prop where
  deadline : ∀ before after, steps = before ++ after → ∀ id r,
    (c.run before).getRequest id = some r → r.Retained c
  returned : ∀ before after rest, steps = before ++ after ++ rest → ∀ id r result a,
    (c.run before).getRequest id = some r → r.result = some result → r.approvedAt = some a →
    (∀ x ∈ after, ¬ x.TicksAt (c.retentionEnd a)) → (c.run (before ++ after)).Returns id result
  removed : ∀ before after x rest, steps = before ++ after ++ x :: rest → ∀ id r result a,
    (c.run before).getRequest id = some r → r.result = some result → r.approvedAt = some a →
    x.TicksAt (c.retentionEnd a) →
    ∃ r', (c.run (before ++ after ++ [x])).getRequest id = some r' ∧ r'.result = none

section Claims

variable {c : Coordinator} {before after : List Step} {x : Step} {id : RequestId} {r : RequestRecord}
  {result : RequestResult} {a : TimestampMs}

theorem approvedAt_terminal (hr : r.WellFormed) (ha : r.approvedAt = some a) :
    r.status.isTerminal = true := by
  rw [hr.approvedAt.mp (by rw [ha]; rfl)]
  rfl

theorem returned_until_tick (hr : (c.run before).getRequest id = some r) (hkept : r.Retained c)
    (hresult : r.result = some result) (ha : r.approvedAt = some a)
    (hearly : ∀ x ∈ after, ¬ x.TicksAt (c.retentionEnd a)) :
    (c.run (before ++ after)).Returns id result := by
  have hterm := approvedAt_terminal (run_wellFormed c before id r hr) ha
  rcases terminal_frozen before after hr hterm with hstored | ⟨m, x, rest, t, rfl, -, htick, ht, hdue, -⟩
  · have hlast : (c.run (before ++ after)).getRequest id = some r := hstored.last
    refine ⟨projectRequestStatus r, ?_, hresult⟩
    unfold getRequestStatus
    rw [hlast]
  · obtain ⟨a', ha', hexpires⟩ := hkept (by rw [hresult]; rfl)
    obtain rfl : a = a' := Option.some.inj (ha.symm.trans ha')
    obtain rfl : c.retentionEnd a = t := Option.some.inj (hexpires.symm.trans ht)
    exact absurd ⟨htick, hdue⟩ (hearly x (by simp))

theorem removed_by_tick
    (hsteps : Trace.Along c.step (InRetention c) Store.empty (before ++ after ++ [x]))
    (hr : (c.run before).getRequest id = some r) (ha : r.approvedAt = some a)
    (hx : x.TicksAt (c.retentionEnd a)) :
    ∃ r', (c.run (before ++ after ++ [x])).getRequest id = some r' ∧ r'.result = none := by
  obtain ⟨htick, hdue⟩ := hx
  have hterm := approvedAt_terminal (run_wellFormed c before id r hr) ha
  -- whatever happened to the result, the record still tells when it was approved
  obtain ⟨r', hr', happroved⟩ : ∃ r', (c.run (before ++ after ++ [x])).getRequest id = some r' ∧
      r'.approvedAt = some a := by
    rw [List.append_assoc]
    rcases terminal_frozen before
      (after ++ [x]) hr hterm with hstored | ⟨m, y, rest, t, hsplit, -, -, -, -, hgone⟩
    · exact ⟨r, hstored.last, ha⟩
    · refine ⟨r.evicted, ?_, ha⟩
      have hlast : (c.run (before ++ m ++ [y] ++ rest)).getRequest id = some r.evicted := hgone.last
      rw [hsplit]
      simpa using hlast
  refine ⟨r', hr', ?_⟩
  by_contra hsome
  have hheld : r'.result.isSome = true := Option.isSome_iff_ne_none.mpr hsome
  obtain ⟨a', ha', hexpires⟩ := run_retained hsteps hr' hheld
  obtain rfl : a = a' := Option.some.inj (happroved.symm.trans ha')
  have hmaintained : (c.run (before ++ after ++ [x])).Maintained c (x.env.now 0) := by
    obtain ⟨s', hrun, hticked⟩ := tickMaintenance_counts c x.env (c.run (before ++ after))
    have hstate : c.run (before ++ after ++ [x]) = s' := by
      rw [run_snoc]
      unfold Coordinator.step
      rw [htick]
      simp only [dispatch, FailState.map_apply, hrun]
    rw [hstate]
    exact hticked.maintained (run_wellFormed c _)
  refine hmaintained.requests r' (Store.mem_of_getRequest hr') (.inr (.inr (.inr ?_)))
  unfold resultExpired
  rw [decide_eq_true_eq]
  refine ⟨hheld, ?_⟩
  rw [hexpires]
  simpa using hdue

end Claims

/-- An approval out of range leaves a result without a deadline. -/
theorem inRetention_of_retained {s : Store}
    (h : ∀ id r, (c.step s x).getRequest id = some r → r.Retained c) : InRetention c s x := by
  intro m r hcommand hown hresult hvalid hnone
  have hstep : c.step s x = c.step s ⟨x.env, .resolveRequest m⟩ := by rw [← hcommand]
  have hr := step_resolve (c := c) hown hresult hvalid
  rw [← hstep, hnone] at hr
  obtain ⟨a, -, hexpires⟩ := h _ _ hr rfl
  cases hexpires

/-- A run retains its results just when the deadline of each approval is in the range of the clock. -/
theorem results_retained_iff (c : Coordinator) (steps : List Step) :
    RetainsResults c steps ↔ Trace.Along c.step (InRetention c) Store.empty steps := by
  constructor
  · intro h
    refine Trace.along_of_split fun before x after hsplit => inRetention_of_retained fun id r hr => ?_
    refine h.deadline (before ++ [x]) after (by rw [hsplit]; simp) id r ?_
    rw [run_snoc]
    exact hr
  · intro h
    constructor
    · rintro before after rfl id r hr
      exact run_retained (Trace.along_append.mp h).1 hr
    · rintro before after rest rfl id r result a hr hresult ha hearly
      have hbefore := (Trace.along_append.mp (Trace.along_append.mp h).1).1
      exact returned_until_tick hr (run_retained hbefore hr) hresult ha hearly
    · rintro before after x rest rfl id r result a hr hresult ha hx
      have hsplit : before ++ after ++ x :: rest = before ++ after ++ [x] ++ rest := by simp
      rw [hsplit] at h
      exact removed_by_tick (Trace.along_append.mp h).1 hr ha hx

namespace Session

/-- A configuration file that sets how long results are kept. -/
def retentionFile (seconds : ℕ) : ConfigSources where
  packageVersion := "0.1.0"
  env _ := none
  file := .ok
    { allowedExtensionIds := some ["extension-1"]
      resultRetentionSeconds := some seconds }
  defaultSocketPath := "run/starmaskd.sock"
  defaultDatabasePath := "run/starmaskd.sqlite3"
  validateLocalAccountDir path _ := .ok path

/-- What `load` makes of it. -/
def retaining (seconds : ℕ) : RuntimeConfig :=
  { loaded 10 25 with
    coordinator := { CoordinatorConfig.default "0.1.0" with resultRetention := seconds } }

end Session

open Session in
/-- A retention of 2 ^ 60 seconds is accepted; the result of the first approval has no deadline. -/
theorem result_without_deadline :
    RuntimeConfig.load (retentionFile (2 ^ 60)) noArgs = .ok (retaining (2 ^ 60)) ∧
      (((configured (retaining (2 ^ 60))).run approving).getRequest request).map
        (fun r => (r.status, r.result, r.resultExpiresAt)) = some (.approved, some result, none) ∧
      ¬ RetainsResults (configured (retaining (2 ^ 60))) approving := by
  have hstored : (((configured (retaining (2 ^ 60))).run approving).getRequest request).map
      (fun r => (r.status, r.result, r.resultExpiresAt)) = some (.approved, some result, none) := by
    decide +kernel
  refine ⟨by decide +kernel, hstored, ?_⟩
  intro h
  obtain ⟨r, hr, hfields⟩ := Option.map_eq_some_iff.mp hstored
  simp only [Prod.mk.injEq] at hfields
  obtain ⟨-, hresult, hexpires⟩ := hfields
  have hsome : r.result.isSome = true := by rw [hresult]; rfl
  obtain ⟨a, -, hdeadline⟩ := h.deadline approving [] (List.append_nil _).symm request r hr hsome
  rw [hexpires] at hdeadline
  cases hdeadline

end StarcoinMcp.Starmask
