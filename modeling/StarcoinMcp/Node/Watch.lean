import StarcoinMcp.Lib.FailState
import StarcoinMcp.Node.Rules

/-! What a watch reports. The answers a watch was given are read back as its polls, and the
output is compared with them: the depth a transaction has reached is taken in unbounded
integers there, where the source saturates. -/

namespace StarcoinMcp.Node

open Prog

/-- What one poll was told. The head is asked for only where there is a transaction info. -/
structure Poll where
  transaction : Option Value
  transactionInfo : Option Value
  events : List Value
  head : Option UInt64

namespace Poll

def found (p : Poll) : Bool := p.transaction.isSome || p.transactionInfo.isSome

def inclusion (p : Poll) : Option UInt64 :=
  p.transactionInfo.bind fun info => extractOptionalU64 info ["block_number"]

/-- The inclusion block and those after it, up to the head, are at least `m`. -/
def Deep (m : ℕ) (p : Poll) : Prop :=
  ∃ i h, p.inclusion = some i ∧ p.head = some h ∧ i.toNat + m ≤ h.toNat + 1

/-- The head is not behind the block that the transaction is in. -/
def InStep (p : Poll) : Prop :=
  ∀ i h, p.inclusion = some i → p.head = some h → i.toNat ≤ h.toNat

/-- A poll that found a transaction info went on to read both numbers. -/
def Read (p : Poll) : Prop :=
  p.transactionInfo.isSome = true → ∃ i h, p.inclusion = some i ∧ p.head = some h

/-- The depth as `watch_transaction` computes it, and the block it is counted from. -/
def depth (p : Poll) : Option UInt64 × Option UInt64 :=
  match p.inclusion, p.head with
  | some i, some h => (some (saturatingAdd (saturatingSub h i) 1), some i)
  | _, _ => (none, none)

/-- What `watch_transaction` keeps of a poll. -/
def observation (p : Poll) : AppContext.WatchObservation :=
  ⟨statusSummaryFromParts p.transaction p.transactionInfo, p.transactionInfo, p.events, p.depth.1,
    p.depth.2⟩

/-- One more answer; the newest poll is the first. -/
def observe (seen : List Poll) : Event → List Poll
  | ⟨.rpc (.getTransaction _ _), .ok transaction⟩ => ⟨transaction, none, [], none⟩ :: seen
  | ⟨.rpc (.getTransactionInfo _), .ok info⟩ => seen.modifyHead fun p => { p with transactionInfo := info }
  | ⟨.rpc (.getEventsByTxnHash _ _), .ok events⟩ => seen.modifyHead fun p => { p with events := events }
  | ⟨.rpc .chainInfoUncached, .ok chainInfo⟩ =>
    seen.modifyHead fun p => { p with head := (extractU64 chainInfo ["head", "number"]).toOption }
  | _ => seen

/-- The polls of a watch, in their order. -/
def observed (d : List Event) : List Poll := (d.foldl observe []).reverse

end Poll

/-! ## One poll -/

section Polls

variable {ctx : AppContext} {d : List Event} {seen : AppContext.WatchObservation} {p : Poll}
  {acc : List Poll}

theorem headBlockNumber_of_extractChainContext {nodeInfo chainInfo : Value} {observedAt : String}
    {context : ChainContext} (h : extractChainContext nodeInfo chainInfo observedAt = .ok context) :
    extractU64 chainInfo ["head", "number"] = .ok context.headBlockNumber := by
  unfold extractChainContext at h
  obtain ⟨_, -, h⟩ := bind_eq_ok h
  obtain ⟨_, -, h⟩ := bind_eq_ok h
  obtain ⟨_, -, h⟩ := bind_eq_ok h
  obtain ⟨_, -, h⟩ := bind_eq_ok h
  obtain ⟨_, hhead, h⟩ := bind_eq_ok h
  cases h
  exact hhead

/-- A snapshot of the endpoint tells the newest poll the head. -/
theorem observe_snapshot {snapshot : TransactionEndpointSnapshot}
    (h : Ended ctx.loadTransactionEndpointSnapshot d (.ok snapshot)) :
    d.foldl Poll.observe (p :: acc) =
      { p with head := some snapshot.chainContext.headBlockNumber } :: acc := by
  obtain ⟨nodeInfo, chainInfo, observedAt, hd, -, hcontext⟩ :=
    (AppContext.meets_loadTransactionEndpointSnapshot (t := [])).ended h snapshot rfl
  rw [List.nil_append, List.nil_append] at hd
  subst hd
  simp [Poll.observe, headBlockNumber_of_extractChainContext hcontext, Except.toOption]

theorem observe_getTransaction {txnHash : String} {current : GetTransactionOutput}
    (hinfo : ctx.startupProbe.supportsTransactionInfoLookup = true)
    (h : Ended (ctx.getTransaction ⟨txnHash, true, true⟩) d (.ok current)) :
    (∀ acc, d.foldl Poll.observe acc =
        ⟨current.transaction, current.transactionInfo, current.events, none⟩ :: acc) ∧
      current.statusSummary = statusSummaryFromParts current.transaction current.transactionInfo := by
  unfold AppContext.getTransaction rpc at h
  obtain ⟨-, -, h₁⟩ := h.of_lift_bind_ok
  obtain ⟨_, d₁, rfl, h₂⟩ := ended_ask_bind.mp h₁
  obtain ⟨transaction, rfl, h₃⟩ := h₂.of_lift_bind_ok
  simp only [if_pos hinfo] at h₃
  obtain ⟨_, d₂, rfl, h₄⟩ := ended_ask_bind.mp h₃
  obtain ⟨info, rfl, h₅⟩ := h₄.of_lift_bind_ok
  split at h₅
  · obtain ⟨_, d₃, rfl, h₆⟩ := ended_ask_bind.mp h₅
    obtain ⟨events, rfl, h₇⟩ := h₆.of_lift_bind_ok
    obtain ⟨rfl, hcurrent⟩ := ended_pure.mp h₇
    cases hcurrent
    exact ⟨fun _ => rfl, rfl⟩
  · obtain ⟨rfl, hcurrent⟩ := ended_pure.mp h₅
    cases hcurrent
    exact ⟨fun _ => rfl, rfl⟩

/-- A poll that came to an end is the one that its answers show. -/
theorem observe_watchPoll {txnHash : String}
    (hinfo : ctx.startupProbe.supportsTransactionInfoLookup = true)
    (h : Ended (ctx.watchPoll txnHash) d (.ok seen)) :
    ∃ p : Poll, (∀ acc, d.foldl Poll.observe acc = p :: acc) ∧ seen = p.observation ∧ p.Read := by
  unfold AppContext.watchPoll at h
  obtain ⟨current, d₁, d₂, rfl, hcurrent, h₁⟩ := h.of_bind_ok
  obtain ⟨hpoll, hsummary⟩ := observe_getTransaction hinfo hcurrent
  have hconfirmed : current.statusSummary.confirmed = current.transactionInfo.isSome := by
    rw [hsummary]
    rfl
  cases hcase : current.transactionInfo with
  | none =>
    rw [hcase] at hconfirmed
    simp only [hconfirmed, Option.isSome_none, Bool.false_eq_true, if_false] at h₁
    obtain ⟨rfl, hseen⟩ := ended_pure.mp h₁
    cases hseen
    refine ⟨_, fun acc => by rw [List.append_nil, hpoll], ?_, ?_⟩
    · rw [hsummary, hcase]
      rfl
    · intro hsome
      rw [hcase] at hsome
      cases hsome
  | some info =>
    rw [hcase] at hconfirmed
    simp only [hconfirmed, Option.isSome_some, if_true] at h₁
    obtain ⟨snapshot, d₃, d₄, rfl, hsnapshot, h₂⟩ := h₁.of_bind_ok
    obtain ⟨depth, hdepth, h₃⟩ := h₂.of_lift_bind_ok
    obtain ⟨rfl, hseen⟩ := ended_pure.mp h₃
    cases hseen
    rw [hcase] at hdepth
    unfold confirmationDepthFromTransactionInfo at hdepth
    cases hblock : extractOptionalU64 info ["block_number"] with
    | none =>
      simp only [hblock] at hdepth
      cases hdepth
    | some i =>
      simp only [hblock] at hdepth
      cases hdepth
      have hfold : ∀ acc, (d₁ ++ (d₃ ++ [])).foldl Poll.observe acc =
          ⟨current.transaction, current.transactionInfo, current.events,
            some snapshot.chainContext.headBlockNumber⟩ :: acc := by
        intro acc
        rw [List.append_nil, List.foldl_append, hpoll, observe_snapshot hsnapshot]
      have hinclusion : ∀ p : Poll, p.transactionInfo = some info → p.inclusion = some i := by
        intro p hp
        unfold Poll.inclusion
        rw [hp]
        exact hblock
      refine ⟨_, hfold, ?_, ?_⟩
      · unfold Poll.observation Poll.depth
        rw [hinclusion _ hcase, hsummary, hcase]
      · intro _
        exact ⟨i, _, hinclusion _ hcase, rfl⟩

end Polls

/-! ## The loop -/

/-- What the last poll that found the transaction saw, and `last` where none did. -/
def lastFound (last : AppContext.WatchObservation) (polls : List Poll) : AppContext.WatchObservation :=
  ((polls.reverse.find? Poll.found).map Poll.observation).getD last

theorem lastFound_cons (last : AppContext.WatchObservation) (p : Poll) (polls : List Poll) :
    lastFound last (p :: polls) = lastFound (if p.found then p.observation else last) polls := by
  unfold lastFound
  rw [List.reverse_cons, List.find?_append]
  cases hfound : polls.reverse.find? Poll.found with
  | some q => rfl
  | none => cases hp : p.found <;> simp [hp]

/-- The loop returned at its last poll, which is deep enough by the source's own count. -/
structure ReturnedDeep (plan : AppContext.WatchPlan) (polls : List Poll) (d : List Event)
    (out : WatchTransactionOutput) : Prop where
  first : ∃ front p, polls = front ++ [p] ∧ (∀ q ∈ front, plan.satisfied q.observation = false) ∧
    plan.satisfied p.observation = true ∧ out = plan.output p.observation
  events : ∃ d', d = d' ++ [⟨.loc (.removeUnresolved plan.txnHash), ()⟩]

/-- The loop returned because the deadline had passed. -/
structure ReturnedLate (plan : AppContext.WatchPlan) (last : AppContext.WatchObservation)
    (polls : List Poll) (d : List Event) (out : WatchTransactionOutput) : Prop where
  shallow : ∀ q ∈ polls, plan.satisfied q.observation = false
  shown : out = plan.output (lastFound last polls)
  events : ∃ d' now, d = d' ++ [⟨.clock .unixTimestamp, now⟩] ∧ plan.deadline ≤ now

/-- The loop returned, and the answers it was given are those of its polls. -/
def Returned (plan : AppContext.WatchPlan) (last : AppContext.WatchObservation) (d : List Event)
    (out : WatchTransactionOutput) : Prop :=
  ∃ polls, (∀ acc, d.foldl Poll.observe acc = polls.reverse ++ acc) ∧ (∀ p ∈ polls, p.Read) ∧
    (ReturnedDeep plan polls d out ∨ ReturnedLate plan last polls d out)

section Loop

variable {ctx : AppContext} {plan : AppContext.WatchPlan} {d d' : List Event} {p : Poll}
  {polls : List Poll} {out : WatchTransactionOutput} {last : AppContext.WatchObservation}

theorem ReturnedDeep.cons (h : ReturnedDeep plan polls d out)
    (hp : plan.satisfied p.observation = false) : ReturnedDeep plan (p :: polls) (d' ++ d) out := by
  obtain ⟨⟨front, q, rfl, hfront, hq, hout⟩, d₁, rfl⟩ := h
  refine ⟨⟨p :: front, q, rfl, ?_, hq, hout⟩, d' ++ d₁, by rw [List.append_assoc]⟩
  intro r hr
  rcases List.mem_cons.mp hr with rfl | hr
  · exact hp
  · exact hfront r hr

theorem ReturnedLate.cons
    (h : ReturnedLate plan (if p.found then p.observation else last) polls d out)
    (hp : plan.satisfied p.observation = false) : ReturnedLate plan last (p :: polls) (d' ++ d) out := by
  obtain ⟨hpolls, hout, d₁, now, rfl, hnow⟩ := h
  refine ⟨?_, by rw [hout, lastFound_cons], d' ++ d₁, now, by rw [List.append_assoc], hnow⟩
  intro q hq
  rcases List.mem_cons.mp hq with rfl | hq
  · exact hp
  · exact hpolls q hq

theorem found_of_satisfied (h : plan.satisfied p.observation = true) : p.found = true := by
  have hconfirmed : p.transactionInfo.isSome = true := (Bool.and_eq_true_iff.mp h).1
  unfold Poll.found
  rw [hconfirmed, Bool.or_true]

/-- After the lookups of a poll: it was deep enough, or the deadline has passed, or the loop
sleeps and goes on. -/
theorem ended_afterPoll {seen : AppContext.WatchObservation} {n : ℕ}
    (h : Ended (if plan.satisfied seen = true then pure (plan.output seen)
      else do
        let now ← clock .unixTimestamp
        if plan.deadline ≤ now then pure (plan.output last)
        else do
          clock (.sleep plan.effectivePollIntervalSeconds)
          ctx.watchLoop plan n last) d (.ok out)) :
    (plan.satisfied seen = true ∧ d = [] ∧ out = plan.output seen) ∨
      plan.satisfied seen = false ∧ ∃ now, (d = [⟨.clock .unixTimestamp, now⟩] ∧ plan.deadline ≤ now ∧
          out = plan.output last) ∨
        ∃ d₁, d = ⟨.clock .unixTimestamp, now⟩ ::
            ⟨.clock (.sleep plan.effectivePollIntervalSeconds), ()⟩ :: d₁ ∧
          Ended (ctx.watchLoop plan n last) d₁ (.ok out) := by
  unfold clock at h
  split at h
  next hdeep =>
    obtain ⟨rfl, hout⟩ := ended_pure.mp h
    cases hout
    exact .inl ⟨hdeep, rfl, rfl⟩
  next hshallow =>
    refine .inr ⟨Bool.eq_false_iff.mpr hshallow, ?_⟩
    obtain ⟨now, d₁, rfl, h₁⟩ := ended_ask_bind.mp h
    refine ⟨now, ?_⟩
    split at h₁
    next hlate =>
      obtain ⟨rfl, hout⟩ := ended_pure.mp h₁
      cases hout
      exact .inl ⟨rfl, hlate, rfl⟩
    next hearly =>
      obtain ⟨_, d₂, rfl, h₂⟩ := ended_ask_bind.mp h₁
      exact .inr ⟨d₂, rfl, h₂⟩

/-- The rest of the loop, once the answers `front` to one more poll are in. -/
theorem Returned.afterPoll {front : List Event} {n : ℕ}
    (ih : ∀ last d, Ended (ctx.watchLoop plan n last) d (.ok out) → Returned plan last d out)
    (hfront : ∀ acc, front.foldl Poll.observe acc = p :: acc) (hread : p.Read)
    (hcleared : plan.satisfied p.observation = true →
      ∃ d', front = d' ++ [⟨.loc (.removeUnresolved plan.txnHash), ()⟩])
    (h : Ended (if plan.satisfied p.observation = true then pure (plan.output p.observation)
      else do
        let now ← clock .unixTimestamp
        if plan.deadline ≤ now then pure (plan.output (if p.found then p.observation else last))
        else do
          clock (.sleep plan.effectivePollIntervalSeconds)
          ctx.watchLoop plan n (if p.found then p.observation else last)) d (.ok out)) :
    Returned plan last (front ++ d) out := by
  rcases ended_afterPoll h with ⟨hdeep, rfl, hout⟩ | ⟨hshallow, now, ⟨rfl, hnow, hout⟩ | ⟨d₁, rfl, hrest⟩⟩
  · refine ⟨[p], ?_, by simpa using hread, .inl ⟨⟨[], p, rfl, by simp, hdeep, hout⟩, ?_⟩⟩
    · intro acc
      rw [List.append_nil, hfront]
      rfl
    · rw [List.append_nil]
      exact hcleared hdeep
  · refine ⟨[p], ?_, by simpa using hread, .inr ⟨by simpa using hshallow, ?_, front, now, rfl, hnow⟩⟩
    · intro acc
      rw [List.foldl_append, hfront]
      rfl
    · rw [hout, lastFound_cons]
      rfl
  · obtain ⟨polls, hpolls, hreads, hreturned⟩ := ih _ _ hrest
    have hslept : front ++ ⟨.clock .unixTimestamp, now⟩ ::
        ⟨.clock (.sleep plan.effectivePollIntervalSeconds), ()⟩ :: d₁ =
        front ++ [⟨.clock .unixTimestamp, now⟩,
          ⟨.clock (.sleep plan.effectivePollIntervalSeconds), ()⟩] ++ d₁ := by simp
    rw [hslept]
    refine ⟨p :: polls, ?_, ?_, ?_⟩
    · intro acc
      rw [List.foldl_append, List.foldl_append, hfront, hpolls]
      simp [Poll.observe]
    · intro q hq
      rcases List.mem_cons.mp hq with rfl | hq
      · exact hread
      · exact hreads q hq
    · rcases hreturned with hdeep | hlate
      · exact .inl (hdeep.cons hshallow)
      · exact .inr (hlate.cons hshallow)

/-- A loop that came to an end is what its polls make of it. -/
theorem watchLoop_returned (hinfo : ctx.startupProbe.supportsTransactionInfoLookup = true) (n : ℕ) :
    ∀ last d, Ended (ctx.watchLoop plan n last) d (.ok out) → Returned plan last d out := by
  induction n with
  | zero =>
    intro last d h
    cases h
  | succ n ih =>
    intro last d h
    unfold AppContext.watchLoop at h
    obtain ⟨seen, d₁, d₂, rfl, hseen, h₁⟩ := h.of_bind_ok
    obtain ⟨p, hpoll, rfl, hread⟩ := observe_watchPoll hinfo hseen
    by_cases hfound : p.found = true
    · have hsummary : p.observation.statusSummary.found = true := hfound
      simp only [hsummary, if_true] at h₁
      obtain ⟨_, d₃, rfl, h₂⟩ := ended_ask_bind.mp h₁
      rw [List.append_cons]
      refine Returned.afterPoll ih ?_ hread (fun _ => ⟨d₁, rfl⟩) ?_
      · intro acc
        rw [List.foldl_append, hpoll]
        rfl
      · rw [if_pos hfound]
        exact h₂
    · have hsummary : ¬ p.observation.statusSummary.found = true := hfound
      simp only [hsummary] at h₁
      refine Returned.afterPoll ih hpoll hread ?_ ?_
      · intro hdeep
        exact absurd (found_of_satisfied hdeep) hfound
      · rw [if_neg hfound]
        exact h₁

end Loop

/-! ## What a watch reports -/

/-- The depth that is waited for: the requested one or two, and at least one. -/
def WatchTransactionInput.minDepth (input : WatchTransactionInput) : ℕ :=
  max 1 ((input.minConfirmedBlocks.map UInt64.toNat).getD 2)

/-- The output is made of one observation. -/
structure WatchTransactionOutput.Shows (out : WatchTransactionOutput)
    (seen : AppContext.WatchObservation) : Prop where
  found : out.found = seen.statusSummary.found
  statusSummary : out.statusSummary = seen.statusSummary
  transactionInfo : out.transactionInfo = seen.transactionInfo
  events : out.events = seen.events
  confirmedBlocks : out.confirmedBlocks = seen.confirmedBlocks
  inclusionBlockNumber : out.inclusionBlockNumber = seen.inclusionBlockNumber

/-- The last thing asked for, before the permit was given back, was the time. -/
def TimedOut (d : List Event) : Prop :=
  ∃ d' now, d = d' ++ [⟨.clock .unixTimestamp, now⟩, ⟨.loc .dropWatchPermit, ()⟩]

/-- A watch for the depth `m` that was given the answers `d` reports `confirmed` just when a poll
was deep enough, returns at the first such poll with what that poll saw, and at the deadline
reports what the last poll that found the transaction saw. -/
structure WatchReports (m : ℕ) (d : List Event) (out : WatchTransactionOutput) : Prop where
  confirmed : out.confirmed = true ↔ ∃ p ∈ Poll.observed d, p.Deep m
  first : ∀ front p rest, Poll.observed d = front ++ p :: rest → (∀ q ∈ front, ¬ q.Deep m) →
    p.Deep m → rest = [] ∧ out.Shows p.observation
  deadline : TimedOut d →
    out.confirmed = false ∧ out.Shows (lastFound AppContext.nothingSeen (Poll.observed d))

section Reports

variable {ctx : AppContext} {plan : AppContext.WatchPlan} {input : WatchTransactionInput} {n m : ℕ}
  {d : List Event} {p : Poll} {polls : List Poll} {out : WatchTransactionOutput}

theorem toNat_effectiveMinConfirmedBlocks (requested : Option UInt64) :
    (effectiveMinConfirmedBlocks requested).toNat = max 1 ((requested.map UInt64.toNat).getD 2) := by
  have hmax : ∀ a : UInt64, (max a 1).toNat = max 1 a.toNat := by
    intro a
    have hdef : max a 1 = if a ≤ 1 then 1 else a := rfl
    have hone : (1 : UInt64).toNat = 1 := rfl
    rw [hdef]
    split
    next h =>
      have hle := UInt64.le_iff_toNat_le.mp h
      omega
    next h =>
      have hlt := UInt64.lt_iff_toNat_lt.mp (UInt64.not_le.mp h)
      omega
  cases requested with
  | none => rfl
  | some a => exact hmax a

theorem shows_output (seen : AppContext.WatchObservation) : (plan.output seen).Shows seen :=
  ⟨rfl, rfl, rfl, rfl, rfl, rfl⟩

theorem toNat_depth (i h : UInt64) :
    (saturatingAdd (saturatingSub h i) 1).toNat = min (h.toNat - i.toNat + 1) (2 ^ 64 - 1) := by
  rw [toNat_saturatingAdd, toNat_saturatingSub]
  rfl

/-- The source's own count, in unbounded integers: a head behind the block counts as that block. -/
theorem satisfied_iff (hread : p.Read) (hm : plan.effectiveMinConfirmedBlocks.toNat = m) (hpos : 1 ≤ m) :
    plan.satisfied p.observation = true ↔
      ∃ i h, p.inclusion = some i ∧ p.head = some h ∧ m ≤ h.toNat - i.toNat + 1 := by
  have hbound : m < 2 ^ 64 := hm ▸ UInt64.toNat_lt _
  have hsplit : plan.satisfied p.observation = true ↔
      p.transactionInfo.isSome = true ∧ plan.effectiveMinConfirmedBlocks ≤ p.depth.1.getD 0 := by
    unfold AppContext.WatchPlan.satisfied watchConfirmationSatisfied
    rw [Bool.and_eq_true, decide_eq_true_eq]
    rfl
  rw [hsplit, UInt64.le_iff_toNat_le, hm]
  constructor
  · rintro ⟨hsome, hdepth⟩
    obtain ⟨i, h, hi, hh⟩ := hread hsome
    have hblocks : p.depth.1 = some (saturatingAdd (saturatingSub h i) 1) := by
      unfold Poll.depth
      rw [hi, hh]
    rw [hblocks, Option.getD_some, toNat_depth] at hdepth
    exact ⟨i, h, hi, hh, by omega⟩
  · rintro ⟨i, h, hi, hh, hdepth⟩
    have hblocks : p.depth.1 = some (saturatingAdd (saturatingSub h i) 1) := by
      unfold Poll.depth
      rw [hi, hh]
    constructor
    · cases hinfo : p.transactionInfo with
      | some info => rfl
      | none =>
        unfold Poll.inclusion at hi
        rw [hinfo] at hi
        cases hi
    · rw [hblocks, Option.getD_some, toNat_depth]
      omega

theorem satisfied_of_deep (hread : p.Read) (hm : plan.effectiveMinConfirmedBlocks.toNat = m)
    (hpos : 1 ≤ m) (h : p.Deep m) : plan.satisfied p.observation = true := by
  obtain ⟨i, h, hi, hh, hdepth⟩ := h
  exact (satisfied_iff hread hm hpos).mpr ⟨i, h, hi, hh, by omega⟩

/-- The two counts differ only where one block is asked for and the head is behind it. -/
theorem deep_of_satisfied (hread : p.Read) (hm : plan.effectiveMinConfirmedBlocks.toNat = m)
    (hpos : 1 ≤ m) (hstep : 2 ≤ m ∨ p.InStep) (h : plan.satisfied p.observation = true) : p.Deep m := by
  obtain ⟨i, h, hi, hh, hdepth⟩ := (satisfied_iff hread hm hpos).mp h
  refine ⟨i, h, hi, hh, ?_⟩
  rcases hstep with hm₂ | hstep
  · omega
  · have hle := hstep i h hi hh
    omega

/-- What the answers to a watch are: the permit, the time, those of the loop, the permit back. -/
theorem watchTransaction_ended (h : Ended (ctx.watchTransaction n input) d (.ok out)) :
    ∃ now d', ∃ plan : AppContext.WatchPlan,
      d = ⟨.loc .tryWatchPermit, true⟩ :: ⟨.clock .unixTimestamp, now⟩ :: d' ++
        [⟨.loc .dropWatchPermit, ()⟩] ∧
      plan.effectiveMinConfirmedBlocks.toNat = input.minDepth ∧
      Returned plan AppContext.nothingSeen d' out := by
  unfold AppContext.watchTransaction AppContext.tryWatchPermit loc at h
  obtain ⟨_, hcapability, h₁⟩ := h.of_lift_bind_ok
  have hinfo : ctx.startupProbe.supportsTransactionInfoLookup = true := by
    unfold ensureCapability at hcapability
    split at hcapability
    next hboth => exact (Bool.and_eq_true_iff.mp hboth).2
    next => cases hcapability
  obtain ⟨_, d₁, d₂, rfl, hpermit, h₂⟩ := h₁.of_bind_ok
  obtain ⟨granted, d₃, rfl, hgranted⟩ := ended_ask_bind.mp hpermit
  cases granted with
  | false => cases hgranted
  | true =>
    obtain ⟨rfl, -⟩ := ended_pure.mp hgranted
    obtain ⟨outcome, d₄, d₅, rfl, hbody, h₃⟩ := h₂.of_bind_ok
    obtain ⟨_, d₆, rfl, h₄⟩ := ended_ask_bind.mp h₃
    obtain ⟨rfl, houtcome⟩ := ended_lift.mp h₄
    obtain ⟨r, hr, hloop⟩ := hbody.of_attempt
    cases hr
    subst houtcome
    unfold AppContext.watchBody clock at hloop
    obtain ⟨now, d₇, rfl, hpolls⟩ := ended_ask_bind.mp hloop
    have hreturned := watchLoop_returned hinfo n _ _ hpolls
    exact ⟨now, d₇, _, rfl, toNat_effectiveMinConfirmedBlocks _, hreturned⟩

/-- The polls of a watch are those of its loop. -/
theorem observed_watch {now : UInt64} {d' : List Event}
    (hpolls : ∀ acc, d'.foldl Poll.observe acc = polls.reverse ++ acc) :
    Poll.observed (⟨.loc .tryWatchPermit, true⟩ :: ⟨.clock .unixTimestamp, now⟩ :: d' ++
      [⟨.loc .dropWatchPermit, ()⟩]) = polls := by
  have hloop : d'.foldl Poll.observe [] = polls.reverse := by simpa using hpolls []
  simp [Poll.observed, Poll.observe, hloop]

theorem satisfied_lastFound (hpolls : ∀ q ∈ polls, plan.satisfied q.observation = false) :
    plan.satisfied (lastFound AppContext.nothingSeen polls) = false := by
  unfold lastFound
  cases hfound : polls.reverse.find? Poll.found with
  | none => rfl
  | some q => exact hpolls q (List.mem_reverse.mp (List.mem_of_find?_eq_some hfound))

/-- The loop stops at the first poll that it takes to be deep enough. -/
theorem ReturnedDeep.last_of_satisfied (h : ReturnedDeep plan polls d out) {front rest : List Poll}
    (hsplit : polls = front ++ p :: rest) (hp : plan.satisfied p.observation = true) :
    rest = [] ∧ out = plan.output p.observation := by
  obtain ⟨before, q, hpolls, hbefore, -, hout⟩ := h.first
  rw [hpolls] at hsplit
  rcases List.eq_nil_or_concat rest with rfl | ⟨rest', x, rfl⟩
  · obtain ⟨-, hq⟩ := List.append_inj' hsplit rfl
    cases hq
    exact ⟨rfl, hout⟩
  · have hinit : before = front ++ p :: rest' := by
      have hlast : front ++ p :: (rest' ++ [x]) = (front ++ p :: rest') ++ [x] := by simp
      rw [List.concat_eq_append, hlast] at hsplit
      exact (List.append_inj' hsplit rfl).1
    have hfalse := hbefore p (by rw [hinit]; simp)
    rw [hfalse] at hp
    cases hp

theorem ReturnedDeep.not_timedOut {now : UInt64} (h : ReturnedDeep plan polls d out) :
    ¬ TimedOut (⟨.loc .tryWatchPermit, true⟩ :: ⟨.clock .unixTimestamp, now⟩ :: d ++
      [⟨.loc .dropWatchPermit, ()⟩]) := by
  rintro ⟨d₁, t, heq⟩
  obtain ⟨d₂, rfl⟩ := h.events
  have hleft : (⟨.loc .tryWatchPermit, true⟩ :: ⟨.clock .unixTimestamp, now⟩ ::
      (d₂ ++ [⟨.loc (.removeUnresolved plan.txnHash), ()⟩]) ++ [⟨.loc .dropWatchPermit, ()⟩] : List Event) =
      (⟨.loc .tryWatchPermit, true⟩ :: ⟨.clock .unixTimestamp, now⟩ :: d₂) ++
        [⟨.loc (.removeUnresolved plan.txnHash), ()⟩, ⟨.loc .dropWatchPermit, ()⟩] := by simp
  rw [hleft] at heq
  have hlast := (List.append_inj' heq rfl).2
  cases hlast

section Runs

variable {before : List Event} (hobserved : Poll.observed before = polls)

include hobserved

/-- Where both counts agree, a loop that returned at a poll returned at the first that is deep. -/
theorem ReturnedDeep.reports (hdeep : ReturnedDeep plan polls d out) (htime : ¬ TimedOut before)
    (hiff : ∀ p ∈ polls, (plan.satisfied p.observation = true ↔ p.Deep m)) :
    WatchReports m before out := by
  obtain ⟨front, q, hsplit, hfront, hq, hout⟩ := hdeep.first
  have hqmem : q ∈ polls := by simp [hsplit]
  constructor
  · rw [hobserved, hout]
    exact ⟨fun _ => ⟨q, hqmem, (hiff q hqmem).mp hq⟩, fun _ => hq⟩
  · intro front' p rest hpolls _ hp
    rw [hobserved] at hpolls
    have hpmem : p ∈ polls := by simp [hpolls]
    obtain ⟨hrest, hout'⟩ := hdeep.last_of_satisfied hpolls ((hiff p hpmem).mpr hp)
    exact ⟨hrest, hout' ▸ shows_output _⟩
  · intro htimed
    exact absurd htimed htime

/-- And one that returned at the deadline saw no poll that is deep. -/
theorem ReturnedLate.reports (hlate : ReturnedLate plan AppContext.nothingSeen polls d out)
    (hiff : ∀ p ∈ polls, (plan.satisfied p.observation = true ↔ p.Deep m)) :
    WatchReports m before out := by
  have hnone : ∀ p ∈ polls, ¬ p.Deep m := by
    intro p hp hpdeep
    have hsat := (hiff p hp).mpr hpdeep
    rw [hlate.shallow p hp] at hsat
    cases hsat
  have hconfirmed : out.confirmed = false := by
    rw [hlate.shown]
    exact satisfied_lastFound hlate.shallow
  constructor
  · rw [hobserved, hconfirmed]
    constructor
    · intro hfalse
      cases hfalse
    · rintro ⟨p, hp, hpdeep⟩
      exact absurd hpdeep (hnone p hp)
  · intro front p rest hpolls _ hp
    rw [hobserved] at hpolls
    exact absurd hp (hnone p (by simp [hpolls]))
  · intro _
    rw [hobserved]
    exact ⟨hconfirmed, hlate.shown ▸ shows_output _⟩

/-- A loop that returned at a poll, and rightly so, returned at one that is deep. -/
theorem ReturnedDeep.deep_of_reports (hdeep : ReturnedDeep plan polls d out)
    (hread : ∀ p ∈ polls, p.Read) (hm : plan.effectiveMinConfirmedBlocks.toNat = m) (hpos : 1 ≤ m)
    (hreports : WatchReports m before out) (hp : p ∈ polls)
    (hsatisfied : plan.satisfied p.observation = true) : p.Deep m := by
  obtain ⟨front, rest, hsplit⟩ := List.append_of_mem hp
  obtain ⟨rfl, hout⟩ := hdeep.last_of_satisfied hsplit hsatisfied
  have hconfirmed : out.confirmed = true := by
    rw [hout]
    exact hsatisfied
  obtain ⟨q, hq, hqdeep⟩ := hreports.confirmed.mp hconfirmed
  rw [hobserved] at hq
  -- both are the last poll
  obtain ⟨front', rest', hsplit'⟩ := List.append_of_mem hq
  obtain ⟨rfl, -⟩ := hdeep.last_of_satisfied hsplit' (satisfied_of_deep (hread q hq) hm hpos hqdeep)
  obtain ⟨-, hlast⟩ := List.append_inj' (hsplit'.symm.trans hsplit) rfl
  cases hlast
  exact hqdeep

end Runs

end Reports

/-- A watch reports what its polls saw, unless one block is asked for and a poll is told a head
behind the block of the transaction. -/
theorem watch_reports_iff (ctx : AppContext) (n : ℕ) (input : WatchTransactionInput) (d : List Event)
    (out : WatchTransactionOutput) (h : Ended (ctx.watchTransaction n input) d (.ok out)) :
    WatchReports input.minDepth d out ↔
      2 ≤ input.minDepth ∨ ∀ p ∈ Poll.observed d, p.InStep := by
  obtain ⟨now, d', plan, rfl, hm, polls, hpolls, hread, hreturned⟩ := watchTransaction_ended h
  have hpos : 1 ≤ input.minDepth := le_max_left ..
  have hobserved : Poll.observed (⟨.loc .tryWatchPermit, true⟩ :: ⟨.clock .unixTimestamp, now⟩ :: d' ++
      [⟨.loc .dropWatchPermit, ()⟩]) = polls := observed_watch hpolls
  constructor
  · intro hreports
    by_cases htwo : 2 ≤ input.minDepth
    · exact .inl htwo
    refine .inr fun p hp i head hi hhead => ?_
    rw [hobserved] at hp
    -- one block is asked for, so any poll that reads both numbers is taken to be deep enough
    have hsatisfied : plan.satisfied p.observation = true :=
      (satisfied_iff (hread p hp) hm hpos).mpr ⟨i, head, hi, hhead, by omega⟩
    rcases hreturned with hdeep | hlate
    · obtain ⟨i', head', hi', hhead', hle⟩ :=
        hdeep.deep_of_reports hobserved hread hm hpos hreports hp hsatisfied
      obtain rfl := Option.some.inj (hi.symm.trans hi')
      obtain rfl := Option.some.inj (hhead.symm.trans hhead')
      omega
    · rw [hlate.shallow p hp] at hsatisfied
      cases hsatisfied
  · intro hcond
    have hiff : ∀ p ∈ polls, (plan.satisfied p.observation = true ↔ p.Deep input.minDepth) := by
      intro p hp
      have hstep : 2 ≤ input.minDepth ∨ p.InStep := by
        rcases hcond with htwo | hall
        · exact .inl htwo
        · exact .inr (hall p (by rw [hobserved]; exact hp))
      exact ⟨deep_of_satisfied (hread p hp) hm hpos hstep, satisfied_of_deep (hread p hp) hm hpos⟩
    rcases hreturned with hdeep | hlate
    · exact hdeep.reports hobserved hdeep.not_timedOut hiff
    · exact hlate.reports hobserved hiff

namespace Sample

/-- The transaction is in the block `block`; the head is block 100. -/
def included (block : UInt64) : (o : Op) → o.Ans
  | .rpc (.getTransactionInfo _) => .ok (some (.object [("block_number", .number (.posInt block))]))
  | .loc .tryWatchPermit => true
  | o => reply 7 o

def watching (depth : Option UInt64) : WatchTransactionInput := ⟨txnHash, none, none, depth⟩

/-- The watch of a transaction in the block `block`. -/
def watch (depth : Option UInt64) (block : UInt64) :
    Option (List Event × Except SharedError WatchTransactionOutput) :=
  (ctx.watchTransaction 1 (watching depth)).answeredBy (included block)

end Sample

open Sample in
theorem watch_reports_default : ∃ d out, Ended (ctx.watchTransaction 1 (watching none)) d (.ok out) ∧
    out.confirmed = true ∧ WatchReports (watching none).minDepth d out := by
  have hrun : (watch none 99).map (fun (_, r) => r.toOption.map (·.confirmed)) = some (some true) := by
    decide +kernel
  obtain ⟨⟨d, r⟩, hwatch, hr⟩ := Option.map_eq_some_iff.mp hrun
  cases r with
  | error e => cases hr
  | ok out =>
    have hended := ended_of_answeredBy hwatch
    exact ⟨d, out, hended, Option.some.inj hr,
      (watch_reports_iff ctx 1 (watching none) d out hended).mpr (.inl (by decide))⟩

open Sample in
/-- One block is asked for; the transaction is in block 101 and the head is block 100. -/
theorem watch_confirms_ahead_of_head :
    ∃ d out, Ended (ctx.watchTransaction 1 (watching (some 1))) d (.ok out) ∧
      out.confirmed = true ∧ (Poll.observed d).map (fun p => (p.inclusion, p.head)) =
        [(some 101, some 100)] ∧
      ¬ WatchReports (watching (some 1)).minDepth d out := by
  have hrun : (watch (some 1) 101).map (fun (d, r) => (r.toOption.map (·.confirmed),
      (Poll.observed d).map fun p => (p.inclusion, p.head))) =
      some (some true, [(some 101, some 100)]) := by
    decide +kernel
  obtain ⟨⟨d, r⟩, hwatch, hr⟩ := Option.map_eq_some_iff.mp hrun
  rw [Prod.mk.injEq] at hr
  obtain ⟨hconfirmed, hpolls⟩ := hr
  cases r with
  | error e => cases hconfirmed
  | ok out =>
    have htrue : out.confirmed = true := Option.some.inj hconfirmed
    refine ⟨d, out, ended_of_answeredBy hwatch, htrue, hpolls, ?_⟩
    intro hreports
    obtain ⟨p, hp, i, h, hi, hh, hle⟩ := hreports.confirmed.mp htrue
    have hmem : (p.inclusion, p.head) ∈ [((some 101 : Option UInt64), (some 100 : Option UInt64))] := by
      rw [← hpolls]
      exact List.mem_map_of_mem hp
    rw [List.mem_singleton, hi, hh] at hmem
    cases hmem
    revert hle
    decide

end StarcoinMcp.Node
