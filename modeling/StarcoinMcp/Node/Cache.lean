import StarcoinMcp.Node.Config
import StarcoinMcp.Lib.Table
import StarcoinMcp.Lib.Trace
import StarcoinMcp.Lib.Value

/-! The timed caches of the RPC client. Both are behind a lock that each operation
takes for its whole length, so what the tasks of the node do to a cache is one
sequence of operations; each carries the time it reads, and an insertion also the
place at which the hash map happens to start its iteration. -/

namespace StarcoinMcp.Node

structure CachedValue where
  insertedAt : Instant
  value : Value

structure TimedValueCache where
  ttl : Duration
  capacity : ℕ
  entries : Table (Prod.fst : String × CachedValue → String)

namespace TimedValueCache

def new (ttl : Duration) (capacity : ℕ) : TimedValueCache := ⟨ttl, capacity, Table.empty⟩

def size (c : TimedValueCache) : ℕ := c.entries.rows.length

def Bounded (c : TimedValueCache) : Prop := c.size ≤ c.capacity

def holds (c : TimedValueCache) (key : String) : Bool := (c.entries.find key).isSome

def get (c : TimedValueCache) (now : Instant) (key : String) : Option Value :=
  match c.entries.find key with
  | some (_, entry) => if elapsed entry.insertedAt now ≤ c.ttl.nanos then some entry.value else none
  | none => none

/-- `entries.keys().next()`. A hash map iterates in any order; `start` picks the key it begins with. -/
def firstKey (c : TimedValueCache) (start : ℕ) : Option String :=
  (c.entries.rows.map Prod.fst)[start % c.size]?

def remove (c : TimedValueCache) (key : String) : TimedValueCache :=
  { c with entries := c.entries.filter fun row => row.1 ≠ key }

/-- The entries once `insert` has made room, which it does before it looks the key up. -/
def makeRoom (c : TimedValueCache) (start : ℕ) : TimedValueCache :=
  if c.capacity ≤ c.size then
    match c.firstKey start with
    | some first => c.remove first
    | none => c
  else c

def insert (c : TimedValueCache) (start : ℕ) (now : Instant) (key : String) (value : Value) :
    TimedValueCache :=
  if c.capacity = 0 then c
  else
    let roomy := c.makeRoom start
    { roomy with entries := roomy.entries.upsert (key, ⟨now, value⟩) }

@[simp] theorem capacity_makeRoom {c : TimedValueCache} {start : ℕ} :
    (c.makeRoom start).capacity = c.capacity := by
  unfold makeRoom
  split_ifs
  · cases c.firstKey start <;> rfl
  · rfl

theorem holds_iff {c : TimedValueCache} {key : String} :
    c.holds key = true ↔ key ∈ c.entries.rows.map Prod.fst := by
  unfold holds
  constructor
  · intro h
    obtain ⟨row, hrow⟩ := Option.isSome_iff_exists.mp h
    exact List.mem_map.mpr ⟨row, Table.mem_of_find hrow, Table.key_of_find hrow⟩
  · intro h
    obtain ⟨row, hrow, rfl⟩ := List.mem_map.mp h
    rw [Table.find_of_mem hrow]
    rfl

theorem holds_of_firstKey {c : TimedValueCache} {start : ℕ} {first : String}
    (h : c.firstKey start = some first) : c.holds first = true :=
  holds_iff.mpr (List.mem_of_getElem? h)

theorem exists_firstKey {c : TimedValueCache} (h : 0 < c.size) (start : ℕ) :
    ∃ first, c.firstKey start = some first := by
  have hlt : start % c.size < (c.entries.rows.map Prod.fst).length := by
    rw [List.length_map]
    exact Nat.mod_lt start h
  exact ⟨_, List.getElem?_eq_getElem hlt⟩

theorem find_remove {c : TimedValueCache} {key other : String} :
    (c.remove key).entries.find other = if other = key then none else c.entries.find other := by
  unfold remove
  by_cases h : other = key
  · subst h
    rw [if_pos rfl, Table.find_filter_eq_none]
    intro row _ hrow
    simpa using hrow
  · rw [if_neg h]
    apply Table.find_filter
    intro row hrow
    simpa [hrow] using h

theorem size_remove_lt {c : TimedValueCache} {key : String} (h : c.holds key = true) :
    (c.remove key).size < c.size := by
  obtain ⟨row, hrow, hkey⟩ := List.mem_map.mp (holds_iff.mp h)
  unfold size remove Table.filter
  exact List.length_filter_lt_length_iff_exists.mpr ⟨row, hrow, by simp [hkey]⟩

/-- The entries after room was made: those of before, less the first key of a full map. -/
theorem find_makeRoom {c : TimedValueCache} {start : ℕ} {key : String} :
    (c.makeRoom start).entries.find key =
      if c.capacity ≤ c.size ∧ c.firstKey start = some key then none else c.entries.find key := by
  unfold makeRoom
  by_cases hfull : c.capacity ≤ c.size
  · rw [if_pos hfull]
    cases hfirst : c.firstKey start with
    | none => simp
    | some first => simp [find_remove, hfull, eq_comm]
  · simp [hfull]

theorem size_makeRoom_lt {c : TimedValueCache} {start : ℕ} (hpos : c.capacity ≠ 0)
    (h : c.Bounded) : (c.makeRoom start).size < c.capacity := by
  unfold Bounded at h
  unfold makeRoom
  by_cases hfull : c.capacity ≤ c.size
  · obtain ⟨first, hfirst⟩ := exists_firstKey (by omega : 0 < c.size) start
    rw [if_pos hfull, hfirst]
    have hlt := size_remove_lt (holds_of_firstKey hfirst)
    dsimp only
    omega
  · rw [if_neg hfull]
    omega

/-! ## What an insertion does -/

theorem find_insert {c : TimedValueCache} {start : ℕ} {now : Instant} {key other : String}
    {value : Value} (hpos : c.capacity ≠ 0) :
    (c.insert start now key value).entries.find other =
      if other = key then some (key, ⟨now, value⟩)
      else (c.makeRoom start).entries.find other := by
  unfold insert
  rw [if_neg hpos]
  exact Table.find_upsert _ _ _

@[simp] theorem capacity_insert {c : TimedValueCache} {start : ℕ} {now : Instant} {key : String}
    {value : Value} : (c.insert start now key value).capacity = c.capacity := by
  unfold insert
  split_ifs
  · rfl
  · exact capacity_makeRoom

theorem size_insert_le {c : TimedValueCache} {start : ℕ} {now : Instant} {key : String}
    {value : Value} (h : c.Bounded) :
    (c.insert start now key value).size ≤ c.capacity := by
  unfold insert
  by_cases hpos : c.capacity = 0
  · rwa [if_pos hpos]
  · rw [if_neg hpos]
    have hroom : (c.makeRoom start).size < c.capacity := size_makeRoom_lt hpos h
    have hupsert := Table.length_upsert_le (c.makeRoom start).entries (key, ⟨now, value⟩)
    exact hupsert.trans hroom

/-! ## Runs -/

inductive CacheOp
  | get (key : String) (now : Instant)
  | insert (key : String) (value : Value) (now : Instant) (start : ℕ)

def CacheOp.inserts (key : String) : CacheOp → Bool
  | .get _ _ => false
  | .insert key' _ _ _ => key' = key

def step (c : TimedValueCache) : CacheOp → TimedValueCache
  | .get _ _ => c
  | .insert key value now start => c.insert start now key value

/-- The cache after these operations. -/
def after (ttl : Duration) (capacity : ℕ) (ops : List CacheOp) : TimedValueCache :=
  Trace.run step (new ttl capacity) ops

section Runs

variable {ttl : Duration} {capacity : ℕ} {ops : List CacheOp} {key : String}

theorem after_snoc {op : CacheOp} :
    after ttl capacity (ops ++ [op]) = (after ttl capacity ops).step op := Trace.run_snoc

@[simp] theorem ttl_step {c : TimedValueCache} {op : CacheOp} : (c.step op).ttl = c.ttl := by
  cases op with
  | get key now => rfl
  | insert key value now start =>
    unfold step insert makeRoom
    dsimp only
    split_ifs
    · rfl
    · cases c.firstKey start <;> rfl
    · rfl

@[simp] theorem capacity_step {c : TimedValueCache} {op : CacheOp} :
    (c.step op).capacity = c.capacity := by
  cases op with
  | get key now => rfl
  | insert key value now start => exact capacity_insert

@[simp] theorem ttl_after : (after ttl capacity ops).ttl = ttl := by
  have h : ∀ (c : TimedValueCache) op, c.ttl = ttl → (c.step op).ttl = ttl := by
    intro c op hc
    rw [ttl_step, hc]
  exact Trace.run_invariant h (by rfl) ops

@[simp] theorem capacity_after : (after ttl capacity ops).capacity = capacity := by
  have h : ∀ (c : TimedValueCache) op, c.capacity = capacity → (c.step op).capacity = capacity := by
    intro c op hc
    rw [capacity_step, hc]
  exact Trace.run_invariant h (by rfl) ops

theorem bounded_step {c : TimedValueCache} (op : CacheOp) (h : c.Bounded) : (c.step op).Bounded := by
  cases op with
  | get key now => exact h
  | insert key value now start =>
    unfold Bounded
    rw [capacity_step]
    exact size_insert_le h

theorem bounded_after : (after ttl capacity ops).Bounded := by
  apply Trace.run_invariant (fun _ op => bounded_step op)
  exact Nat.zero_le capacity

/-- With no capacity nothing is ever kept. -/
theorem find_of_capacity_zero {c : TimedValueCache} (hb : c.Bounded) (h : c.capacity = 0) :
    c.entries.find key = none := by
  have hrows : c.entries.rows = [] := List.length_eq_zero_iff.mp (Nat.le_zero.mp (h ▸ hb))
  unfold Table.find
  rw [hrows]
  rfl

/-- The newest insertion of the key among the operations wrote this entry. -/
def LastInsert (key : String) (entry : CachedValue) (ops : List CacheOp) : Prop :=
  ∃ earlier start later, ops = earlier ++ .insert key entry.value entry.insertedAt start :: later ∧
    ∀ op ∈ later, op.inserts key = false

theorem LastInsert.snoc {entry : CachedValue} {op : CacheOp} (h : LastInsert key entry ops)
    (hop : op.inserts key = false) : LastInsert key entry (ops ++ [op]) := by
  obtain ⟨earlier, start, later, rfl, hlater⟩ := h
  refine ⟨earlier, start, later ++ [op], by simp, ?_⟩
  intro op' hop'
  rcases List.mem_append.mp hop' with hmem | hmem
  · exact hlater op' hmem
  · rw [List.mem_singleton.mp hmem]
    exact hop

/-- An entry that is found is the newest one inserted: an eviction only takes entries away. -/
theorem lastInsert_of_find {row : String × CachedValue}
    (h : (after ttl capacity ops).entries.find key = some row) : LastInsert key row.2 ops := by
  induction ops using List.reverseRecOn generalizing row with
  | nil => simp [after, new] at h
  | append_singleton ops op ih =>
    rw [after_snoc] at h
    cases op with
    | get key' now => exact (ih h).snoc rfl
    | insert key' value now start =>
      by_cases hpos : capacity = 0
      · have hnone : (after ttl capacity (ops ++ [.insert key' value now start])).entries.find key = none :=
          find_of_capacity_zero bounded_after (by rwa [capacity_after])
        rw [← after_snoc, hnone] at h
        cases h
      · unfold step at h
        dsimp only at h
        rw [find_insert (by rwa [capacity_after])] at h
        by_cases hkey : key = key'
        · subst hkey
          rw [if_pos rfl] at h
          cases h
          exact ⟨ops, start, [], rfl, by simp⟩
        · rw [if_neg hkey, find_makeRoom] at h
          split_ifs at h
          exact (ih h).snoc (by simpa [CacheOp.inserts] using Ne.symm hkey)

theorem lastInsert_of_get {now : Instant} {value : Value}
    (h : (after ttl capacity ops).get now key = some value) :
    ∃ insertedAt, LastInsert key ⟨insertedAt, value⟩ ops ∧ elapsed insertedAt now ≤ ttl.nanos := by
  unfold get at h
  cases hfind : (after ttl capacity ops).entries.find key with
  | none =>
    rw [hfind] at h
    cases h
  | some row =>
    rw [hfind] at h
    obtain ⟨_, entry⟩ := row
    dsimp only at h
    split_ifs at h with hage
    cases h
    rw [ttl_after] at hage
    exact ⟨entry.insertedAt, lastInsert_of_find hfind, hage⟩

/-! ## Evictions -/

/-- The operation takes the entry of another key out of the cache. -/
def Evicts (c : TimedValueCache) (op : CacheOp) (other : String) : Prop :=
  op.inserts other = false ∧ c.holds other = true ∧ (c.step op).holds other = false

/-- No insertion of a key that a full cache already holds starts its iteration at another key. -/
def RefreshesInPlace (c : TimedValueCache) : CacheOp → Prop
  | .get _ _ => True
  | .insert key _ _ start => c.holds key = true → c.capacity ≤ c.size → c.firstKey start = some key

instance {c : TimedValueCache} : ∀ op, Decidable (c.RefreshesInPlace op)
  | .get _ _ => inferInstanceAs (Decidable True)
  | .insert key _ _ start =>
    inferInstanceAs (Decidable (c.holds key = true → c.capacity ≤ c.size → c.firstKey start = some key))

theorem evicts_insert {c : TimedValueCache} {value : Value} {now : Instant} {start : ℕ}
    {other : String} (hpos : c.capacity ≠ 0) :
    c.Evicts (.insert key value now start) other ↔
      other ≠ key ∧ c.capacity ≤ c.size ∧ c.firstKey start = some other := by
  unfold Evicts step holds
  dsimp only
  rw [find_insert hpos, find_makeRoom]
  constructor
  · rintro ⟨hkey, hheld, hgone⟩
    have hne : other ≠ key := by simpa [CacheOp.inserts, eq_comm] using hkey
    rw [if_neg hne] at hgone
    by_cases hfirst : c.capacity ≤ c.size ∧ c.firstKey start = some other
    · exact ⟨hne, hfirst⟩
    · rw [if_neg hfirst, hheld] at hgone
      cases hgone
  · rintro ⟨hne, hfirst⟩
    refine ⟨by simpa [CacheOp.inserts] using hne.symm, holds_of_firstKey hfirst.2, ?_⟩
    rw [if_neg hne, if_pos hfirst]
    rfl

/-- At one insertion, whatever is evicted makes room for a new key exactly when a held key is
refreshed in place. -/
theorem evicts_for_room_iff {c : TimedValueCache} {value : Value} {now : Instant} {start : ℕ}
    (h : c.Bounded) :
    (∀ other, c.Evicts (.insert key value now start) other →
        c.holds key = false ∧ c.capacity ≤ c.size) ↔
      c.RefreshesInPlace (.insert key value now start) := by
  by_cases hpos : c.capacity = 0
  · have hnone : ∀ k, c.holds k = false := by
      intro k
      unfold holds
      rw [find_of_capacity_zero h hpos]
      rfl
    constructor
    · intro _ hheld
      rw [hnone key] at hheld
      cases hheld
    · rintro - other ⟨-, hheld, -⟩
      rw [hnone other] at hheld
      cases hheld
  constructor
  · intro hroom hheld hfull
    obtain ⟨first, hfirst⟩ := exists_firstKey (by omega : 0 < c.size) start
    by_cases hkey : first = key
    · rw [hfirst, hkey]
    · obtain ⟨hnew, -⟩ := hroom first ((evicts_insert hpos).mpr ⟨hkey, hfull, hfirst⟩)
      rw [hheld] at hnew
      cases hnew
  · intro hplace other hevicts
    obtain ⟨hne, hfull, hfirst⟩ := (evicts_insert hpos).mp hevicts
    refine ⟨?_, hfull⟩
    by_contra hheld
    have hkey := hplace (by simpa using hheld) hfull
    rw [hfirst] at hkey
    exact hne (Option.some.inj hkey)

/-- What the callers count on in a run: the bound, that `get` returns the newest value inserted
for its key and no older than `ttl`, and that only a new key takes another's place. -/
structure Sound (ttl : Duration) (capacity : ℕ) (ops : List CacheOp) : Prop where
  bounded : ∀ before, before <+: ops → (after ttl capacity before).size ≤ capacity
  fresh : ∀ before key now rest value, ops = before ++ .get key now :: rest →
    (after ttl capacity before).get now key = some value →
    ∃ insertedAt, LastInsert key ⟨insertedAt, value⟩ before ∧ elapsed insertedAt now ≤ ttl.nanos
  evictsForRoom : ∀ before key value now start rest,
    ops = before ++ .insert key value now start :: rest →
    ∀ other, (after ttl capacity before).Evicts (.insert key value now start) other →
      (after ttl capacity before).holds key = false ∧ capacity ≤ (after ttl capacity before).size

/-- A run is sound exactly when no insertion of a held key into the full cache begins with another
key. The bound and the freshness hold in any case. -/
theorem sound_iff_refreshes_in_place (ttl : Duration) (capacity : ℕ) (ops : List CacheOp) :
    Sound ttl capacity ops ↔ Trace.Along step RefreshesInPlace (new ttl capacity) ops := by
  have hstep : ∀ before key value now start,
      (∀ other, (after ttl capacity before).Evicts (.insert key value now start) other →
        (after ttl capacity before).holds key = false ∧
          capacity ≤ (after ttl capacity before).size) ↔
        (after ttl capacity before).RefreshesInPlace (.insert key value now start) := by
    intro before key value now start
    have hbounded : (after ttl capacity before).Bounded := bounded_after
    rw [← evicts_for_room_iff hbounded, capacity_after]
  constructor
  · intro hsound
    apply Trace.along_of_split
    intro before op rest hops
    cases op with
    | get key now => exact trivial
    | insert key value now start =>
      have hroom := hsound.evictsForRoom before key value now start rest hops
      exact (hstep before key value now start).mp hroom
  · intro halong
    constructor
    case bounded =>
      intro before _
      have h : (after ttl capacity before).Bounded := bounded_after
      unfold Bounded at h
      rwa [capacity_after] at h
    case fresh =>
      intro before key now rest value _ hget
      exact lastInsert_of_get hget
    case evictsForRoom =>
      intro before key value now start rest hops
      subst hops
      exact (hstep before key value now start).mpr halong.at_split

/-- Two entries fill the cache, and refreshing the first takes out the second. -/
theorem refresh_evicts_another :
    ¬ Sound (Duration.ofSecs 300) 2
      [.insert "a" .null 0 0, .insert "b" .null 1 0, .insert "a" .null 2 1] := by
  intro h
  have hroom := h.evictsForRoom [.insert "a" .null 0 0, .insert "b" .null 1 0] "a" .null 2 1 [] rfl "b"
    (by unfold Evicts; decide +kernel)
  exact absurd hroom.1 (by decide +kernel)

end Runs

end TimedValueCache

end StarcoinMcp.Node
