import StarcoinMcp.Lib.Hex

/-! Values of a Python program that were read from JSON, or are to be written as JSON.
A dictionary is the list of its items, in its order. What needs the tables of the
interpreter (case, digits of other scripts, `repr`, the digest) is a parameter. -/

namespace StarcoinMcp

inductive Py
  | none
  | bool (b : Bool)
  | int (n : Int)
  | float (repr : String)
  | str (s : String)
  | list (items : List Py)
  | dict (items : List (String × Py))

instance : Inhabited Py := ⟨.none⟩

/-- What the interpreter and its library supply. -/
structure Interpreter where
  sha256 : List UInt8 → String
  repr : Py → String
  lower : String → String
  isDigit : Char → Bool
  decimal : Char → Option Nat
  /-- `sys.get_int_max_str_digits()`: how many digits `int` and `str` convert, 0 for any number. -/
  maxStrDigits : Nat

inductive Exc
  | runtimeError (message : String)
  | valueError (message : String)
  | keyError (key : String)
  | attributeError (name : String)
  | typeError (message : String)
  | osError (message : String)
deriving DecidableEq, Repr

/-! ## Text -/

namespace Py

/-- `str.isspace`: the Unicode white space, and the four separators of ASCII. -/
def isSpace (c : Char) : Bool := Text.isWhitespace c || (0x1c ≤ c.toNat && c.toNat ≤ 0x1f)

def strip (s : String) : String :=
  String.ofList ((s.toList.dropWhile isSpace).reverse.dropWhile isSpace).reverse

/-- `not s.strip()`. -/
def isBlank (s : String) : Bool := (strip s).isEmpty

def isAsciiSpace (c : Char) : Bool := c == ' ' || (0x9 ≤ c.toNat && c.toNat ≤ 0xd)

def hexDigit (c : Char) : Option UInt8 :=
  if c.toNat < 128 then Hex.nibble c.toNat.toUInt8 else Option.none

/-- `bytes.fromhex`: white space may stand between two bytes, not inside one. -/
def fromHex : List Char → Option (List UInt8)
  | [] => some []
  | [c] => if isAsciiSpace c then some [] else Option.none
  | c :: c' :: rest =>
    if isAsciiSpace c then fromHex (c' :: rest)
    else do
      let high ← hexDigit c
      let low ← hexDigit c'
      let bytes ← fromHex rest
      some ((high <<< 4 ||| low) :: bytes)

/-! ## Values -/

/-- `bool(v)`. -/
def truthy : Py → Bool
  | none => false
  | bool b => b
  | int n => n ≠ 0
  | float repr => repr ≠ "0.0" && repr ≠ "-0.0"
  | str s => !s.isEmpty
  | list items => !items.isEmpty
  | dict items => !items.isEmpty

/-- `v or w`. -/
def orElse (v w : Py) : Py := if v.truthy then v else w

def isNone : Py → Bool
  | none => true
  | _ => false

/-- `v == s` for a text `s`. -/
def isStr (s : String) : Py → Bool
  | str t => t = s
  | _ => false

/-- `str(v)`. -/
def toStr (py : Interpreter) : Py → String
  | none => "None"
  | bool true => "True"
  | bool false => "False"
  | int n => toString n
  | float repr => repr
  | str s => s
  | v => py.repr v

/-! ## Dictionaries -/

def lookup (key : String) (items : List (String × Py)) : Option Py :=
  (items.find? fun item => item.1 = key).map Prod.snd

/-- `d.get(key)`. -/
def get (items : List (String × Py)) (key : String) : Py := (lookup key items).getD none

/-- `d[key]`. -/
def item (items : List (String × Py)) (key : String) : Except Exc Py :=
  match lookup key items with
  | some v => .ok v
  | Option.none => .error (.keyError key)

/-- `d[key] = v`: a key that is there keeps its place. -/
def setItem (key : String) (v : Py) : List (String × Py) → List (String × Py)
  | [] => [(key, v)]
  | e :: items => if e.1 = key then (key, v) :: items else e :: setItem key v items

/-- `d.pop(key, None)`. -/
def pop (key : String) (items : List (String × Py)) : List (String × Py) :=
  items.filter fun e => e.1 ≠ key

/-- `v.get(key)` for a value that may be anything. -/
def callGet (v : Py) (key : String) : Except Exc Py :=
  match v with
  | dict items => .ok (get items key)
  | _ => .error (.attributeError "get")

/-- `v[key]` for a value that may be anything. -/
def subscript (v : Py) (key : String) : Except Exc Py :=
  match v with
  | dict items => item items key
  | _ => .error (.typeError "indices must be integers")

/-! ## Sorting -/

section Sorting

variable {α : Type} (key : α → String)

def insertBy (a : α) : List α → List α
  | [] => [a]
  | b :: l => if key a ≤ key b then a :: b :: l else b :: insertBy a l

/-- `sorted(l, key=key)`: items with one key keep their order. -/
def sortBy (l : List α) : List α := l.foldr (insertBy key) []

theorem insertBy_perm (a : α) (l : List α) : (insertBy key a l).Perm (a :: l) := by
  induction l with
  | nil => exact List.Perm.refl _
  | cons b l ih =>
    unfold insertBy
    split
    · exact List.Perm.refl _
    · exact (ih.cons b).trans (List.Perm.swap a b l)

theorem sortBy_perm (l : List α) : (sortBy key l).Perm l := by
  induction l with
  | nil => exact List.Perm.refl _
  | cons a l ih => exact (insertBy_perm key a _).trans (ih.cons a)

theorem mem_sortBy {x : α} {l : List α} : x ∈ sortBy key l ↔ x ∈ l := (sortBy_perm key l).mem_iff

theorem pairwise_insertBy (a : α) {l : List α} (h : l.Pairwise fun b c => key b ≤ key c) :
    (insertBy key a l).Pairwise fun b c => key b ≤ key c := by
  induction l with
  | nil => exact List.pairwise_singleton _ a
  | cons b l ih =>
    obtain ⟨hb, hl⟩ := List.pairwise_cons.mp h
    unfold insertBy
    split
    next hab =>
      refine List.pairwise_cons.mpr ⟨fun c hc => ?_, h⟩
      rcases List.mem_cons.mp hc with rfl | hc
      · exact hab
      · exact String.le_trans hab (hb c hc)
    next hab =>
      refine List.pairwise_cons.mpr ⟨fun c hc => ?_, ih hl⟩
      rcases List.mem_cons.mp ((insertBy_perm key a l).mem_iff.mp hc) with rfl | hc
      · exact (String.le_total (key b) (key c)).resolve_right hab
      · exact hb c hc

theorem pairwise_sortBy (l : List α) : (sortBy key l).Pairwise fun a b => key a ≤ key b := by
  induction l with
  | nil => exact List.Pairwise.nil
  | cons a l ih => exact pairwise_insertBy key a ih

variable {key}

/-- All but the first `k` of a sorted list are no less than any of those. -/
theorem length_lt_of_mem_take {l : List α} (hl : l.Pairwise fun a b => key a ≤ key b)
    {a : α} {k : ℕ} (ha : a ∈ l.take k) : l.length < k + l.countP fun b => key a ≤ key b := by
  obtain ⟨i, hi, rfl⟩ := List.mem_take_iff_getElem.mp ha
  have hlt : i < l.length := by omega
  have hrest : (l.drop i).countP (fun b => key l[i] ≤ key b) = (l.drop i).length := by
    refine List.countP_eq_length.mpr fun b hb => ?_
    rw [decide_eq_true_eq]
    rw [List.drop_eq_getElem_cons hlt] at hb
    rcases List.mem_cons.mp hb with rfl | hb
    · exact String.le_refl _
    · have hsuffix := hl.sublist (List.drop_sublist i l)
      rw [List.drop_eq_getElem_cons hlt] at hsuffix
      exact (List.pairwise_cons.mp hsuffix).1 b hb
  have hcount : (l.drop i).countP (fun b => key l[i] ≤ key b) ≤
      l.countP fun b => key l[i] ≤ key b :=
    (List.drop_sublist i l).countP_le
  rw [hrest, List.length_drop] at hcount
  omega

/-- What has at least `n` greater ones is not among the last `n`. -/
theorem mem_take_of_le_countP {l : List α} (hl : l.Pairwise fun a b => key a ≤ key b)
    {a : α} {n : ℕ} (ha : a ∈ l) (hn : n ≤ l.countP fun b => ¬ key b ≤ key a) : a ∈ l.take (l.length - n) := by
  obtain ⟨i, hi, rfl⟩ := List.mem_iff_getElem.mp ha
  have hfirst : (l.take (i + 1)).countP (fun b => ¬ key b ≤ key l[i]) = 0 := by
    refine List.countP_eq_zero.mpr fun b hb => ?_
    rw [decide_eq_true_eq, not_not]
    obtain ⟨j, hj, rfl⟩ := List.mem_take_iff_getElem.mp hb
    have hle : j ≤ i := Nat.le_of_lt_succ (lt_of_lt_of_le hj (Nat.min_le_left _ _))
    rcases Nat.lt_or_eq_of_le hle with hlt | rfl
    · exact List.pairwise_iff_getElem.mp hl j i _ hi hlt
    · exact String.le_refl _
  have hsplit : l.countP (fun b => ¬ key b ≤ key l[i]) =
      (l.take (i + 1)).countP (fun b => ¬ key b ≤ key l[i]) +
        (l.drop (i + 1)).countP fun b => ¬ key b ≤ key l[i] := by
    rw [← List.countP_append, List.take_append_drop]
  have hcount : (l.drop (i + 1)).countP (fun b => ¬ key b ≤ key l[i]) ≤ (l.drop (i + 1)).length :=
    List.countP_le_length
  rw [List.length_drop] at hcount
  exact List.mem_take_iff_getElem.mpr ⟨i, by omega, rfl⟩

end Sorting

mutual

/-- What is read back from `json.dumps(v, sort_keys=True)`. -/
def dumped : Py → Py
  | list items => list (dumpedList items)
  | dict items => dict (sortBy Prod.fst (dumpedItems items))
  | v => v

def dumpedList : List Py → List Py
  | [] => []
  | v :: l => dumped v :: dumpedList l

def dumpedItems : List (String × Py) → List (String × Py)
  | [] => []
  | (key, v) :: items => (key, dumped v) :: dumpedItems items

end

theorem isStr_iff {v : Py} {s : String} : v.isStr s = true ↔ v = str s := by
  cases v <;> simp [isStr]

/-! ## Looking up what was written -/

theorem lookup_cons (key : String) (e : String × Py) (items : List (String × Py)) :
    lookup key (e :: items) = if e.1 = key then some e.2 else lookup key items := by
  unfold lookup
  rw [List.find?_cons]
  by_cases h : e.1 = key <;> simp [h]

theorem get_of_item {items : List (String × Py)} {key : String} {v : Py}
    (h : item items key = .ok v) : get items key = v := by
  unfold item at h
  unfold get
  cases hlookup : lookup key items with
  | none =>
    rw [hlookup] at h
    cases h
  | some w =>
    rw [hlookup] at h
    exact Except.ok.inj h

theorem lookup_setItem (key : String) (v : Py) (key' : String) (items : List (String × Py)) :
    lookup key' (setItem key v items) = if key = key' then some v else lookup key' items := by
  induction items with
  | nil => exact lookup_cons key' (key, v) []
  | cons e items ih =>
    unfold setItem
    by_cases he : e.1 = key
    · rw [if_pos he, lookup_cons, lookup_cons, he]
      by_cases h : key = key' <;> simp [h]
    · rw [if_neg he, lookup_cons, lookup_cons, ih]
      by_cases h : e.1 = key'
      · have hne : key ≠ key' := fun hk => he (h.trans hk.symm)
        simp [h, hne]
      · simp [h]

theorem mem_setItem {key : String} {v : Py} {items : List (String × Py)} {e : String × Py}
    (h : e ∈ setItem key v items) : e = (key, v) ∨ e ∈ items := by
  induction items with
  | nil => exact .inl (List.mem_singleton.mp h)
  | cons e' items ih =>
    unfold setItem at h
    split_ifs at h with hkey
    · rcases List.mem_cons.mp h with rfl | hrest
      · exact .inl rfl
      · exact .inr (List.mem_cons_of_mem e' hrest)
    · rcases List.mem_cons.mp h with rfl | hrest
      · exact .inr (List.mem_cons_self ..)
      · exact (ih hrest).imp_right (List.mem_cons_of_mem e')

theorem lookup_pop (key key' : String) (items : List (String × Py)) :
    lookup key' (pop key items) = if key = key' then Option.none else lookup key' items := by
  induction items with
  | nil => simp [pop, lookup]
  | cons e items ih =>
    unfold pop at ih ⊢
    by_cases he : e.1 = key
    · rw [List.filter_cons_of_neg (by simp [he]), ih, lookup_cons, he]
      by_cases h : key = key' <;> simp [h]
    · rw [List.filter_cons_of_pos (by simp [he]), lookup_cons, lookup_cons, ih]
      by_cases h : e.1 = key'
      · have hne : key ≠ key' := fun hk => he (h.trans hk.symm)
        simp [h, hne]
      · simp [h]

theorem lookup_insertBy (key : String) (e : String × Py) (items : List (String × Py)) :
    lookup key (insertBy Prod.fst e items) = if e.1 = key then some e.2 else lookup key items := by
  induction items with
  | nil => exact lookup_cons key e []
  | cons e' items ih =>
    unfold insertBy
    by_cases hle : e.1 ≤ e'.1
    · rw [if_pos hle, lookup_cons]
    · -- the two keys differ, so it does not matter which item stands first
      have hne : e.1 ≠ e'.1 := fun h => hle (h ▸ String.le_refl e.1)
      rw [if_neg hle, lookup_cons, lookup_cons, ih]
      by_cases h : e'.1 = key
      · have hne' : e.1 ≠ key := fun hk => hne (hk.trans h.symm)
        simp [h, hne']
      · simp [h]

theorem lookup_sortBy (key : String) (items : List (String × Py)) :
    lookup key (sortBy Prod.fst items) = lookup key items := by
  induction items with
  | nil => rfl
  | cons e items ih =>
    show lookup key (insertBy Prod.fst e (sortBy Prod.fst items)) = _
    rw [lookup_insertBy, lookup_cons, ih]

theorem lookup_dumpedItems (key : String) (items : List (String × Py)) :
    lookup key (dumpedItems items) = (lookup key items).map dumped := by
  induction items with
  | nil => simp [dumpedItems, lookup]
  | cons e items ih =>
    obtain ⟨key', v⟩ := e
    rw [dumpedItems, lookup_cons, lookup_cons, ih]
    by_cases h : key' = key <;> simp [h]

/-- Sorting the keys changes no lookup. -/
theorem mem_dumpedItems {items : List (String × Py)} {e : String × Py} (h : e ∈ dumpedItems items) :
    ∃ e' ∈ items, e = (e'.1, dumped e'.2) := by
  induction items with
  | nil => cases h
  | cons e' items ih =>
    rcases List.mem_cons.mp h with rfl | hrest
    · exact ⟨e', List.mem_cons_self .., rfl⟩
    · obtain ⟨e'', hmem, he⟩ := ih hrest
      exact ⟨e'', List.mem_cons_of_mem e' hmem, he⟩

theorem lookup_dumped (key : String) (items : List (String × Py)) :
    lookup key (sortBy Prod.fst (dumpedItems items)) = (lookup key items).map dumped := by
  rw [lookup_sortBy, lookup_dumpedItems]

theorem dumped_dict (items : List (String × Py)) :
    dumped (dict items) = dict (sortBy Prod.fst (dumpedItems items)) := by
  rw [dumped]

end Py

end StarcoinMcp
