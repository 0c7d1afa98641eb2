import Mathlib.Data.List.Nodup
import Mathlib.Data.List.Sort

/-! Keyed tables. A table is a list of rows, in insertion order, whose keys do not
repeat; the primary key is part of the type, so a lookup by key and membership
agree in every table that can be built. Writes keep the rows in place. -/

namespace StarcoinMcp

structure Table {α κ : Type} (key : α → κ) where
  rows : List α
  nodup : (rows.map key).Nodup

namespace Table

variable {α κ : Type} {key : α → κ}

def empty : Table key := ⟨[], List.nodup_nil⟩

theorem ext {t u : Table key} (h : t.rows = u.rows) : t = u := by
  cases t
  cases u
  cases h
  rfl

theorem eq_of_key_eq (t : Table key) {a b : α} (ha : a ∈ t.rows) (hb : b ∈ t.rows)
    (h : key a = key b) : a = b :=
  List.inj_on_of_nodup_map t.nodup ha hb h

variable [DecidableEq κ]

def find (t : Table key) (k : κ) : Option α := t.rows.find? (fun a => key a = k)

@[simp] theorem find_empty (k : κ) : (empty : Table key).find k = none := rfl

theorem mem_of_find {t : Table key} {k : κ} {a : α} (h : t.find k = some a) : a ∈ t.rows :=
  List.mem_of_find?_eq_some h

theorem key_of_find {t : Table key} {k : κ} {a : α} (h : t.find k = some a) : key a = k := by
  simpa using List.find?_some h

theorem find_of_mem {t : Table key} {a : α} (h : a ∈ t.rows) : t.find (key a) = some a := by
  cases hf : t.find (key a) with
  | none =>
    have hnone := List.find?_eq_none.mp hf a h
    simp at hnone
  | some b => rw [t.eq_of_key_eq (mem_of_find hf) h (key_of_find hf)]

theorem mem_iff_find {t : Table key} {a : α} : a ∈ t.rows ↔ t.find (key a) = some a :=
  ⟨find_of_mem, mem_of_find⟩

theorem filter_key_of_find {t : Table key} {k : κ} {a : α} (h : t.find k = some a) :
    t.rows.filter (fun b => key b = k) = [a] := by
  obtain ⟨before, after, hrows⟩ := List.append_of_mem (mem_of_find h)
  have hkey : key a = k := key_of_find h
  have hnodup := t.nodup
  rw [hrows, List.map_append, List.map_cons, List.nodup_middle, List.nodup_cons, List.mem_append,
    not_or] at hnodup
  have hother : ∀ l : List α, key a ∉ l.map key → l.filter (fun b => key b = k) = [] := by
    intro l hl
    rw [List.filter_eq_nil_iff]
    intro b hb hbk
    rw [decide_eq_true_eq] at hbk
    exact hl (hkey.trans hbk.symm ▸ List.mem_map_of_mem hb)
  rw [hrows, List.filter_append, hother before hnodup.1.1, List.filter_cons_of_pos (by simp [hkey]),
    hother after hnodup.1.2, List.nil_append]

theorem find_eq_none {t : Table key} {k : κ} : t.find k = none ↔ ∀ a ∈ t.rows, key a ≠ k := by
  simp [find, List.find?_eq_none]

/-! ## Writes -/

/-- `INSERT`: refused when the key is taken. -/
def insert (t : Table key) (a : α) : Option (Table key) :=
  if h : ∀ b ∈ t.rows, key b ≠ key a then
    some ⟨t.rows ++ [a], by
      rw [List.map_append, List.map_singleton]
      refine List.nodup_append.mpr ⟨t.nodup, List.nodup_singleton _, ?_⟩
      intro k hk k' hk'
      obtain ⟨b, hb, rfl⟩ := List.mem_map.mp hk
      rw [List.mem_singleton.mp hk']
      exact h b hb⟩
  else none

/-- `UPDATE … WHERE key`: the row with the key of `a`, if any, becomes `a`. -/
def update (t : Table key) (a : α) : Table key :=
  ⟨t.rows.map (fun b => if key b = key a then a else b), by
    have h : (t.rows.map (fun b => if key b = key a then a else b)).map key = t.rows.map key := by
      rw [List.map_map]
      apply List.map_congr_left
      intro b _
      by_cases hb : key b = key a <;> simp [hb]
    rw [h]
    exact t.nodup⟩

/-- `INSERT … ON CONFLICT DO UPDATE` of the whole row. -/
def upsert (t : Table key) (a : α) : Table key := (t.insert a).getD (t.update a)

def filter (t : Table key) (p : α → Bool) : Table key :=
  ⟨t.rows.filter p, (List.filter_sublist.map key).nodup t.nodup⟩

theorem insert_eq_some {t u : Table key} {a : α} (h : t.insert a = some u) :
    t.find (key a) = none ∧ u.rows = t.rows ++ [a] := by
  unfold insert at h
  split_ifs at h with hk
  cases h
  exact ⟨find_eq_none.mpr hk, rfl⟩

theorem insert_isSome {t : Table key} {a : α} : (t.insert a).isSome ↔ t.find (key a) = none := by
  unfold insert
  rw [find_eq_none]
  split_ifs with h
  · exact ⟨fun _ => h, fun _ => rfl⟩
  · exact ⟨fun hs => absurd hs Bool.false_ne_true, fun hn => absurd hn h⟩

theorem find_insert {t u : Table key} {a : α} (h : t.insert a = some u) (k : κ) :
    u.find k = if k = key a then some a else t.find k := by
  obtain ⟨hnone, hrows⟩ := insert_eq_some h
  unfold find
  rw [hrows, List.find?_append]
  by_cases hk : k = key a
  · subst hk
    have hn : t.rows.find? (fun b => key b = key a) = none := hnone
    simp [hn]
  · have hk' : key a ≠ k := fun e => hk e.symm
    simp [hk, hk']

theorem find_update (t : Table key) (a : α) (k : κ) :
    (t.update a).find k = if k = key a then (t.find k).map (fun _ => a) else t.find k := by
  unfold find update
  rw [List.find?_map]
  by_cases hk : k = key a
  · subst hk
    have hp : ((fun b => decide (key b = key a)) ∘ fun b => if key b = key a then a else b) =
        fun b => decide (key b = key a) := by
      funext b
      by_cases hb : key b = key a <;> simp [hb]
    rw [hp, if_pos rfl]
    cases hf : t.rows.find? (fun b => decide (key b = key a)) with
    | none => rfl
    | some b =>
      have hb : key b = key a := by simpa using List.find?_some hf
      simp [hb]
  · have hp : ((fun b => decide (key b = k)) ∘ fun b => if key b = key a then a else b) =
        fun b => decide (key b = k) := by
      funext b
      by_cases hb : key b = key a
      · have hk' : ¬ key a = k := fun e => hk e.symm
        simp [hb, hk']
      · simp [hb]
    rw [hp, if_neg hk]
    cases hf : t.rows.find? (fun b => decide (key b = k)) with
    | none => rfl
    | some b =>
      have hb : key b = k := by simpa using List.find?_some hf
      have hb' : key b ≠ key a := fun e => hk (hb.symm.trans e)
      simp [hb']

theorem find_upsert (t : Table key) (a : α) (k : κ) :
    (t.upsert a).find k = if k = key a then some a else t.find k := by
  unfold upsert
  cases hi : t.insert a with
  | some u => exact find_insert hi k
  | none =>
    have hsome : t.find (key a) ≠ none := fun hn => by
      have := insert_isSome.mpr hn
      rw [hi] at this
      exact Bool.false_ne_true this
    rw [Option.getD_none, find_update]
    by_cases hk : k = key a
    · subst hk
      obtain ⟨b, hb⟩ := Option.ne_none_iff_exists'.mp hsome
      simp [hb]
    · simp [hk]

/-- Writing a row that is already there changes nothing. -/
theorem upsert_of_find {t : Table key} {a : α} (h : t.find (key a) = some a) : t.upsert a = t := by
  have hnone : t.insert a = none := by
    cases hi : t.insert a with
    | none => rfl
    | some u =>
      rw [(insert_eq_some hi).1] at h
      cases h
  unfold upsert
  rw [hnone, Option.getD_none]
  refine ext ((List.map_congr_left fun b hb => ?_).trans (List.map_id _))
  by_cases hk : key b = key a
  · rw [if_pos hk]
    exact t.eq_of_key_eq (mem_of_find h) hb hk.symm
  · exact if_neg hk

theorem find_filter_eq_none {t : Table key} {p : α → Bool} {k : κ} :
    (t.filter p).find k = none ↔ ∀ a ∈ t.rows, p a = true → key a ≠ k := by
  rw [find_eq_none]
  unfold filter
  simp only [List.mem_filter, and_imp]

theorem find_filter {t : Table key} {p : α → Bool} {k : κ} (hp : ∀ a, key a = k → p a = true) :
    (t.filter p).find k = t.find k := by
  unfold find filter
  rw [List.find?_filter]
  refine congrArg (fun q => t.rows.find? q) (funext fun a => ?_)
  by_cases hk : key a = k
  · simp [hk, hp a hk]
  · simp [hk]

theorem length_upsert_le (t : Table key) (a : α) :
    (t.upsert a).rows.length ≤ t.rows.length + 1 := by
  unfold upsert
  cases hi : t.insert a with
  | some u =>
    have hrows := (insert_eq_some hi).2
    simp [hrows]
  | none => simp [update]

theorem mem_upsert {t : Table key} {a b : α} (h : b ∈ (t.upsert a).rows) : b = a ∨ b ∈ t.rows := by
  have hfind := find_of_mem h
  rw [find_upsert] at hfind
  by_cases hk : key b = key a
  · rw [if_pos hk] at hfind
    exact .inl (Option.some.inj hfind).symm
  · rw [if_neg hk] at hfind
    exact .inr (mem_of_find hfind)

/-- A second column stays duplicate-free under an update that avoids the other rows. -/
theorem update_nodup_map {β : Type} {f : α → β} (t : Table key) (a : α) (hf : (t.rows.map f).Nodup)
    (ha : ∀ b ∈ t.rows, key b ≠ key a → f b ≠ f a) : ((t.update a).rows.map f).Nodup := by
  have hboth := (List.pairwise_map.mp t.nodup).and (List.pairwise_map.mp hf)
  unfold update
  rw [List.map_map]
  refine List.pairwise_map.mpr (hboth.imp_of_mem ?_)
  rintro b c hb hc ⟨hkey, hval⟩
  by_cases hba : key b = key a
  · have hca : key c ≠ key a := fun e => hkey (hba.trans e.symm)
    simpa [hba, hca] using fun e => ha c hc hca e.symm
  · by_cases hca : key c = key a
    · simpa [hba, hca] using ha b hb hba
    · simpa [hba, hca] using hval

end Table

/-! ## Sorted answers -/

/-- A sorted list is known by the order it has within each key. -/
theorem eq_of_sorted_of_fibres {α : Type} {time : α → Int} : ∀ {l l' : List α},
    l.Pairwise (fun a b => time a ≤ time b) → l'.Pairwise (fun a b => time a ≤ time b) →
    (∀ t, l.filter (fun a => time a = t) = l'.filter (fun a => time a = t)) → l = l'
  | [], [], _, _, _ => rfl
  | [], b :: l', _, _, h => by
    have hb := h (time b)
    simp at hb
  | a :: l, [], _, _, h => by
    have ha := h (time a)
    simp at ha
  | a :: l, b :: l', hl, hl', h => by
    rw [List.pairwise_cons] at hl hl'
    -- each head occurs in the other list, so the two keys are the same
    have hmem : ∀ {x : α} {m m' : List α}, m.filter (fun y => time y = time x) =
        m'.filter (fun y => time y = time x) → x ∈ m → x ∈ m' := by
      intro x m m' he hx
      have : x ∈ m.filter (fun y => time y = time x) := List.mem_filter.mpr ⟨hx, by simp⟩
      rw [he] at this
      exact (List.mem_filter.mp this).1
    have hba : time b ≤ time a := by
      rcases List.mem_cons.mp (hmem (h (time a)) (List.mem_cons_self ..)) with he | ha
      · rw [he]
      · exact hl'.1 a ha
    have hab : time a ≤ time b := by
      rcases List.mem_cons.mp (hmem (h (time b)).symm (List.mem_cons_self ..)) with he | hb
      · rw [he]
      · exact hl.1 b hb
    have hkey : time b = time a := le_antisymm hba hab
    have hhead := h (time a)
    simp only [List.filter_cons, decide_true, hkey, if_true, List.cons.injEq] at hhead
    obtain rfl := hhead.1
    refine congrArg _ (eq_of_sorted_of_fibres hl.2 hl'.2 fun t => ?_)
    have ht := h t
    by_cases hat : time a = t
    · simpa [hat] using ht
    · simpa [hat] using ht

/-! ## Least elements -/

section MinByKey

variable {α : Type} {key : α → Int}

/-- The first of the elements with the least key. -/
def minByKey (key : α → Int) : List α → Option α
  | [] => none
  | a :: l =>
    match minByKey key l with
    | none => some a
    | some b => if key a ≤ key b then some a else some b

theorem minByKey_eq_none {l : List α} : minByKey key l = none ↔ l = [] := by
  cases l with
  | nil => simp [minByKey]
  | cons a l =>
    unfold minByKey
    split
    · simp
    · split_ifs <;> simp

theorem minByKey_spec : ∀ {l : List α} {a : α}, minByKey key l = some a → a ∈ l ∧ ∀ b ∈ l, key a ≤ key b
  | c :: l, a, h => by
    unfold minByKey at h
    split at h
    · next hnone =>
      obtain rfl := Option.some.inj h
      rw [minByKey_eq_none.mp hnone]
      simp
    · next b hb =>
      obtain ⟨hmem, hmin⟩ := minByKey_spec hb
      split_ifs at h with hle
      · obtain rfl := Option.some.inj h
        refine ⟨List.mem_cons_self .., fun d hd => ?_⟩
        rcases List.mem_cons.mp hd with rfl | hd
        · exact le_refl _
        · exact hle.trans (hmin d hd)
      · obtain rfl := Option.some.inj h
        refine ⟨List.mem_cons_of_mem _ hmem, fun d hd => ?_⟩
        rcases List.mem_cons.mp hd with rfl | hd
        · exact (not_le.mp hle).le
        · exact hmin d hd

/-- A least element is the only candidate when the keys are distinct. -/
theorem minByKey_of_least {l : List α} {a : α} (ha : a ∈ l) (h : ∀ b ∈ l, b ≠ a → key a < key b) :
    minByKey key l = some a := by
  cases hmin : minByKey key l with
  | none =>
    rw [minByKey_eq_none.mp hmin] at ha
    cases ha
  | some b =>
    obtain ⟨hb, hle⟩ := minByKey_spec hmin
    by_contra hne
    have hlt := h b hb fun he => hne (congrArg some he)
    exact absurd (hle a ha) (not_le.mpr hlt)

end MinByKey

/-- A rearrangement of mapped elements is the map of a rearrangement. -/
theorem exists_perm_of_perm_map {α β : Type} [DecidableEq α] {f : α → β} :
    ∀ {l' : List β} {l : List α}, l'.Perm (l.map f) → ∃ l'' : List α, l''.Perm l ∧ l' = l''.map f
  | [], l, h => by
    have hl : l = [] := List.map_eq_nil_iff.mp (List.nil_perm.mp h)
    exact ⟨[], hl ▸ .refl _, rfl⟩
  | b :: l', l, h => by
    obtain ⟨a, ha, rfl⟩ := List.mem_map.mp (h.mem_iff.mp (List.mem_cons_self ..))
    have hrest : l'.Perm ((l.erase a).map f) :=
      List.Perm.cons_inv (h.trans ((List.perm_cons_erase ha).map f))
    obtain ⟨l'', hperm, rfl⟩ := exists_perm_of_perm_map hrest
    exact ⟨a :: l'', (hperm.cons a).trans (List.perm_cons_erase ha).symm, rfl⟩

end StarcoinMcp
