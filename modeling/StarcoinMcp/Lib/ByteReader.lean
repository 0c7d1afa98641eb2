import Mathlib.Data.List.Basic
import Mathlib.Order.Basic
import Mathlib.Algebra.Order.Group.Nat

/-! A stream that is read in pieces, as `std::io::Read` gives it out. A read returns as much
as it likes, at least one byte where there is one, or fails. What it likes is its script,
one turn for each read; past its end a read returns all it was asked for. -/

namespace StarcoinMcp

inductive IoErrorKind
  | unexpectedEof | interrupted | other
deriving DecidableEq, Repr

/-- One read: at most so many bytes more than one, or an error. -/
inductive Turn
  | give (extra : Nat)
  | fail (kind : IoErrorKind)
deriving DecidableEq, Repr

structure Reader where
  remaining : List UInt8
  script : List Turn
deriving DecidableEq, Repr

namespace Reader

def read (r : Reader) (requested : Nat) : Except IoErrorKind (List UInt8) × Reader :=
  match r.script with
  | [] => (.ok (r.remaining.take requested), ⟨r.remaining.drop requested, []⟩)
  | .give extra :: script =>
    (.ok (r.remaining.take (min (extra + 1) requested)),
      ⟨r.remaining.drop (min (extra + 1) requested), script⟩)
  | .fail kind :: script => (.error kind, ⟨r.remaining, script⟩)

theorem read_ok {r r' : Reader} {requested : Nat} {bytes : List UInt8}
    (h : r.read requested = (.ok bytes, r')) :
    r.remaining = bytes ++ r'.remaining ∧ bytes.length ≤ requested ∧
      (bytes = [] → requested = 0 ∨ r.remaining = []) ∧ r'.script.length ≤ r.script.length ∧
      ∀ t ∈ r'.script, t ∈ r.script := by
  obtain ⟨remaining, script⟩ := r
  cases script with
  | nil =>
    cases h
    refine ⟨(List.take_append_drop _ _).symm, List.length_take_le .., fun hnil => ?_, le_rfl, ?_⟩
    · rcases List.take_eq_nil_iff.mp hnil with h | h
      · exact .inl h
      · exact .inr h
    · exact fun t ht => ht
  | cons turn script =>
    cases turn with
    | fail kind => cases h
    | give extra =>
      cases h
      refine ⟨(List.take_append_drop _ _).symm, (List.length_take_le ..).trans (min_le_right _ _),
        fun hnil => ?_, Nat.le_succ _, fun t ht => List.mem_cons_of_mem _ ht⟩
      rcases List.take_eq_nil_iff.mp hnil with h | h
      · exact .inl (by omega)
      · exact .inr h

theorem read_error {r r' : Reader} {requested : Nat} {kind : IoErrorKind}
    (h : r.read requested = (.error kind, r')) :
    r'.script.length < r.script.length ∧ .fail kind ∈ r.script := by
  obtain ⟨remaining, script⟩ := r
  cases script with
  | nil => cases h
  | cons turn script =>
    cases turn with
    | give extra => cases h
    | fail kind' =>
      cases h
      exact ⟨Nat.lt_succ_self _, List.mem_cons_self ..⟩

/-- `Read::read_exact`: it reads on after an interruption, and an early end is an error. -/
def readExact (r : Reader) (need : Nat) : Except IoErrorKind (List UInt8) × Reader :=
  if need = 0 then (.ok [], r)
  else
    match _h : r.read need with
    | (.ok [], r') => (.error .unexpectedEof, r')
    | (.ok (b :: bytes), r') =>
      match r'.readExact (need - (b :: bytes).length) with
      | (.ok rest, r'') => (.ok (b :: bytes ++ rest), r'')
      | (.error kind, r'') => (.error kind, r'')
    | (.error .interrupted, r') => r'.readExact need
    | (.error kind, r') => (.error kind, r')
termination_by need + r.script.length
decreasing_by
  · have hlen := (read_ok _h).2.2.2.1
    simp only [List.length_cons]
    omega
  · have hlen := (read_error _h).1
    omega

section Equations

variable {r r' : Reader} {need : Nat}

theorem readExact_zero (r : Reader) : r.readExact 0 = (.ok [], r) := by
  rw [readExact, if_pos rfl]

theorem readExact_of_read_nil (hneed : need ≠ 0) (h : r.read need = (.ok [], r')) :
    r.readExact need = (.error .unexpectedEof, r') := by
  rw [readExact, if_neg hneed]
  split <;> simp_all

theorem readExact_of_read_cons {b : UInt8} {bytes : List UInt8} (hneed : need ≠ 0)
    (h : r.read need = (.ok (b :: bytes), r')) :
    r.readExact need = match r'.readExact (need - (b :: bytes).length) with
      | (.ok rest, r'') => (.ok (b :: bytes ++ rest), r'')
      | (.error kind, r'') => (.error kind, r'') := by
  rw [readExact, if_neg hneed]
  split <;> simp_all

end Equations

/-- The reader never fails: it only returns less than it was asked for. -/
def Gives (r : Reader) : Prop := ∀ t ∈ r.script, ∃ extra, t = .give extra

theorem Gives.read {r : Reader} (hr : r.Gives) (requested : Nat) :
    ∃ bytes r', r.read requested = (.ok bytes, r') ∧ r'.Gives := by
  cases h : r.read requested with
  | mk result r' =>
    cases result with
    | ok bytes => exact ⟨bytes, r', rfl, fun t ht => hr t ((read_ok h).2.2.2.2 t ht)⟩
    | error kind =>
      obtain ⟨extra, hextra⟩ := hr _ (read_error h).2
      cases hextra

/-- A read of a reader that has something returns a first piece of it. -/
theorem Gives.read_piece {r : Reader} (hr : r.Gives) {need : Nat} (hneed : need ≠ 0)
    (hremaining : r.remaining ≠ []) :
    ∃ b bytes r', r.read need = (.ok (b :: bytes), r') ∧ r.remaining = b :: bytes ++ r'.remaining ∧
      (b :: bytes).length ≤ need ∧ r'.Gives := by
  obtain ⟨bytes, r', hread, hr'⟩ := hr.read need
  obtain ⟨hsplit, hle, hnil, -, -⟩ := read_ok hread
  cases bytes with
  | nil =>
    rcases hnil rfl with h | h
    · exact absurd h hneed
    · exact absurd h hremaining
  | cons b bytes => exact ⟨b, bytes, r', hread, hsplit, hle, hr'⟩

theorem Gives.read_nil {r : Reader} (hr : r.Gives) {need : Nat} (hremaining : r.remaining = []) :
    ∃ r', r.read need = (.ok [], r') := by
  obtain ⟨bytes, r', hread, -⟩ := hr.read need
  obtain ⟨hsplit, -⟩ := read_ok hread
  rw [hremaining] at hsplit
  obtain ⟨rfl, -⟩ := List.append_eq_nil_iff.mp hsplit.symm
  exact ⟨r', hread⟩

/-- In whatever pieces they come, the bytes asked for are those that stand first. -/
theorem Gives.readExact_of_append {need : Nat} :
    ∀ {r : Reader} {front back : List UInt8}, r.Gives → r.remaining = front ++ back →
      front.length = need → ∃ r', r.readExact need = (.ok front, r') ∧ r'.remaining = back ∧ r'.Gives := by
  induction need using Nat.strong_induction_on with
  | _ need ih =>
    intro r front back hr hremaining hlength
    by_cases hneed : need = 0
    · obtain rfl : front = [] := List.length_eq_zero_iff.mp (hlength.trans hneed)
      rw [hneed]
      exact ⟨r, readExact_zero r, hremaining, hr⟩
    · have hne : r.remaining ≠ [] := by
        intro hnil
        rw [hremaining] at hnil
        simp_all
      obtain ⟨b, bytes, r', hread, hsplit, hle, hr'⟩ := hr.read_piece hneed hne
      -- the piece is a first part of `front`
      obtain ⟨tail, htail⟩ : (b :: bytes) <+: front := by
        refine List.prefix_of_prefix_length_le ⟨_, (hremaining.symm.trans hsplit).symm⟩
          (List.prefix_append front back) ?_
        rw [hlength]
        exact hle
      have hlen : (b :: bytes).length + tail.length = need := by
        rw [← List.length_append, htail, hlength]
      have hrest : r'.remaining = tail ++ back := by
        rw [hremaining, ← htail, List.append_assoc] at hsplit
        exact (List.append_cancel_left hsplit).symm
      have hless : need - (b :: bytes).length < need := by
        simp only [List.length_cons]
        omega
      obtain ⟨r'', hexact, hback, hr''⟩ := ih _ hless hr' hrest (by omega)
      refine ⟨r'', ?_, hback, hr''⟩
      rw [readExact_of_read_cons hneed hread, hexact, ← htail]

/-- Too few bytes are an error, in whatever pieces they come. -/
theorem Gives.readExact_of_short {need : Nat} :
    ∀ {r : Reader}, r.Gives → r.remaining.length < need →
      ∃ r', r.readExact need = (.error .unexpectedEof, r') := by
  induction need using Nat.strong_induction_on with
  | _ need ih =>
    intro r hr hshort
    have hneed : need ≠ 0 := by omega
    by_cases hremaining : r.remaining = []
    · obtain ⟨r', hread⟩ := hr.read_nil hremaining
      exact ⟨r', readExact_of_read_nil hneed hread⟩
    · obtain ⟨b, bytes, r', hread, hsplit, hle, hr'⟩ := hr.read_piece hneed hremaining
      have hlen : r.remaining.length = (b :: bytes).length + r'.remaining.length := by
        rw [hsplit, List.length_append]
      have hpos : 0 < (b :: bytes).length := Nat.succ_pos _
      obtain ⟨r'', hexact⟩ := ih (need - (b :: bytes).length) (by omega) hr' (by omega)
      refine ⟨r'', ?_⟩
      rw [readExact_of_read_cons hneed hread, hexact]

end Reader

end StarcoinMcp
