import Mathlib.Tactic.Common
import StarcoinMcp.Host.Effects

/-! The balance the preflight compares an amount with (`transfer_host.py`). The node lists
the balance resources of an account by their Move type; the preflight takes the first one
whose name contains the code of the token. -/

namespace StarcoinMcp.Host.Preflight

open Py (get)

/-! ## Values of a response -/

def coerceInt (py : Interpreter) : Py → Except Exc (Option Int)
  | .int n => .ok (some n)
  | .str s =>
    let normalized := Py.strip s
    if !normalized.isEmpty && normalized.toList.all py.isDigit then do
      let n ← intOfDigits py normalized.toList
      pure (some n)
    else .ok none
  | _ => .ok none

/-- The value at the end of a path of keys; `None` where there is none. -/
def nested : Py → List String → Py
  | value, [] => value
  | .dict items, key :: path => nested (get items key) path
  | _, _ :: _ => .none

def extractNestedInt (py : Interpreter) (value : Py) : List (List String) → Except Exc (Option Int)
  | [] => .ok none
  | path :: paths => do
    match ← coerceInt py (nested value path) with
    | some n => pure (some n)
    | none => extractNestedInt py value paths

def extractNestedStr (value : Py) (paths : List (List String)) : Option String :=
  paths.findSome? fun path =>
    match nested value path with
    | .str s => if Py.isBlank s then none else some (Py.strip s)
    | _ => none

/-! ## Token codes -/

def isHexDigit (c : Char) : Bool :=
  c.isDigit || ('a' ≤ c && c ≤ 'f') || ('A' ≤ c && c ≤ 'F')

/-- The digits of a match of `HEX_ADDRESS_RE` at the start of the text. -/
def addressAt : List Char → Option (List Char)
  | '0' :: 'x' :: cs =>
    let digits := cs.takeWhile isHexDigit
    if digits.isEmpty then none else some digits
  | _ => none

def normalizeHexAddress (digits : List Char) : List Char :=
  let significant := digits.dropWhile (· == '0')
  '0' :: 'x' :: (if significant.isEmpty then ['0'] else significant).map Char.toLower

/-- `HEX_ADDRESS_RE.sub(normalize_hex_address, text)`, with so many characters of a match to skip. -/
def substituteAddresses : ℕ → List Char → List Char
  | _, [] => []
  | n + 1, _ :: cs => substituteAddresses n cs
  | 0, c :: cs =>
    match addressAt (c :: cs) with
    | some digits => normalizeHexAddress digits ++ substituteAddresses (digits.length + 1) cs
    | none => c :: substituteAddresses 0 cs

def normalizeTokenCode (tokenCode : String) : String :=
  String.ofList (substituteAddresses 0 (Py.strip tokenCode).toList)

/-- The form in which two codes are compared. -/
def comparable (py : Interpreter) (tokenCode : String) : String := py.lower (normalizeTokenCode tokenCode)

def canonicalStcCodes (py : Interpreter) : List String :=
  [py.lower canonicalStcTokenCode, py.lower vm1StcTokenCode]

/-! ## Balances -/

/-- The name of an entry in that form. -/
def entryName (py : Interpreter) (items : List (String × Py)) : String :=
  comparable py ((get items "name").orElse (.str "") |>.toStr py)

/-- An entry of a fungible store that carries no label of another token. -/
def isStcStore (py : Interpreter) (items : List (String × Py)) : Bool :=
  let tokenLabel := extractNestedStr (.dict items) [["value", "json", "token"], ["json", "token"]]
  Text.contains (entryName py items) "fungible_asset::fungiblestore" &&
    ["", "stc"].contains (py.lower (Py.strip (tokenLabel.getD "")))

def balanceEntryMatchesToken (py : Interpreter) (entry : Py) (tokenCode : String) : Bool :=
  match entry with
  | .dict items =>
    let normalizedToken := comparable py tokenCode
    (!normalizedToken.isEmpty && Text.contains (entryName py items) normalizedToken) ||
      ((canonicalStcCodes py).contains normalizedToken && isStcStore py items)
  | _ => false

def extractBalanceAmount (py : Interpreter) (entry : Py) : Except Exc (Option Int) :=
  extractNestedInt py entry [["value", "json", "balance"], ["value", "json", "coin", "value"],
    ["json", "balance"], ["json", "coin", "value"]]

def findBalanceForToken (py : Interpreter) (tokenCode : String) : List Py → Except Exc (Option Int)
  | [] => .ok none
  | balance :: balances =>
    if balanceEntryMatchesToken py balance tokenCode then do
      match ← extractBalanceAmount py balance with
      | some amount => pure (some amount)
      | none => findBalanceForToken py tokenCode balances
    else findBalanceForToken py tokenCode balances

/-! ## Which entry supplies the balance -/

/-- The search ends at this entry, with an amount or with an exception. -/
def endsSearch (py : Interpreter) (tokenCode : String) (entry : Py) : Bool :=
  balanceEntryMatchesToken py entry tokenCode &&
    match extractBalanceAmount py entry with
    | .ok none => false
    | _ => true

theorem findBalanceForToken_eq (py : Interpreter) (tokenCode : String) (balances : List Py) :
    findBalanceForToken py tokenCode balances =
      match balances.find? (endsSearch py tokenCode) with
      | some entry => extractBalanceAmount py entry
      | none => .ok none := by
  induction balances with
  | nil => rfl
  | cons balance balances ih =>
    unfold findBalanceForToken
    rw [List.find?_cons, ih]
    unfold endsSearch
    cases hmatch : balanceEntryMatchesToken py balance tokenCode with
    | false => rfl
    | true =>
      cases hamount : extractBalanceAmount py balance with
      | error e =>
        simp [hamount]
        rfl
      | ok amount =>
        cases amount with
        | none => rfl
        | some n =>
          simp [hamount]
          rfl

/-- The amount is the one that this entry carries, and the search ended there. -/
def Supplies (py : Interpreter) (tokenCode : String) (balances : List Py) (entry : Py) (n : Int) : Prop :=
  balances.find? (endsSearch py tokenCode) = some entry ∧ extractBalanceAmount py entry = .ok (some n)

theorem findBalanceForToken_eq_some {py : Interpreter} {tokenCode : String} {balances : List Py}
    {n : Int} : findBalanceForToken py tokenCode balances = .ok (some n) ↔
      ∃ entry, Supplies py tokenCode balances entry n := by
  rw [findBalanceForToken_eq]
  unfold Supplies
  cases balances.find? (endsSearch py tokenCode) with
  | none => simp
  | some entry => simp

/-! ## Which token an entry holds -/

/-- A type name can end, or begin, at such a place of a longer one. -/
def opensType (before : List Char) : Bool :=
  match before.getLast? with
  | none => true
  | some c => ['<', ',', ' '].contains c

def closesType (after : List Char) : Bool :=
  match after.head? with
  | none => true
  | some c => ['>', ',', ' '].contains c

/-- The name mentions the code as a complete type. -/
def MentionsType (name code : String) : Prop :=
  ∃ before after, name.toList = before ++ code.toList ++ after ∧ code ≠ "" ∧
    opensType before = true ∧ closesType after = true

/-- It is enough to look at every place of the name. -/
theorem mentionsType_iff {name code : String} : MentionsType name code ↔
    code ≠ "" ∧ ∃ k ∈ List.range (name.toList.length + 1),
      name.toList = name.toList.take k ++ code.toList ++ name.toList.drop (k + code.toList.length) ∧
      opensType (name.toList.take k) = true ∧
      closesType (name.toList.drop (k + code.toList.length)) = true := by
  constructor
  · rintro ⟨before, after, hname, hcode, hopens, hcloses⟩
    have htake : name.toList.take before.length = before := by
      rw [hname, List.append_assoc, List.take_left]
    have hdrop : name.toList.drop (before.length + code.toList.length) = after := by
      rw [hname, ← List.length_append, List.drop_left]
    refine ⟨hcode, before.length, ?_, ?_⟩
    · rw [List.mem_range, hname]
      simp only [List.length_append]
      omega
    · rw [htake, hdrop]
      exact ⟨hname, hopens, hcloses⟩
  · rintro ⟨hcode, k, -, hname, hopens, hcloses⟩
    exact ⟨_, _, hname, hcode, hopens, hcloses⟩

instance {name code : String} : Decidable (MentionsType name code) :=
  decidable_of_iff _ mentionsType_iff.symm

/-- The entry is one of exactly this token. -/
def HoldsToken (py : Interpreter) (tokenCode : String) (entry : Py) : Prop :=
  ∃ items, entry = .dict items ∧
    (MentionsType (entryName py items) (comparable py tokenCode) ∨
      ((canonicalStcCodes py).contains (comparable py tokenCode) = true ∧
        isStcStore py items = true))

/-- The name of the entry contains the code, but only inside other names, and the entry carries an
amount. -/
def Confusable (py : Interpreter) (tokenCode : String) (entry : Py) : Prop :=
  balanceEntryMatchesToken py entry tokenCode = true ∧ ¬ HoldsToken py tokenCode entry ∧
    ∃ n, extractBalanceAmount py entry = .ok (some n)

theorem Confusable.endsSearch {py : Interpreter} {tokenCode : String} {entry : Py}
    (h : Confusable py tokenCode entry) : endsSearch py tokenCode entry = true := by
  obtain ⟨hmatch, -, n, hn⟩ := h
  unfold Preflight.endsSearch
  rw [hmatch, hn]
  rfl

theorem matches_of_endsSearch {py : Interpreter} {tokenCode : String} {entry : Py}
    (h : endsSearch py tokenCode entry = true) :
    balanceEntryMatchesToken py entry tokenCode = true := (Bool.and_eq_true_iff.mp h).1

/-- The balance found is always one of the token exactly when every confusable entry comes after an
entry that ends the search and is not confusable. -/
theorem balance_is_of_token_iff (py : Interpreter) (tokenCode : String) (balances : List Py) :
    (∀ n, findBalanceForToken py tokenCode balances = .ok (some n) →
      ∃ entry ∈ balances, Supplies py tokenCode balances entry n ∧ HoldsToken py tokenCode entry) ↔
      ∀ before entry after, balances = before ++ entry :: after → Confusable py tokenCode entry →
        ∃ earlier ∈ before, endsSearch py tokenCode earlier = true ∧
          ¬ Confusable py tokenCode earlier := by
  constructor
  · intro h before entry after hbalances hconfusable
    -- the search ends at `entry` or before it
    have hsome : (balances.find? (endsSearch py tokenCode)).isSome = true := by
      rw [List.find?_isSome]
      exact ⟨entry, by simp [hbalances], hconfusable.endsSearch⟩
    obtain ⟨found, hfound⟩ := Option.isSome_iff_exists.mp hsome
    have hnot : ¬ Confusable py tokenCode found := by
      rintro ⟨-, hother, n, hn⟩
      obtain ⟨supplier, -, hsupplies, hholds⟩ :=
        h n (findBalanceForToken_eq_some.mpr ⟨found, hfound, hn⟩)
      rw [hsupplies.1] at hfound
      cases hfound
      exact hother hholds
    obtain ⟨hends, as, bs, hsplit, hbefore⟩ := List.find?_eq_some_iff_append.mp hfound
    refine ⟨found, ?_, hends, hnot⟩
    rw [hbalances] at hsplit
    rcases List.append_eq_append_iff.mp hsplit with ⟨mid, has, hmid⟩ | ⟨mid, hbefore', hmid⟩
    · cases mid with
      | nil =>
        cases hmid
        exact absurd hconfusable hnot
      | cons e mid =>
        cases hmid
        have hearly := hbefore entry (by simp [has])
        rw [hconfusable.endsSearch] at hearly
        cases hearly
    · cases mid with
      | nil =>
        cases hmid
        exact absurd hconfusable hnot
      | cons e mid =>
        cases hmid
        simp [hbefore']
  · intro h n hn
    obtain ⟨entry, hsupplies⟩ := findBalanceForToken_eq_some.mp hn
    refine ⟨entry, List.mem_of_find?_eq_some hsupplies.1, hsupplies, ?_⟩
    obtain ⟨hends, before, after, hsplit, hbefore⟩ := List.find?_eq_some_iff_append.mp hsupplies.1
    by_contra hother
    obtain ⟨earlier, hearlier, hends', -⟩ := h before entry after hsplit
      ⟨matches_of_endsSearch hends, hother, n, hsupplies.2⟩
    have hnone := hbefore earlier hearlier
    rw [hends'] at hnone
    cases hnone

/-! ## A sample account -/

def Sample.balance (name : String) (amount : Int) : Py :=
  .dict [("name", .str name),
    ("value", .dict [("json", .dict [("coin", .dict [("value", .int amount)])])])]

/-- A token whose name goes on where that of the requested one ends is taken for it. -/
theorem longer_name_supplies_balance :
    ∃ n, findBalanceForToken Sample.interpreter "0x1::starcoin_coin::STC"
        [Sample.balance "0x1::coin::CoinStore<0x1::starcoin_coin::STC2>" 100,
          Sample.balance "0x1::coin::CoinStore<0x1::starcoin_coin::STC>" 5] = .ok (some n) ∧
      ¬ ∃ entry ∈ [Sample.balance "0x1::coin::CoinStore<0x1::starcoin_coin::STC2>" 100,
          Sample.balance "0x1::coin::CoinStore<0x1::starcoin_coin::STC>" 5],
        Supplies Sample.interpreter "0x1::starcoin_coin::STC"
          [Sample.balance "0x1::coin::CoinStore<0x1::starcoin_coin::STC2>" 100,
            Sample.balance "0x1::coin::CoinStore<0x1::starcoin_coin::STC>" 5] entry n ∧
          HoldsToken Sample.interpreter "0x1::starcoin_coin::STC" entry := by
  have hends : endsSearch Sample.interpreter "0x1::starcoin_coin::STC"
      (Sample.balance "0x1::coin::CoinStore<0x1::starcoin_coin::STC2>" 100) = true := by decide +kernel
  refine ⟨100, by decide +kernel, ?_⟩
  rintro ⟨entry, -, ⟨hfind, -⟩, items, rfl, hholds⟩
  rw [List.find?_cons, hends] at hfind
  cases hfind
  exact absurd hholds (by decide +kernel)

end StarcoinMcp.Host.Preflight
