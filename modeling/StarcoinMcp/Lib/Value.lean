import StarcoinMcp.Lib.Text

/-! JSON documents as `serde_json` holds them once parsed. A number is an unsigned or a
negative 64-bit integer, or else a float, which is kept as its text: nothing here
computes with one. -/

namespace StarcoinMcp

inductive Number
  | posInt (n : UInt64)
  | negInt (n : Int64)
  | float (text : String)
deriving DecidableEq, Repr

inductive Value
  | null
  | bool (b : Bool)
  | number (n : Number)
  | string (s : String)
  | array (items : List Value)
  | object (entries : List (String × Value))

namespace Value

instance : Inhabited Value := ⟨null⟩

/-- `Value::get` with a key: only an object has members. -/
def get (key : String) : Value → Option Value
  | object entries => (entries.find? fun e => e.1 = key).map Prod.snd
  | _ => none

def asStr : Value → Option String
  | string s => some s
  | _ => none

def asArray : Value → Option (List Value)
  | array items => some items
  | _ => none

def asObject : Value → Option (List (String × Value))
  | object entries => some entries
  | _ => none

def lookup (value : Value) : List String → Option Value
  | [] => some value
  | segment :: path => (value.get segment).bind fun v => lookup v path

/-- A `u64`, given as a number or as its decimal text. -/
def parseU64 : Value → Option UInt64
  | number (.posInt n) => some n
  | string s =>
    match Text.parseUnsigned (2 ^ 64) s with
    | .ok n => some (UInt64.ofNat n)
    | .error _ => none
  | _ => none

end Value

end StarcoinMcp
