/-!
# JSON values

Numbers that are written without a point and without an exponent are integers. The others
are decimals, also where their value is whole. Fields keep their order; the last of several
fields of one name counts.
-/

namespace SmtScript

inductive Json where
  | null
  | bool (value : Bool)
  | integer (value : Int)
  /-- The number `digits * 10 ^ exponent`. -/
  | decimal (digits exponent : Int)
  | str (value : String)
  | arr (items : List Json)
  | obj (fields : List (String × Json))

namespace Json

instance : Inhabited Json := ⟨.null⟩

/-- The value of a field of an object. -/
def field? (name : String) : Json → Option Json
  | .obj fields => fields.reverse.lookup name
  | _ => none

def str? : Json → Option String
  | .str value => some value
  | _ => none

def bool? : Json → Option Bool
  | .bool value => some value
  | _ => none

def integer? : Json → Option Int
  | .integer value => some value
  | _ => none

/-- A whole number below a bound. -/
def nat? (bound : Nat) : Json → Option Nat
  | .integer (.ofNat n) => if n < bound then some n else none
  | _ => none

def items? : Json → Option (List Json)
  | .arr items => some items
  | _ => none

end Json

end SmtScript
