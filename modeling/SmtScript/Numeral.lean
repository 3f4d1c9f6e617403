import SmtScript.Term
import SmtScript.Number.Binary

/-!
# Numerals

Numbers enter a script as atoms: whole numbers by their digits, floating-point numbers by the
shortest decimal that reads back as the same number of the same format.
-/

namespace SmtScript

inductive Numeral where
  | integer (value : Int)
  | float (format : Binary.Format) (bits : Nat)

namespace Numeral

def text : Numeral → String
  | .integer value => String.ofList (Decimal.signed value)
  | .float format bits => String.ofList (format.text bits)

def term (n : Numeral) : Term :=
  .atom n.text

end Numeral

end SmtScript
