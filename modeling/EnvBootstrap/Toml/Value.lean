import EnvBootstrap.Decimal.Binary64
import EnvBootstrap.Entries

/-!
# Values of a document

The values that a TOML document holds.  Numerals out of range are still well-formed, so a number
may be absent from its value; whoever uses the number finds out.
-/

namespace EnvBootstrap.Toml

inductive Value where
  | text (value : String)
  /-- Absent when a base is written without any digit after it. -/
  | integer (value : Option Int)
  /-- Absent when the numeral is too large to be finite. -/
  | float (value : Option Binary64)
  | boolean (value : Bool)
  | moment
  | array (items : List Value)
  | table (entries : List (String × Value))

/-- A table with its entries in the order in which they were written. -/
abbrev Table := Entries String Value

end EnvBootstrap.Toml
