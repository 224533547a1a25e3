import ConditionalGet.Decimal.Double
import ConditionalGet.Text.Ascii

/-!
# TOML values

The values of a TOML document, and what may be wrong with one. A table remembers how it came about,
because that decides whether later lines may add to it.
-/

set_option autoImplicit false

namespace ConditionalGet.Toml

open Decimal

/-- What is wrong with a document. -/
inductive Flaw where
  /-- Its text does not follow the grammar. -/
  | malformed
  | duplicateKey
  deriving DecidableEq, Repr

/-- A number with a point or an exponent. -/
inductive Fractional where
  | finite (value : Double)
  | infinite (negative : Bool)
  | nan
  /-- A number beyond the largest double. -/
  | beyond
  deriving DecidableEq, Repr

/-- How a table came about. -/
inductive Origin where
  /-- It has a header of its own. -/
  | header
  /-- A longer header named it on the way. -/
  | implied
  /-- A key with dots named it on the way. -/
  | dotted
  /-- It was written between braces. -/
  | braces
  deriving DecidableEq, Repr

/-- Whether no line defines the table itself. -/
def Origin.isImplicit : Origin → Bool
  | .implied | .dotted => true
  | .header | .braces => false

/-- A value. The keys of a table stand in the order of their first lines, each once. -/
inductive Value where
  | string (text : String)
  | integer (value : Int)
  | float (value : Fractional)
  | boolean (value : Bool)
  /-- A date, a time of day or both. -/
  | moment
  /-- An array; `ofTables` if it is made of tables with headers. -/
  | array (ofTables : Bool) (items : List Value)
  | table (origin : Origin) (entries : List (String × Value))

end ConditionalGet.Toml
