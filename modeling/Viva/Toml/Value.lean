import Viva.Toml.Moment

/-! # Values of a TOML document -/

namespace Viva.Toml

inductive Value where
  | string (text : String)
  | integer (n : Int)
  | number (x : Float)
  | boolean (b : Bool)
  | moment (m : Moment)
  | array (items : List Value)
  | table (entries : List (String × Value))
  deriving Repr, Inhabited

end Viva.Toml
