/-!
# JSON values

Numbers are integers here; an object keeps its members in their order.
-/

namespace TapSuite.Json

/-- A JSON value. -/
inductive Value where
  | null
  | boolean (b : Bool)
  | number (n : Int)
  | text (s : String)
  | array (items : List Value)
  | object (members : List (String × Value))

end TapSuite.Json
