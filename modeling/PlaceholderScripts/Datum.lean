import PlaceholderScripts.Dict
import PlaceholderScripts.Number.Double

/-!
# Stored values

What a script can keep between evaluations: null, truth values, integers, doubles, texts, lists, and
maps with text keys in ascending order.
-/

namespace PlaceholderScripts

inductive Datum where
  | null
  | bool (value : Bool)
  | int (value : Int)
  | float (value : Double)
  | text (value : String)
  | list (items : List Datum)
  | map (entries : List (String × Datum))
  deriving Repr, BEq

end PlaceholderScripts
