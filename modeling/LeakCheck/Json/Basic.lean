/-!
# JSON values
-/

namespace LeakCheck

/-- A JSON value. Numbers keep their digits, and objects the order of their members. -/
inductive Json where
  | null
  | bool (b : Bool)
  | number (digits : String)
  | string (s : String)
  | array (items : List Json)
  | object (members : List (String × Json))
  deriving Repr, Inhabited

end LeakCheck
