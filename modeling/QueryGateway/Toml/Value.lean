/-! # Values of a settings file

A settings file is a table of named values in the TOML format. Numbers with a fraction and dates
occur in no setting; of them only the text is kept.
-/

namespace QueryGateway.Toml

/-- A value. -/
inductive Value where
  | string (text : String)
  | integer (number : Int)
  | float (text : String)
  | boolean (value : Bool)
  | dateTime (text : String)
  | array (items : List Value)
  | table (entries : List (String × Value))
  deriving Repr

/-- The named values of a table. -/
abbrev Entries := List (String × Value)

/-- Why a text is no settings file, or not one of the right shape. -/
inductive Error where
  /-- The text breaks the rules of the format. -/
  | malformed (expected : String)
  /-- A key or a table is defined twice, or something that is no table is extended. -/
  | redefined (key : String)
  /-- A number is out of bounds. -/
  | outOfRange (text : String)
  /-- A value has the wrong type. -/
  | wrongType (expected : String)
  /-- A required key is absent. -/
  | missing (key : String)
  deriving DecidableEq, Repr

/-- The text of the error. -/
def Error.message : Error → String
  | malformed expected => "expected " ++ expected
  | redefined key => "duplicate key: " ++ key
  | outOfRange text => "number out of range: " ++ text
  | wrongType expected => "invalid type, expected " ++ expected
  | missing key => "missing field " ++ key

/-- The value of a key. -/
def lookup (key : String) (entries : Entries) : Option Value :=
  (entries.find? (·.1 = key)).map Prod.snd

end QueryGateway.Toml
