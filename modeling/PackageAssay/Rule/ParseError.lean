import PackageAssay.Text.Quoted

set_option autoImplicit false

namespace PackageAssay

inductive RuleError where
  | missingArgument (rule : String)
  | missingCase (rule : String)
  | emptyKey (rule : String)
  | missingValue (rule : String)
  | notAnInteger (rule value : String)
deriving DecidableEq, Repr

def RuleError.message : RuleError → String
  | .missingArgument rule => "missing '=' in rule " ++ Text.quoted rule
  | .missingCase rule => "missing '_' between kind and case in rule " ++ Text.quoted rule
  | .emptyKey rule => "empty key in rule " ++ Text.quoted rule
  | .missingValue rule => "rule " ++ Text.quoted rule ++ " requires a value after '|'"
  | .notAnInteger rule value =>
      "rule " ++ Text.quoted rule ++ ": " ++ Text.quoted value ++ " is not an integer"

end PackageAssay
