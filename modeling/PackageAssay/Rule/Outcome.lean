set_option autoImplicit false

namespace PackageAssay

inductive Outcome where
  | success
  | failure
  | skipped
deriving DecidableEq, Repr

namespace Outcome

def ofBool (holds : Bool) : Outcome := if holds then .success else .failure

def negate : Outcome → Outcome
  | .success => .failure
  | .failure => .success
  | .skipped => .skipped

def label : Outcome → String
  | .success => "PASS"
  | .failure => "FAIL"
  | .skipped => "SKIP"

def name : Outcome → String
  | .success => "SUCCESS"
  | .failure => "FAILURE"
  | .skipped => "SKIPPED"

def ofName? (name : String) : Option Outcome :=
  [Outcome.success, .failure, .skipped].find? fun outcome => outcome.name = name

end Outcome

end PackageAssay
