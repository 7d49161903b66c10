/-!
# Rules

A rule is one line, `[!]KIND_CASE=KEY[|VALUE]`, that asserts something about the outcome of a test
run. A rule of unknown kind or case is kept, and asserts nothing.
-/

set_option autoImplicit false

namespace PackageAssay

inductive PackageCheck where
  | installed
  | modified
  | version (expected : String)
  | group (name : String)
  | dependsOn (name : String)
  | requiredBy (name : String)
  | reason (expected : Int32)
  | file (path : String)
  | backup (path : String)
deriving DecidableEq, Repr

inductive FileCheck where
  | present
  | modified
  | pacnew
  | pacorig
  | pacsave
deriving DecidableEq, Repr

inductive Predicate where
  | exitCode (expected : Int32)
  | output (pattern : String)
  | package (name : String) (check : PackageCheck)
  | file (path : String) (check : FileCheck)
  | link (path : String)
  | unrecognized (kind case : String)
deriving DecidableEq, Repr

structure Rule where
  text : String
  negated : Bool
  predicate : Predicate
deriving DecidableEq, Repr

def Rule.summary (rule : Rule) : String := "rule = " ++ rule.text

end PackageAssay
