import PackageAssay.Rule.ParseError
import PackageAssay.Rule.Syntax
import PackageAssay.Text.Blank
import PackageAssay.Text.Numeral
import PackageAssay.Text.Split

/-!
# Reading rules

Every cut is made at the first separator: the first `=` ends the test, the first `_` the kind, and
the first `|` the key.
-/

set_option autoImplicit false

namespace PackageAssay

namespace Rule

structure Parts where
  negated : Bool
  kind : String
  case : String
  key : String
  value : Option String
deriving DecidableEq, Repr

def parts (text : String) : Except RuleError Parts :=
  match Text.splitFirst "=" text with
  | none => .error (.missingArgument text)
  | some (test, argument) =>
      let positive := Text.withoutPrefix "!" test
      match Text.splitFirst "_" (positive.getD test) with
      | none => .error (.missingCase text)
      | some (kind, case) =>
          let (key, value) := match Text.splitFirst "|" argument with
            | some (key, value) => (key, some value)
            | none => (argument, none)
          if key = "" then .error (.emptyKey text)
          else .ok ⟨positive.isSome, kind, case, key, value⟩

def integer (text value : String) : Except RuleError Int32 :=
  match Numeral.int32? (Text.trim value) with
  | some number => .ok number
  | none => .error (.notAnInteger text value)

def required (text : String) (value : Option String) : Except RuleError String :=
  match value with
  | some value => .ok value
  | none => .error (.missingValue text)

def packageCheck? (text case : String) (value : Option String) :
    Except RuleError (Option PackageCheck) :=
  match case with
  | "EXIST" => .ok (some .installed)
  | "MODIFIED" => .ok (some .modified)
  | "VERSION" => (required text value).map fun value => some (.version value)
  | "GROUPS" => (required text value).map fun value => some (.group value)
  | "DEPENDS" => (required text value).map fun value => some (.dependsOn value)
  | "REQUIREDBY" => (required text value).map fun value => some (.requiredBy value)
  | "REASON" => do
      let value ← required text value
      return some (.reason (← integer text value))
  | "FILES" => (required text value).map fun value => some (.file value)
  | "BACKUP" => (required text value).map fun value => some (.backup value)
  | _ => .ok none

def fileCheck? : String → Option FileCheck
  | "EXIST" => some .present
  | "MODIFIED" => some .modified
  | "PACNEW" => some .pacnew
  | "PACORIG" => some .pacorig
  | "PACSAVE" => some .pacsave
  | _ => none

def Parts.predicate (parts : Parts) (text : String) : Except RuleError Predicate :=
  let unrecognized := Predicate.unrecognized parts.kind parts.case
  match parts.kind with
  | "PACMAN" =>
      match parts.case with
      | "RETCODE" => (integer text parts.key).map .exitCode
      | "OUTPUT" => .ok (.output parts.key)
      | _ => .ok unrecognized
  | "PKG" =>
      (packageCheck? text parts.case parts.value).map fun check? =>
        (check?.map (Predicate.package parts.key)).getD unrecognized
  | "FILE" => .ok (((fileCheck? parts.case).map (Predicate.file parts.key)).getD unrecognized)
  | "LINK" => .ok (if parts.case = "EXIST" then .link parts.key else unrecognized)
  | _ => .ok unrecognized

def parse (text : String) : Except RuleError Rule := do
  let parts ← parts text
  return ⟨text, parts.negated, ← parts.predicate text⟩

end Rule

end PackageAssay
