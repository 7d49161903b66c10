import PackageAssay.Error
import PackageAssay.Rule.Outcome
import PackageAssay.Rule.Parse

set_option autoImplicit false

namespace PackageAssay

structure Tally where
  success : Nat := 0
  failure : Nat := 0
  skipped : Nat := 0
deriving DecidableEq, Repr

namespace Tally

def record (tally : Tally) : Outcome → Tally
  | .success => { tally with success := tally.success + 1 }
  | .failure => { tally with failure := tally.failure + 1 }
  | .skipped => { tally with skipped := tally.skipped + 1 }

def add (left right : Tally) : Tally :=
  ⟨left.success + right.success, left.failure + right.failure, left.skipped + right.skipped⟩

def ofOutcomes (outcomes : List Outcome) : Tally := outcomes.foldl record {}

def total (tally : Tally) : Nat := tally.success + tally.failure + tally.skipped

def passed (tally : Tally) : Bool := tally.failure == 0

def column (count : Nat) : String :=
  if count < 10 then " " ++ toString count else toString count

def summary (tally : Tally) : String :=
  "OK = " ++ column tally.success ++ " KO = " ++ column tally.failure ++
    " SKIP = " ++ column tally.skipped

end Tally

structure RuleResult where
  rule : Rule
  outcome : Option Outcome
deriving DecidableEq, Repr

def RuleResult.report (result : RuleResult) : String :=
  "[" ++ (result.outcome.map Outcome.label).getD "----" ++ "] " ++ result.rule.text

structure RuleSet where
  results : List RuleResult := []
deriving DecidableEq, Repr

namespace RuleSet

def push (rules : RuleSet) (rule : Rule) : RuleSet :=
  ⟨rules.results ++ [⟨rule, none⟩]⟩

def ofRules (rules : List Rule) : RuleSet :=
  rules.foldl push {}

def add (rules : RuleSet) (text : String) : Except Error RuleSet :=
  match Rule.parse text with
  | .ok rule => .ok (rules.push rule)
  | .error error => .error (.rule error)

def size (rules : RuleSet) : Nat := rules.results.length

/-- Whether some rule may ask for a modification. File times can be coarse, so a caller that wants
modifications to show waits before the package manager runs. -/
def checksModification (rules : RuleSet) : Bool :=
  rules.results.any fun result =>
    Text.occursIn "MODIFIED".toList result.rule.text.toList

def check (rules : RuleSet) (evaluate : Rule → Outcome) : RuleSet :=
  ⟨rules.results.map fun result => ⟨result.rule, some (evaluate result.rule)⟩⟩

def tally (rules : RuleSet) : Tally :=
  Tally.ofOutcomes (rules.results.filterMap RuleResult.outcome)

end RuleSet

end PackageAssay
