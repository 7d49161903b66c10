import PackageAssay.Proofs.PackageRules
import PackageAssay.Proofs.RuleSets

set_option autoImplicit false

namespace PackageAssay

def Context.judgements (context : Context) (texts : List String) : Tally where
  success := (texts.map context.judge).count (.ok .success)
  failure := (texts.map context.judge).count (.ok .failure)
  skipped := (texts.map context.judge).count (.ok .skipped)

theorem Context.judgements_append (context : Context) (left right : List String) :
    context.judgements (left ++ right) =
      (context.judgements left).add (context.judgements right) := by
  simp only [judgements, Tally.add, List.map_append, List.count_append]

theorem Context.judgements_perm (context : Context) {left right : List String}
    (same : left.Perm right) : context.judgements left = context.judgements right := by
  have judged := same.map context.judge
  simp only [judgements, judged.count_eq]

namespace RuleSet

def texts (rules : RuleSet) : List String := rules.results.map fun result => result.rule.text

section Parsed

variable {rules : RuleSet} (parsed : rules.Parsed)

include parsed

theorem map_judge_texts (context : Context) :
    rules.texts.map context.judge =
      (rules.results.map fun result => context.outcome result.rule).map .ok := by
  rw [texts, List.map_map, List.map_map]
  refine List.map_congr_left fun result member => ?_
  simp only [Function.comp_apply, Context.judge, parsed result member]
  rfl

theorem count_judge_texts (context : Context) (outcome : Outcome) :
    (rules.texts.map context.judge).count (.ok outcome) =
      (rules.results.map fun result => context.outcome result.rule).count outcome := by
  have injective : Function.Injective (Except.ok : Outcome → Except RuleError Outcome) :=
    fun _ _ => Except.ok.inj
  rw [map_judge_texts parsed, List.count_map_of_injective _ _ injective]

theorem tally_check_eq_judgements (context : Context) :
    (rules.check context.outcome).tally = context.judgements rules.texts := by
  simp only [Context.judgements, count_judge_texts parsed, tally_check, ofOutcomes_eq]

theorem rules_eq_filterMap_parse :
    rules.results.map RuleResult.rule =
      rules.texts.filterMap fun text => (Rule.parse text).toOption := by
  rw [texts, List.filterMap_map, ← List.filterMap_eq_map]
  refine List.filterMap_congr fun result member => ?_
  simp only [Function.comp_apply, parsed result member, Except.toOption]

theorem reports_check (context : Context) :
    ((rules.check context.outcome).results.map fun result =>
        (result.rule.text, result.outcome)) =
      rules.texts.map fun text => (text, (context.judge text).toOption) := by
  rw [check, texts, List.map_map, List.map_map]
  refine List.map_congr_left fun result member => ?_
  simp only [Function.comp_apply, Context.judge, parsed result member]
  rfl

end Parsed

theorem results_check (rules : RuleSet) (evaluate : Rule → Outcome) :
    (rules.check evaluate).results =
      (rules.results.map RuleResult.rule).map fun rule => ⟨rule, some (evaluate rule)⟩ := by
  rw [check, List.map_map]
  rfl

theorem perm_check {rules others : RuleSet} (parsed : rules.Parsed) (otherParsed : others.Parsed)
    (same : others.texts.Perm rules.texts) (evaluate : Rule → Outcome) :
    (others.check evaluate).results.Perm (rules.check evaluate).results := by
  rw [results_check, results_check, rules_eq_filterMap_parse parsed,
    rules_eq_filterMap_parse otherParsed]
  exact (same.filterMap _).map _

theorem total_check (rules : RuleSet) (evaluate : Rule → Outcome) :
    (rules.check evaluate).tally.total = (rules.check evaluate).size := by
  rw [tally_check, total_ofOutcomes, size, check, List.length_map, List.length_map]

theorem passed_check_iff {rules : RuleSet} (parsed : rules.Parsed) (context : Context) :
    (rules.check context.outcome).tally.passed = true ↔
      ∀ text ∈ rules.texts, context.judge text ≠ .ok .failure := by
  rw [tally_check_eq_judgements parsed, Tally.passed, beq_iff_eq, Context.judgements,
    List.count_eq_zero, List.mem_map]
  exact ⟨fun none text member failed => none ⟨text, member, failed⟩,
    fun none ⟨text, member, failed⟩ => none text member failed⟩

/-- What is done to a rule set. Whatever is pushed was read from its text. -/
inductive Action where
  | add (text : String)
  | push (rule : Rule) (read : Rule.parse rule.text = .ok rule)
  | check (context : Context)

namespace Action

def accepted : Action → List String
  | .add text => if (Rule.parse text).isOk then [text] else []
  | .push rule _ => [rule.text]
  | .check _ => []

def isCheck : Action → Bool
  | .check _ => true
  | _ => false

end Action

def perform (rules : RuleSet) : Action → RuleSet
  | .add text => (rules.add text).toOption.getD rules
  | .push rule _ => rules.push rule
  | .check context => rules.check context.outcome

def run (actions : List Action) : RuleSet := actions.foldl perform {}

theorem perform_add_of_parse {text : String} {rule : Rule} (parsed : Rule.parse text = .ok rule)
    (rules : RuleSet) : rules.perform (.add text) = rules.push rule := by
  rw [perform, add_of_parse parsed]
  rfl

theorem add_of_error {text : String} {cause : RuleError} (failed : Rule.parse text = .error cause)
    (rules : RuleSet) : rules.add text = .error (.rule cause) := by
  rw [add, failed]

theorem perform_add_of_error {text : String} {cause : RuleError}
    (failed : Rule.parse text = .error cause) (rules : RuleSet) :
    rules.perform (.add text) = rules := by
  rw [perform, add_of_error failed]
  rfl

theorem texts_push (rules : RuleSet) (rule : Rule) :
    (rules.push rule).texts = rules.texts ++ [rule.text] := by
  rw [texts, push, List.map_append]
  rfl

theorem texts_check (rules : RuleSet) (evaluate : Rule → Outcome) :
    (rules.check evaluate).texts = rules.texts := by
  rw [texts, check, List.map_map]
  rfl

theorem texts_perform (rules : RuleSet) (action : Action) :
    (rules.perform action).texts = rules.texts ++ action.accepted := by
  cases action with
  | add text =>
      cases parsed : Rule.parse text with
      | ok rule =>
          rw [perform_add_of_parse parsed, texts_push, Action.accepted, parsed,
            Rule.text_of_parse parsed]
          rfl
      | error cause =>
          rw [perform_add_of_error parsed, Action.accepted, parsed]
          exact (List.append_nil _).symm
  | push rule read => exact texts_push rules rule
  | check context =>
      rw [perform, texts_check, Action.accepted, List.append_nil]

theorem texts_foldl_perform (actions : List Action) (rules : RuleSet) :
    (actions.foldl perform rules).texts = rules.texts ++ actions.flatMap Action.accepted := by
  induction actions generalizing rules with
  | nil => exact (List.append_nil _).symm
  | cons action rest ih =>
      rw [List.foldl_cons, ih, texts_perform, List.flatMap_cons, List.append_assoc]

theorem parsed_push {rules : RuleSet} (parsed : rules.Parsed) {rule : Rule}
    (read : Rule.parse rule.text = .ok rule) : (rules.push rule).Parsed := by
  intro result member
  rcases List.mem_append.1 member with earlier | last
  · exact parsed result earlier
  · rw [List.mem_singleton.1 last]
    exact read

theorem parsed_perform {rules : RuleSet} (parsed : rules.Parsed) (action : Action) :
    (rules.perform action).Parsed := by
  cases action with
  | add text =>
      cases read : Rule.parse text with
      | ok rule =>
          rw [perform_add_of_parse read]
          exact parsed_push parsed (by rw [Rule.text_of_parse read, read])
      | error cause => rwa [perform_add_of_error read]
  | push rule read => exact parsed_push parsed read
  | check context =>
      intro result member
      obtain ⟨old, held, rfl⟩ := List.mem_map.1 member
      exact parsed old held

theorem parsed_foldl_perform {rules : RuleSet} (parsed : rules.Parsed) (actions : List Action) :
    (actions.foldl perform rules).Parsed := by
  induction actions generalizing rules with
  | nil => exact parsed
  | cons action rest ih => exact ih (parsed_perform parsed action)

theorem parsed_run (actions : List Action) : (run actions).Parsed :=
  parsed_foldl_perform (fun _ absent => absurd absent List.not_mem_nil) actions

theorem tally_push (rules : RuleSet) (rule : Rule) : (rules.push rule).tally = rules.tally := by
  rw [tally, push, List.filterMap_append]
  exact congrArg Tally.ofOutcomes (List.append_nil _)

theorem tally_perform {action : Action} (unchecked : action.isCheck = false) (rules : RuleSet) :
    (rules.perform action).tally = rules.tally := by
  cases action with
  | add text =>
      cases parsed : Rule.parse text with
      | ok rule => rw [perform_add_of_parse parsed, tally_push]
      | error cause => rw [perform_add_of_error parsed]
  | push rule read => exact tally_push rules rule
  | check context => cases unchecked

theorem tally_foldl_perform {actions : List Action}
    (unchecked : ∀ action ∈ actions, action.isCheck = false) (rules : RuleSet) :
    (actions.foldl perform rules).tally = rules.tally := by
  induction actions generalizing rules with
  | nil => rfl
  | cons action rest ih =>
      rw [List.foldl_cons, ih fun other member => unchecked other (List.mem_cons_of_mem _ member),
        tally_perform (unchecked action List.mem_cons_self)]

theorem tally_run_of_check (before after : List Action) (context : Context)
    (unchecked : ∀ action ∈ after, action.isCheck = false) :
    (run (before ++ .check context :: after)).tally = context.judgements (run before).texts := by
  rw [run, List.foldl_append, List.foldl_cons, tally_foldl_perform unchecked]
  exact tally_check_eq_judgements (parsed_run before) context

end RuleSet

/-- Whatever is done to a rule set, it keeps the rules that it took in their order, and its tally
counts how the latest check judged the rules that were there. How a rule is judged is told by its
text and the context alone. -/
theorem rule_sets_count_each_rule_once :
    (∀ actions : List RuleSet.Action,
      (RuleSet.run actions).texts = actions.flatMap RuleSet.Action.accepted) ∧
    (∀ (actions : List RuleSet.Action) (text : String) (cause : RuleError),
      Rule.parse text = .error cause →
      (RuleSet.run actions).add text = .error (.rule cause) ∧
        RuleSet.run (actions ++ [.add text]) = RuleSet.run actions) ∧
    (∀ actions : List RuleSet.Action, (∀ action ∈ actions, action.isCheck = false) →
      (RuleSet.run actions).tally = {}) ∧
    (∀ (before after : List RuleSet.Action) (context : Context),
      (∀ action ∈ after, action.isCheck = false) →
      (RuleSet.run (before ++ .check context :: after)).tally =
        context.judgements (RuleSet.run before).texts) ∧
    (∀ (actions : List RuleSet.Action) (context : Context),
      let checked := RuleSet.run (actions ++ [.check context])
      checked.tally.total = checked.size ∧
        (checked.tally.passed = true ↔
          ∀ text ∈ (RuleSet.run actions).texts, context.judge text ≠ .ok .failure) ∧
        (checked.results.map fun result => (result.rule.text, result.outcome)) =
          (RuleSet.run actions).texts.map fun text => (text, (context.judge text).toOption)) ∧
    (∀ (actions others : List RuleSet.Action) (context : Context),
      (RuleSet.run others).texts.Perm (RuleSet.run actions).texts →
      (RuleSet.run (others ++ [.check context])).results.Perm
          (RuleSet.run (actions ++ [.check context])).results ∧
        (RuleSet.run (others ++ [.check context])).tally =
          (RuleSet.run (actions ++ [.check context])).tally) ∧
    (∀ (first next both : List RuleSet.Action) (context : Context),
      (RuleSet.run both).texts = (RuleSet.run first).texts ++ (RuleSet.run next).texts →
      (RuleSet.run (both ++ [.check context])).tally =
        (RuleSet.run (first ++ [.check context])).tally.add
          (RuleSet.run (next ++ [.check context])).tally) := by
  have checked (actions : List RuleSet.Action) (context : Context) :
      RuleSet.run (actions ++ [.check context]) =
        (RuleSet.run actions).check context.outcome := by
    rw [RuleSet.run, List.foldl_append]
    rfl
  have tallied (actions : List RuleSet.Action) (context : Context) :
      (RuleSet.run (actions ++ [.check context])).tally =
        context.judgements (RuleSet.run actions).texts :=
    RuleSet.tally_run_of_check actions [] context (List.forall_mem_nil _)
  refine ⟨fun actions => ?_, fun actions text cause failed => ⟨?_, ?_⟩, fun actions unchecked => ?_,
    RuleSet.tally_run_of_check, fun actions context => ?_, fun actions others context same => ?_,
    fun first next both context joined => ?_⟩
  · exact RuleSet.texts_foldl_perform actions {}
  · exact RuleSet.add_of_error failed _
  · rw [RuleSet.run, List.foldl_append]
    exact RuleSet.perform_add_of_error failed _
  · exact RuleSet.tally_foldl_perform unchecked {}
  · rw [checked]
    exact ⟨RuleSet.total_check _ _, RuleSet.passed_check_iff (RuleSet.parsed_run actions) context,
      RuleSet.reports_check (RuleSet.parsed_run actions) context⟩
  · rw [tallied, tallied, checked, checked]
    exact ⟨RuleSet.perm_check (RuleSet.parsed_run actions) (RuleSet.parsed_run others) same _,
      context.judgements_perm same⟩
  · rw [tallied, tallied, tallied, joined, context.judgements_append]

def twoRules : List RuleSet.Action := [.add "PACMAN_RETCODE=0", .add "PKG_EXIST=foo"]

def turnedRules : List RuleSet.Action := [.add "PKG_EXIST=foo", .add "PACMAN_RETCODE=0"]

theorem rule_sets_count_each_rule_once_twoRules :
    let context := contextOf newDisk installedRepository
    (RuleSet.run twoRules).add "PKG_VERSION=foo" =
        .error (.rule (.missingValue "PKG_VERSION=foo")) ∧
      RuleSet.run (twoRules ++ [.add "PKG_VERSION=foo"]) = RuleSet.run twoRules ∧
      (RuleSet.run twoRules).tally = {} ∧
      (RuleSet.run (twoRules ++ [.check context, .add "!PKG_EXIST=foo"])).tally = ⟨1, 1, 0⟩ ∧
      (RuleSet.run (twoRules ++ [.check context])).tally.passed = false ∧
      (RuleSet.run (turnedRules ++ [.check context])).tally =
        (RuleSet.run (twoRules ++ [.check context])).tally ∧
      (RuleSet.run (twoRules ++ turnedRules ++ [.check context])).tally =
        (RuleSet.run (twoRules ++ [.check context])).tally.add
          (RuleSet.run (turnedRules ++ [.check context])).tally := by
  intro context
  obtain ⟨-, rejected, unchecked, latest, checks, permuted, joined⟩ :=
    rule_sets_count_each_rule_once
  obtain ⟨refused, unchanged⟩ :=
    rejected twoRules "PKG_VERSION=foo" (.missingValue "PKG_VERSION=foo") (by decide)
  obtain ⟨-, passes, -⟩ := checks twoRules context
  refine ⟨refused, unchanged, unchecked twoRules (by decide), ?_, ?_,
    (permuted twoRules turnedRules context (by decide)).2,
    joined twoRules turnedRules (twoRules ++ turnedRules) context (by decide)⟩
  · rw [latest twoRules [.add "!PKG_EXIST=foo"] context (by decide)]
    decide
  · refine Bool.eq_false_iff.2 fun passed => passes.1 passed "PKG_EXIST=foo" ?_ ?_ <;> decide

end PackageAssay
