import Mathlib.Data.List.Forall2
import PackageAssay.Command.Run
import PackageAssay.Proofs.RuleGrammar

set_option autoImplicit false

namespace PackageAssay

namespace Rule

abbrev ReadAs : List String → List Rule → Prop :=
  List.Forall₂ fun text rule => parse text = .ok rule

theorem text_of_parse {text : String} {rule : Rule} (parsed : parse text = .ok rule) :
    rule.text = text := by
  have reading := reading_parse text
  rw [parsed] at reading
  cases reading
  rfl

theorem ReadAs.map_text {texts : List String} {rules : List Rule} (read : ReadAs texts rules) :
    rules.map text = texts := by
  induction read with
  | nil => rfl
  | cons parsed _ ih => rw [List.map_cons, ih, text_of_parse parsed]

theorem ReadAs.parse_text {texts : List String} {rules : List Rule} (read : ReadAs texts rules) :
    ∀ rule ∈ rules, parse rule.text = .ok rule := by
  induction read with
  | nil => exact fun _ absent => absurd absent List.not_mem_nil
  | cons parsed _ ih =>
      intro rule member
      rcases List.mem_cons.1 member with rfl | later
      · rw [text_of_parse parsed, parsed]
      · exact ih rule later

/-- The first of the texts that is no rule fails with this cause. -/
def FirstFailure (texts : List String) (cause : RuleError) : Prop :=
  ∃ before text after rules, texts = before ++ text :: after ∧ ReadAs before rules ∧
    parse text = .error cause

theorem readAs_or_firstFailure (texts : List String) :
    (∃ rules, ReadAs texts rules) ∨ ∃ cause, FirstFailure texts cause := by
  induction texts with
  | nil => exact .inl ⟨[], .nil⟩
  | cons text texts ih =>
      cases parsed : parse text with
      | error cause => exact .inr ⟨cause, [], text, texts, [], rfl, .nil, parsed⟩
      | ok rule =>
          rcases ih with ⟨rules, read⟩ | ⟨cause, before, bad, after, rules, rfl, read, failed⟩
          · exact .inl ⟨rule :: rules, .cons parsed read⟩
          · exact .inr ⟨cause, text :: before, bad, after, rule :: rules, rfl, .cons parsed read,
              failed⟩

end Rule

namespace RuleSet

theorem add_of_parse {text : String} {rule : Rule} (parsed : Rule.parse text = .ok rule)
    (rules : RuleSet) : rules.add text = .ok (rules.push rule) := by
  rw [add, parsed]

theorem foldlM_add {texts : List String} {parsed : List Rule} (read : Rule.ReadAs texts parsed)
    (rules : RuleSet) :
    texts.foldlM add rules = .ok ⟨rules.results ++ parsed.map fun rule => ⟨rule, none⟩⟩ := by
  induction read generalizing rules with
  | nil => rw [List.map_nil, List.append_nil]; rfl
  | cons first _ ih =>
      rw [List.foldlM_cons, add_of_parse first]
      change List.foldlM add (rules.push _) _ = _
      rw [ih, push, List.append_assoc]
      rfl

theorem ofTexts_of_readAs {texts : List String} {parsed : List Rule}
    (read : Rule.ReadAs texts parsed) :
    ofTexts texts = .ok ⟨parsed.map fun rule => ⟨rule, none⟩⟩ :=
  foldlM_add read {}

theorem ofTexts_of_firstFailure {texts : List String} {cause : RuleError}
    (failure : Rule.FirstFailure texts cause) : ofTexts texts = .error (.rule cause) := by
  obtain ⟨before, text, after, rules, rfl, read, failed⟩ := failure
  rw [ofTexts, List.foldlM_append, foldlM_add read]
  change List.foldlM add _ (text :: after) = _
  rw [List.foldlM_cons, add, failed]
  rfl

def Parsed (rules : RuleSet) : Prop :=
  ∀ result ∈ rules.results, Rule.parse result.rule.text = .ok result.rule

theorem parsed_ofTexts {texts : List String} {rules : RuleSet}
    (built : ofTexts texts = .ok rules) : rules.Parsed := by
  rcases Rule.readAs_or_firstFailure texts with ⟨parsed, read⟩ | ⟨cause, failure⟩
  · rw [ofTexts_of_readAs read] at built
    cases built
    intro result member
    obtain ⟨rule, belongs, rfl⟩ := List.mem_map.1 member
    exact read.parse_text rule belongs
  · rw [ofTexts_of_firstFailure failure] at built
    cases built

theorem foldl_record (outcomes : List Outcome) (tally : Tally) :
    outcomes.foldl Tally.record tally =
      ⟨tally.success + outcomes.count .success, tally.failure + outcomes.count .failure,
        tally.skipped + outcomes.count .skipped⟩ := by
  induction outcomes generalizing tally with
  | nil => rfl
  | cons outcome outcomes ih =>
      rw [List.foldl_cons, ih]
      cases outcome <;> simp [Tally.record] <;> omega

theorem ofOutcomes_eq (outcomes : List Outcome) :
    Tally.ofOutcomes outcomes =
      ⟨outcomes.count .success, outcomes.count .failure, outcomes.count .skipped⟩ := by
  rw [Tally.ofOutcomes, foldl_record]
  simp

theorem total_ofOutcomes (outcomes : List Outcome) :
    (Tally.ofOutcomes outcomes).total = outcomes.length := by
  rw [ofOutcomes_eq, Tally.total]
  induction outcomes with
  | nil => rfl
  | cons outcome outcomes ih =>
      cases outcome <;> simp at ih ⊢ <;> omega

theorem tally_check (rules : RuleSet) (evaluate : Rule → Outcome) :
    (rules.check evaluate).tally =
      Tally.ofOutcomes (rules.results.map fun result => evaluate result.rule) := by
  have outcomes : (rules.check evaluate).results.filterMap RuleResult.outcome =
      rules.results.map fun result => evaluate result.rule := by
    rw [check, List.filterMap_map, ← List.filterMap_eq_map]
    rfl
  rw [tally, outcomes]

end RuleSet

end PackageAssay
