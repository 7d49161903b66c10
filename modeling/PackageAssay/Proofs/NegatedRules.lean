import PackageAssay.Proofs.Results
import PackageAssay.Proofs.RuleTallies

set_option autoImplicit false

namespace PackageAssay

def RuleError.about (text : String) : RuleError → RuleError
  | .missingArgument _ => .missingArgument text
  | .missingCase _ => .missingCase text
  | .emptyKey _ => .emptyKey text
  | .missingValue _ => .missingValue text
  | .notAnInteger _ value => .notAnInteger text value

namespace Rule

def Unmarked (text : String) : Prop := text.toList.head? ≠ some '!'

def marked (text : String) : String := "!" ++ text

def marking (rule : Rule) : Rule := ⟨marked rule.text, true, rule.predicate⟩

namespace Parts

variable {parts : Parts}

theorem unmarked_text (plain : Unmarked parts.text) : parts.negated = false := by
  by_contra negated
  rw [Bool.not_eq_false] at negated
  exact plain (by simp [text, test, negated])

theorem text_marked (plain : parts.negated = false) :
    ({ parts with negated := true } : Parts).text = marked parts.text := by
  apply String.toList_injective
  simp [text, test, body, argument, marked, plain]

theorem apart_marked (apart : parts.Apart) : ({ parts with negated := true } : Parts).Apart :=
  { apart with unmarked := fun unmarked => nomatch unmarked }

end Parts

section Marked

variable {parts : Parts} (apart : parts.Apart) (plain : parts.negated = false)

include apart plain

theorem parse_marked_of_emptyKey (empty : parts.key = "") :
    parse (marked parts.text) = .error (.emptyKey (marked parts.text)) := by
  rw [← Parts.text_marked plain]
  exact parse_of_emptyKey (Parts.apart_marked apart) empty

theorem parse_marked_of_judged (some : parts.key ≠ "") {result : Except RuleError Predicate}
    (judged : parts.Judged (marked parts.text) result) :
    parse (marked parts.text) =
      result.map fun predicate => ⟨marked parts.text, true, predicate⟩ := by
  -- What the parts mean does not depend on the mark.
  have same : ({ parts with negated := true } : Parts).predicate (marked parts.text) = result :=
    predicate_of_judged parts _ judged
  rw [← Parts.text_marked plain] at same ⊢
  rw [parse_of_key (Parts.apart_marked apart) some, same]

end Marked

theorem parse_marked {text : String} (plain : Unmarked text) :
    parse (marked text) = ((parse text).map marking).mapError (RuleError.about (marked text)) := by
  have reading := reading_parse text
  generalize parse text = result at reading ⊢
  -- Whatever the text is read as, the mark is taken off before the grammar looks at the rest.
  cases reading with
  | missingArgument absent => exact parse_of_missingArgument (by simpa [marked] using absent)
  | @missingCase test argument cut first absent =>
      subst cut
      have joined : marked (test ++ "=" ++ argument) = marked test ++ "=" ++ argument := by
        simp only [marked, String.append_assoc]
      rw [joined]
      exact parse_of_missingCase (by simpa [marked] using first) (by simpa [marked] using absent)
  | emptyKey cut apart empty =>
      subst cut
      exact parse_marked_of_emptyKey apart (Parts.unmarked_text plain) empty
  | missingValue cut apart some lacks =>
      subst cut
      exact parse_marked_of_judged apart (Parts.unmarked_text plain) some (.missingValue lacks)
  | notAnInteger cut apart some number numeral =>
      subst cut
      exact parse_marked_of_judged apart (Parts.unmarked_text plain) some
        (.notAnInteger number numeral)
  | rule cut apart some means =>
      subst cut
      exact parse_marked_of_judged apart (Parts.unmarked_text plain) some (.predicate means)

theorem negated_of_parse {text : String} {rule : Rule} (plain : Unmarked text)
    (parsed : parse text = .ok rule) : rule.negated = false := by
  have reading := reading_parse text
  rw [parsed] at reading
  cases reading with
  | rule cut => exact Parts.unmarked_text (cut ▸ plain)

end Rule

namespace Context

variable (context : Context)

theorem outcome_marking {rule : Rule} (plain : rule.negated = false) :
    context.outcome rule.marking = (context.outcome rule).negate := by
  simp [outcome, Rule.marking, plain]

theorem judge_marked {text : String} (plain : Rule.Unmarked text) :
    context.judge (Rule.marked text) =
      ((context.judge text).map Outcome.negate).mapError
        (RuleError.about (Rule.marked text)) := by
  rw [judge, judge, Rule.parse_marked plain]
  cases parsed : Rule.parse text with
  | error cause => rfl
  | ok rule =>
      exact congrArg Except.ok (context.outcome_marking (Rule.negated_of_parse plain parsed))

theorem judge_marked_eq_ok_iff {text : String} (plain : Rule.Unmarked text) (outcome : Outcome) :
    context.judge (Rule.marked text) = .ok outcome ↔ context.judge text = .ok outcome.negate := by
  rw [context.judge_marked plain]
  cases context.judge text with
  | error cause => exact ⟨nofun, nofun⟩
  | ok other => cases other <;> cases outcome <;> simp [Except.map, Except.mapError, Outcome.negate]

end Context

def Rule.pairs (texts : List String) : List String :=
  texts.flatMap fun text => [text, marked text]

section Pairs

variable (context : Context) {texts : List String} (plain : ∀ text ∈ texts, Rule.Unmarked text)

include plain

theorem count_judge_pairs (outcome : Outcome) :
    ((Rule.pairs texts).map context.judge).count (.ok outcome) =
      (texts.map context.judge).count (.ok outcome) +
        (texts.map context.judge).count (.ok outcome.negate) := by
  induction texts with
  | nil => rfl
  | cons text rest ih =>
      have later := ih fun other member => plain other (List.mem_cons_of_mem _ member)
      have here : context.judge (Rule.marked text) = .ok outcome ↔ _ :=
        context.judge_marked_eq_ok_iff (plain text List.mem_cons_self) outcome
      simp only [Rule.pairs, List.flatMap_cons, List.map_append, List.map_cons, List.map_nil,
        List.count_append, List.count_cons, List.count_nil, beq_iff_eq, here] at later ⊢
      omega

end Pairs

/-- A mark in front of a rule changes its outcome alone, and what is no rule stays none. So a set
of rules with their negations has as many successes as failures. -/
theorem negation_turns_outcomes_around (context : Context) :
    (∀ text : String, text.toList.head? ≠ some '!' →
      (∀ cause, Rule.parse text = .error cause →
        Rule.parse ("!" ++ text) = .error (cause.about ("!" ++ text))) ∧
      (∀ rule, Rule.parse text = .ok rule → rule.negated = false ∧
        Rule.parse ("!" ++ text) = .ok ⟨"!" ++ text, true, rule.predicate⟩) ∧
      (context.judge ("!" ++ text) = .ok .success ↔ context.judge text = .ok .failure) ∧
      (context.judge ("!" ++ text) = .ok .failure ↔ context.judge text = .ok .success) ∧
      (context.judge ("!" ++ text) = .ok .skipped ↔ context.judge text = .ok .skipped)) ∧
    (∀ (rules : RuleSet) (texts : List String), rules.Parsed →
      (∀ text ∈ texts, text.toList.head? ≠ some '!') →
      (rules.results.map fun result => result.rule.text).Perm
        (texts.flatMap fun text => [text, "!" ++ text]) →
      (rules.check context.outcome).tally.success = (rules.check context.outcome).tally.failure ∧
      2 ∣ (rules.check context.outcome).tally.skipped) := by
  constructor
  · intro text plain
    have parsed : Rule.parse ("!" ++ text) = _ := Rule.parse_marked plain
    refine ⟨fun cause failed => ?_, fun rule read => ⟨Rule.negated_of_parse plain read, ?_⟩,
      context.judge_marked_eq_ok_iff plain .success, context.judge_marked_eq_ok_iff plain .failure,
      context.judge_marked_eq_ok_iff plain .skipped⟩
    · rw [parsed, failed]
      rfl
    · rw [parsed, read, ← Rule.text_of_parse read]
      rfl
  · intro rules texts parsed plain made
    have counts (outcome : Outcome) :
        (rules.results.map fun result => context.outcome result.rule).count outcome =
          (texts.map context.judge).count (.ok outcome) +
            (texts.map context.judge).count (.ok outcome.negate) := by
      have injective : Function.Injective (Except.ok : Outcome → Except RuleError Outcome) :=
        fun _ _ => Except.ok.inj
      rw [← List.count_map_of_injective _ _ injective, ← RuleSet.map_judge_texts parsed,
        ← count_judge_pairs context plain]
      exact (made.map context.judge).count_eq _
    rw [RuleSet.tally_check, RuleSet.ofOutcomes_eq]
    dsimp only
    rw [counts, counts, counts]
    simp only [Outcome.negate]
    omega

def shuffledPairs : List String :=
  ["FILE_MODIFIED=etc/a!", "PACMAN_RETCODE=0", "!PACMAN_RETCODE=0", "PKG_EXIST=!foo",
    "!FOO_BAR=x", "!FILE_MODIFIED=etc/a!", "!PKG_EXIST=!foo", "FOO_BAR=x"]

theorem negation_turns_outcomes_around_shuffledPairs :
    Rule.parse "!PKG_VERSION=foo" = .error (.missingValue "!PKG_VERSION=foo") ∧
    (contextOf newDisk installedRepository).judge "!PKG_EXIST=!foo" = .ok .success ∧
    ∃ rules, RuleSet.ofTexts shuffledPairs = .ok rules ∧
      let tally := (rules.check (contextOf newDisk installedRepository).outcome).tally
      tally.success = tally.failure ∧ 2 ∣ tally.skipped := by
  obtain ⟨single, sets⟩ := negation_turns_outcomes_around (contextOf newDisk installedRepository)
  have built : (RuleSet.ofTexts shuffledPairs).map RuleSet.texts = .ok shuffledPairs := by
    decide
  obtain ⟨rules, made, texts⟩ := (map_eq_ok_iff _ _ _).1 built
  refine ⟨(single "PKG_VERSION=foo" (by decide)).1 (.missingValue "PKG_VERSION=foo")
      (by decide),
    (single "PKG_EXIST=!foo" (by decide)).2.2.1.2 (by decide), rules, made, ?_⟩
  refine sets rules ["FILE_MODIFIED=etc/a!", "PACMAN_RETCODE=0", "PKG_EXIST=!foo", "FOO_BAR=x"]
    (RuleSet.parsed_ofTexts made) (by decide) ?_
  rw [RuleSet.texts] at texts
  rw [texts]
  decide

end PackageAssay
