import Mathlib.Data.List.Basic
import PackageAssay.Proofs.Splits
import PackageAssay.Rule.Parse

/-!
# The grammar of rules

A rule's text is put together from its parts, and the parts can be told apart again. What a text is
read as depends on its parts alone.
-/

set_option autoImplicit false

namespace PackageAssay.Rule

namespace Parts

def body (parts : Parts) : String := parts.kind ++ "_" ++ parts.case

def test (parts : Parts) : String := (if parts.negated then "!" else "") ++ parts.body

def argument (parts : Parts) : String :=
  match parts.value with
  | none => parts.key
  | some value => parts.key ++ "|" ++ value

def text (parts : Parts) : String := parts.test ++ "=" ++ parts.argument

/-- Each separator is the first of its kind where it is looked for, and a mark of negation is not
the beginning of a kind. -/
structure Apart (parts : Parts) : Prop where
  kind : '=' ∉ parts.kind.toList ∧ '_' ∉ parts.kind.toList
  case : '=' ∉ parts.case.toList
  key : '|' ∉ parts.key.toList
  unmarked : parts.negated = false → parts.kind.toList.head? ≠ some '!'

end Parts

theorem withoutPrefix_mark_eq_none_iff (test : String) :
    Text.withoutPrefix "!" test = none ↔ test.toList.head? ≠ some '!' := by
  rw [Option.eq_none_iff_forall_ne_some]
  constructor
  · intro none head
    obtain ⟨rest, chars⟩ := List.head?_eq_some_iff.1 head
    refine none (String.ofList rest) ((Text.withoutPrefix_eq_some_iff _ _ _).2 ?_)
    exact String.toList_injective (by simp [chars])
  · intro other rest found
    rw [(Text.withoutPrefix_eq_some_iff _ _ _).1 found] at other
    simp at other

section Cuts

variable (parts : Parts) (apart : parts.Apart)

include apart

theorem head?_body (plain : parts.negated = false) : parts.body.toList.head? ≠ some '!' := by
  have kind := apart.unmarked plain
  simp only [Parts.body, String.toList_append]
  cases chars : parts.kind.toList with
  | nil => simp
  | cons head tail => simpa [chars] using kind

theorem withoutPrefix_test :
    Text.withoutPrefix "!" parts.test = if parts.negated then some parts.body else none := by
  cases mark : parts.negated with
  | true => exact (Text.withoutPrefix_eq_some_iff _ _ _).2 (by simp [Parts.test, mark])
  | false =>
      have same : parts.test = parts.body := by simp [Parts.test, mark]
      rw [same]
      exact (withoutPrefix_mark_eq_none_iff _).2 (head?_body parts apart mark)

theorem splitFirst_text : Text.splitFirst "=" parts.text = some (parts.test, parts.argument) := by
  refine Text.splitFirst_append '=' _ _ ?_
  cases mark : parts.negated <;>
    simp [Parts.test, Parts.body, mark, apart.kind.1, apart.case]

theorem splitFirst_body : Text.splitFirst "_" parts.body = some (parts.kind, parts.case) :=
  Text.splitFirst_append '_' _ _ apart.kind.2

theorem keyAndValue_argument :
    (match Text.splitFirst "|" parts.argument with
      | some (key, value) => (key, some value)
      | none => (parts.argument, none)) = (parts.key, parts.value) := by
  cases given : parts.value with
  | none =>
      have same : parts.argument = parts.key := by simp [Parts.argument, given]
      have whole : Text.splitFirst "|" parts.key = none := Text.splitFirst_of_notMem '|' _ apart.key
      simp only [same, whole]
  | some value =>
      have same : parts.argument = parts.key ++ "|" ++ value := by simp [Parts.argument, given]
      have cut : Text.splitFirst "|" (parts.key ++ "|" ++ value) = some (parts.key, value) :=
        Text.splitFirst_append '|' _ _ apart.key
      simp only [same, cut]

theorem parts_text :
    Rule.parts parts.text =
      if parts.key = "" then .error (.emptyKey parts.text) else .ok parts := by
  have marked := withoutPrefix_test parts apart
  have body : (Text.withoutPrefix "!" parts.test).getD parts.test = parts.body := by
    rw [marked]
    cases mark : parts.negated <;> simp [Parts.test, mark]
  have negated : (Text.withoutPrefix "!" parts.test).isSome = parts.negated := by
    rw [marked]
    cases parts.negated <;> rfl
  rw [Rule.parts, splitFirst_text parts apart]
  dsimp only
  rw [body, splitFirst_body parts apart, negated]
  exact congrArg (fun cut : String × Option String =>
    if cut.1 = "" then Except.error (RuleError.emptyKey parts.text)
    else .ok (Parts.mk parts.negated parts.kind parts.case cut.1 cut.2))
    (keyAndValue_argument parts apart)

end Cuts

theorem exists_body (test : String) :
    ∃ negated body, test = (if negated then "!" else "") ++ body ∧
      (negated = false → body.toList.head? ≠ some '!') := by
  cases found : Text.withoutPrefix "!" test with
  | some body =>
      exact ⟨true, body, by simpa using (Text.withoutPrefix_eq_some_iff _ _ _).1 found, by simp⟩
  | none =>
      exact ⟨false, test, by simp, fun _ => (withoutPrefix_mark_eq_none_iff _).1 found⟩

theorem exists_keyAndValue (argument : String) :
    ∃ key value, '|' ∉ key.toList ∧
      argument = match value with
        | none => key
        | some value => key ++ "|" ++ value := by
  by_cases bar : '|' ∈ argument.toList
  · obtain ⟨key, value, rfl, first⟩ := Text.exists_cut_of_mem '|' argument bar
    exact ⟨key, some value, first, rfl⟩
  · exact ⟨argument, none, bar, rfl⟩

theorem exists_parts (test argument : String) (whole : '=' ∉ test.toList)
    (cut : '_' ∈ test.toList) :
    ∃ parts : Parts, test ++ "=" ++ argument = parts.text ∧ parts.Apart := by
  obtain ⟨negated, body, rfl, unmarked⟩ := exists_body test
  have inside : '_' ∈ body.toList := by
    cases negated <;> simpa using cut
  obtain ⟨kind, case, rfl, first⟩ := Text.exists_cut_of_mem '_' body inside
  obtain ⟨key, value, bar, rfl⟩ := exists_keyAndValue argument
  rw [String.toList_append, List.mem_append, not_or] at whole
  simp only [String.toList_append, List.mem_append, not_or] at whole
  refine ⟨⟨negated, kind, case, key, value⟩, rfl, ⟨whole.2.1.1, first⟩, whole.2.2, bar, ?_⟩
  intro plain head
  refine unmarked plain ?_
  simp only [String.toList_append]
  rw [List.append_assoc, List.head?_append, head]
  rfl

def bareChecks : List (String × PackageCheck) :=
  [("EXIST", .installed), ("MODIFIED", .modified)]

def valueChecks : List (String × (String → PackageCheck)) :=
  [("VERSION", .version), ("GROUPS", .group), ("DEPENDS", .dependsOn),
    ("REQUIREDBY", .requiredBy), ("FILES", .file), ("BACKUP", .backup)]

/-- The cases about a package that say nothing without a value. -/
def valuedCases : List String :=
  ["VERSION", "GROUPS", "DEPENDS", "REQUIREDBY", "REASON", "FILES", "BACKUP"]

def fileChecks : List (String × FileCheck) :=
  [("EXIST", .present), ("MODIFIED", .modified), ("PACNEW", .pacnew), ("PACORIG", .pacorig),
    ("PACSAVE", .pacsave)]

def recognized : List (String × String) :=
  [("PACMAN", "RETCODE"), ("PACMAN", "OUTPUT"),
    ("PKG", "EXIST"), ("PKG", "MODIFIED"), ("PKG", "VERSION"), ("PKG", "GROUPS"),
    ("PKG", "DEPENDS"), ("PKG", "REQUIREDBY"), ("PKG", "REASON"), ("PKG", "FILES"),
    ("PKG", "BACKUP"),
    ("FILE", "EXIST"), ("FILE", "MODIFIED"), ("FILE", "PACNEW"), ("FILE", "PACORIG"),
    ("FILE", "PACSAVE"),
    ("LINK", "EXIST")]

namespace Parts

def LacksValue (parts : Parts) : Prop :=
  parts.kind = "PKG" ∧ parts.case ∈ valuedCases ∧ parts.value = none

inductive Digits (parts : Parts) : String → Prop where
  | exitCode (kind : parts.kind = "PACMAN") (case : parts.case = "RETCODE") :
      Digits parts parts.key
  | reason {value : String} (kind : parts.kind = "PKG") (case : parts.case = "REASON")
      (given : parts.value = some value) : Digits parts value

inductive Means (parts : Parts) : Predicate → Prop where
  | exitCode {number : Int32} (kind : parts.kind = "PACMAN") (case : parts.case = "RETCODE")
      (numeral : Numeral.int32? (Text.trim parts.key) = some number) :
      Means parts (.exitCode number)
  | output (kind : parts.kind = "PACMAN") (case : parts.case = "OUTPUT") :
      Means parts (.output parts.key)
  | bare {check : PackageCheck} (kind : parts.kind = "PKG")
      (case : (parts.case, check) ∈ bareChecks) : Means parts (.package parts.key check)
  | valued {check : String → PackageCheck} {value : String} (kind : parts.kind = "PKG")
      (case : (parts.case, check) ∈ valueChecks) (given : parts.value = some value) :
      Means parts (.package parts.key (check value))
  | reason {value : String} {number : Int32} (kind : parts.kind = "PKG")
      (case : parts.case = "REASON") (given : parts.value = some value)
      (numeral : Numeral.int32? (Text.trim value) = some number) :
      Means parts (.package parts.key (.reason number))
  | file {check : FileCheck} (kind : parts.kind = "FILE")
      (case : (parts.case, check) ∈ fileChecks) : Means parts (.file parts.key check)
  | link (kind : parts.kind = "LINK") (case : parts.case = "EXIST") :
      Means parts (.link parts.key)
  | unrecognized (other : (parts.kind, parts.case) ∉ recognized) :
      Means parts (.unrecognized parts.kind parts.case)

inductive Judged (parts : Parts) (text : String) : Except RuleError Predicate → Prop where
  | missingValue (lacks : parts.LacksValue) : Judged parts text (.error (.missingValue text))
  | notAnInteger {digits : String} (number : parts.Digits digits)
      (none : Numeral.int32? (Text.trim digits) = none) :
      Judged parts text (.error (.notAnInteger text digits))
  | predicate {predicate : Predicate} (means : parts.Means predicate) :
      Judged parts text (.ok predicate)

end Parts

section Judge

variable (parts : Parts) (text : String)

theorem judged_integer {digits : String} (number : parts.Digits digits)
    {build : Int32 → Predicate}
    (means : ∀ value, Numeral.int32? (Text.trim digits) = some value → parts.Means (build value)) :
    parts.Judged text ((integer text digits).map build) := by
  rw [integer]
  cases numeral : Numeral.int32? (Text.trim digits) with
  | none => exact .notAnInteger number numeral
  | some value => exact .predicate (means value numeral)

theorem judged_required (kind : parts.kind = "PKG") {check : String → PackageCheck}
    (case : (parts.case, check) ∈ valueChecks) :
    parts.Judged text (((required text parts.value).map fun value => some (check value)).map
      fun check? => (check?.map (Predicate.package parts.key)).getD
        (.unrecognized parts.kind parts.case)) := by
  cases given : parts.value with
  | none =>
      refine .missingValue ⟨kind, ?_, given⟩
      have inside : valueChecks.map Prod.fst ⊆ valuedCases := by decide
      exact inside (List.mem_map_of_mem case)
  | some value => exact .predicate (.valued kind case given)

theorem judged_reason (kind : parts.kind = "PKG") (case : parts.case = "REASON") :
    parts.Judged text ((do
      let value ← required text parts.value
      return some (PackageCheck.reason (← integer text value)) : Except RuleError _).map
        fun check? => (check?.map (Predicate.package parts.key)).getD
          (.unrecognized parts.kind parts.case)) := by
  cases given : parts.value with
  | none => exact .missingValue ⟨kind, by rw [case]; decide, given⟩
  | some value =>
      have judged := judged_integer parts text (.reason kind case given)
        fun _ => .reason kind case given
      simp only [required, bind, Except.bind]
      cases read : integer text value <;> rw [read] at judged <;> exact judged

theorem judged_predicate : parts.Judged text (parts.predicate text) := by
  obtain ⟨negated, kind, case, key, value⟩ := parts
  simp only [Parts.predicate]
  -- The kinds one after the other, and for each kind its cases.
  split
  · split
    · exact judged_integer _ _ (.exitCode rfl rfl) fun _ => .exitCode rfl rfl
    · exact .predicate (.output rfl rfl)
    · exact .predicate (.unrecognized (by simp_all [recognized]))
  · simp only [packageCheck?]
    split
    · exact .predicate (.bare rfl (by simp [bareChecks]))
    · exact .predicate (.bare rfl (by simp [bareChecks]))
    · exact judged_required ⟨_, _, "VERSION", key, value⟩ text rfl (by simp [valueChecks])
    · exact judged_required ⟨_, _, "GROUPS", key, value⟩ text rfl (by simp [valueChecks])
    · exact judged_required ⟨_, _, "DEPENDS", key, value⟩ text rfl (by simp [valueChecks])
    · exact judged_required ⟨_, _, "REQUIREDBY", key, value⟩ text rfl (by simp [valueChecks])
    · exact judged_reason ⟨_, _, "REASON", key, value⟩ text rfl rfl
    · exact judged_required ⟨_, _, "FILES", key, value⟩ text rfl (by simp [valueChecks])
    · exact judged_required ⟨_, _, "BACKUP", key, value⟩ text rfl (by simp [valueChecks])
    · exact .predicate (.unrecognized (by simp_all [recognized]))
  · simp only [fileCheck?]
    split
    · exact .predicate (.file rfl (by simp [fileChecks]))
    · exact .predicate (.file rfl (by simp [fileChecks]))
    · exact .predicate (.file rfl (by simp [fileChecks]))
    · exact .predicate (.file rfl (by simp [fileChecks]))
    · exact .predicate (.file rfl (by simp [fileChecks]))
    · exact .predicate (.unrecognized (by simp_all [recognized]))
  · split
    · next same => exact .predicate (.link rfl same)
    · next other => exact .predicate (.unrecognized (by simp_all [recognized]))
  · exact .predicate (.unrecognized (by simp_all [recognized]))

theorem predicate_of_unrecognized (other : (parts.kind, parts.case) ∉ recognized) :
    parts.predicate text = .ok (.unrecognized parts.kind parts.case) := by
  obtain ⟨negated, kind, case, key, value⟩ := parts
  simp only [Parts.predicate]
  dsimp only at other
  -- A literal kind with a literal case is one of the recognized pairs.
  split
  · split
    · exact absurd (by decide) other
    · exact absurd (by decide) other
    · rfl
  · simp only [packageCheck?]
    split
    case h_10 => rfl
    all_goals exact absurd (by decide) other
  · simp only [fileCheck?]
    split
    case h_6 => rfl
    all_goals exact absurd (by decide) other
  · split
    · next same => exact absurd (by rw [same]; decide) other
    · rfl
  · rfl

theorem predicate_of_means {predicate : Predicate} (means : parts.Means predicate) :
    parts.predicate text = .ok predicate := by
  cases means with
  | exitCode kind case numeral => simp [Parts.predicate, kind, case, integer, numeral, Except.map]
  | output kind case => simp [Parts.predicate, kind, case]
  | bare kind case =>
      simp only [bareChecks, List.mem_cons, Prod.mk.injEq, List.not_mem_nil, or_false] at case
      rcases case with ⟨case, rfl⟩ | ⟨case, rfl⟩ <;>
        simp [Parts.predicate, packageCheck?, kind, case, Except.map]
  | valued kind case given =>
      simp only [valueChecks, List.mem_cons, Prod.mk.injEq, List.not_mem_nil, or_false] at case
      rcases case with ⟨case, rfl⟩ | ⟨case, rfl⟩ | ⟨case, rfl⟩ | ⟨case, rfl⟩ | ⟨case, rfl⟩ |
          ⟨case, rfl⟩ <;>
        simp [Parts.predicate, packageCheck?, required, kind, case, given, Except.map]
  | reason kind case given numeral =>
      simp [Parts.predicate, packageCheck?, required, integer, kind, case, given, numeral,
        Except.map, bind, Except.bind, pure, Except.pure]
  | file kind case =>
      simp only [fileChecks, List.mem_cons, Prod.mk.injEq, List.not_mem_nil, or_false] at case
      rcases case with ⟨case, rfl⟩ | ⟨case, rfl⟩ | ⟨case, rfl⟩ | ⟨case, rfl⟩ | ⟨case, rfl⟩ <;>
        simp [Parts.predicate, fileCheck?, kind, case]
  | link kind case => simp [Parts.predicate, kind, case]
  | unrecognized other => exact predicate_of_unrecognized parts text other

theorem predicate_of_judged {result : Except RuleError Predicate}
    (judged : parts.Judged text result) : parts.predicate text = result := by
  cases judged with
  | missingValue lacks =>
      obtain ⟨kind, case, given⟩ := lacks
      simp only [valuedCases, List.mem_cons, List.not_mem_nil, or_false] at case
      rcases case with case | case | case | case | case | case | case <;>
        simp [Parts.predicate, packageCheck?, required, kind, case, given, Except.map, bind,
          Except.bind]
  | notAnInteger number numeral =>
      cases number with
      | exitCode kind case => simp [Parts.predicate, kind, case, integer, numeral, Except.map]
      | reason kind case given =>
          simp [Parts.predicate, packageCheck?, required, integer, kind, case, given, numeral,
            Except.map, bind, Except.bind]
  | predicate means => exact predicate_of_means parts text means

theorem predicate_eq_iff {result : Except RuleError Predicate} :
    parts.predicate text = result ↔ parts.Judged text result :=
  ⟨fun same => same ▸ judged_predicate parts text, predicate_of_judged parts text⟩

end Judge

inductive Reading (text : String) : Except RuleError Rule → Prop where
  | missingArgument (absent : '=' ∉ text.toList) : Reading text (.error (.missingArgument text))
  | missingCase {test argument : String} (cut : text = test ++ "=" ++ argument)
      (first : '=' ∉ test.toList) (absent : '_' ∉ test.toList) :
      Reading text (.error (.missingCase text))
  | emptyKey {parts : Parts} (cut : text = parts.text) (apart : parts.Apart)
      (empty : parts.key = "") : Reading text (.error (.emptyKey text))
  | missingValue {parts : Parts} (cut : text = parts.text) (apart : parts.Apart)
      (some : parts.key ≠ "") (lacks : parts.LacksValue) :
      Reading text (.error (.missingValue text))
  | notAnInteger {parts : Parts} {digits : String} (cut : text = parts.text)
      (apart : parts.Apart) (some : parts.key ≠ "") (number : parts.Digits digits)
      (none : Numeral.int32? (Text.trim digits) = none) :
      Reading text (.error (.notAnInteger text digits))
  | rule {parts : Parts} {predicate : Predicate} (cut : text = parts.text) (apart : parts.Apart)
      (some : parts.key ≠ "") (means : parts.Means predicate) :
      Reading text (.ok ⟨text, parts.negated, predicate⟩)

theorem parse_of_missingArgument {text : String} (absent : '=' ∉ text.toList) :
    parse text = .error (.missingArgument text) := by
  have uncut : Text.splitFirst "=" text = none := Text.splitFirst_of_notMem '=' text absent
  rw [parse, parts, uncut]
  rfl

theorem parse_of_missingCase {test argument : String} (first : '=' ∉ test.toList)
    (absent : '_' ∉ test.toList) :
    parse (test ++ "=" ++ argument) = .error (.missingCase (test ++ "=" ++ argument)) := by
  have cut : Text.splitFirst "=" (test ++ "=" ++ argument) = some (test, argument) :=
    Text.splitFirst_append '=' test argument first
  have uncut : Text.splitFirst "_" ((Text.withoutPrefix "!" test).getD test) = none := by
    refine Text.splitFirst_of_notMem '_' _ ?_
    cases found : Text.withoutPrefix "!" test with
    | none => exact absent
    | some body =>
        obtain rfl := (Text.withoutPrefix_eq_some_iff _ _ _).1 found
        simpa using absent
  rw [parse, parts, cut]
  dsimp only
  rw [uncut]
  rfl

section Texts

variable {parts : Parts} (apart : parts.Apart)

include apart

theorem parse_of_emptyKey (empty : parts.key = "") :
    parse parts.text = .error (.emptyKey parts.text) := by
  rw [parse, parts_text parts apart, if_pos empty]
  rfl

theorem parse_of_key (some : parts.key ≠ "") :
    parse parts.text = (parts.predicate parts.text).map fun predicate =>
      ⟨parts.text, parts.negated, predicate⟩ := by
  rw [parse, parts_text parts apart, if_neg some]
  simp only [bind, Except.bind]
  cases parts.predicate parts.text <;> rfl

theorem parse_of_judged (some : parts.key ≠ "") {result : Except RuleError Predicate}
    (judged : parts.Judged parts.text result) :
    parse parts.text = result.map fun predicate => ⟨parts.text, parts.negated, predicate⟩ := by
  rw [parse_of_key apart some, (predicate_eq_iff parts parts.text).2 judged]

theorem reading_parse_text : Reading parts.text (parse parts.text) := by
  by_cases empty : parts.key = ""
  · rw [parse_of_emptyKey apart empty]
    exact .emptyKey rfl apart empty
  · have judged := judged_predicate parts parts.text
    rw [parse_of_key apart empty]
    generalize parts.predicate parts.text = result at judged
    cases judged with
    | missingValue lacks => exact .missingValue rfl apart empty lacks
    | notAnInteger number numeral => exact .notAnInteger rfl apart empty number numeral
    | predicate means => exact .rule rfl apart empty means

end Texts

theorem reading_parse (text : String) : Reading text (parse text) := by
  by_cases equals : '=' ∈ text.toList
  · obtain ⟨test, argument, rfl, first⟩ := Text.exists_cut_of_mem '=' text equals
    by_cases cut : '_' ∈ test.toList
    · obtain ⟨parts, joined, apart⟩ := exists_parts test argument first cut
      rw [show test ++ String.singleton '=' ++ argument = parts.text from joined]
      exact reading_parse_text apart
    · rw [show parse (test ++ String.singleton '=' ++ argument) = _ from
        parse_of_missingCase first cut]
      exact .missingCase rfl first cut
  · rw [parse_of_missingArgument equals]
    exact .missingArgument equals

/-- A text is read as the grammar says, whether it is a rule or not, and the grammar reads every
text in one way. -/
theorem parse_eq_iff_reading (text : String) (result : Except RuleError Rule) :
    parse text = result ↔ Reading text result := by
  refine ⟨fun same => same ▸ reading_parse text, fun reading => ?_⟩
  cases reading with
  | missingArgument absent => exact parse_of_missingArgument absent
  | missingCase cut first absent =>
      subst cut
      exact parse_of_missingCase first absent
  | emptyKey cut apart empty =>
      subst cut
      exact parse_of_emptyKey apart empty
  | missingValue cut apart some lacks =>
      subst cut
      exact parse_of_judged apart some (.missingValue lacks)
  | notAnInteger cut apart some number numeral =>
      subst cut
      exact parse_of_judged apart some (.notAnInteger number numeral)
  | rule cut apart some means =>
      subst cut
      exact parse_of_judged apart some (.predicate means)

/-- Each separator may stand again behind the place where it cuts. -/
example : parse "!PKG_FILES=a=_b|c|d=!" =
    .ok ⟨"!PKG_FILES=a=_b|c|d=!", true, .package "a=_b" (.file "c|d=!")⟩ := by
  decide +kernel

end PackageAssay.Rule
