import Mathlib.Data.List.Count
import PackageAssay.Proofs.RuleSets
import PackageAssay.Proofs.SavedBaselines

set_option autoImplicit false

namespace PackageAssay

/-- What an optional file gives: the value that is loaded from it, or the standard one if no file is
named. -/
inductive Given {α : Type} (load : Path → Except Error α) (standard : α) : Option Path → α → Prop
  | unnamed : Given load standard none standard
  | loaded {path : Path} {value : α} (loads : load path = .ok value) :
      Given load standard (some path) value

inductive Unloadable {α : Type} (load : Path → Except Error α) : Option Path → Path → Prop
  | file {path : Path} {cause : Error} (fails : load path = .error cause) :
      Unloadable load (some path) path

/-- The facts that rules are judged by: the installed packages and the files of a baseline are
compared with what the baseline knows of them. -/
def Context.against (disk : Disk) (root : Path) (layout : Layout) (exitCode : Int32)
    (baseline : Baseline) : Context where
  disk := disk
  root := root
  layout := layout
  exitCode := exitCode
  repositories := .ofList [("local", baseline.restore (.ofName "local" root layout))]
  tracked := baseline.files

def Context.labels (context : Context) (rules : List Rule) : List String :=
  rules.map fun rule => (context.outcome rule).label

section Check

variable (root : Path) (layoutFile : Option Path) (exitCode : Int32) (baselineFile : Option Path)
  (texts : List String) (disk : Disk)

def checkArguments : Option Invocation :=
  some ⟨root, layoutFile, .check exitCode baselineFile texts⟩

theorem runArguments_check :
    runArguments (checkArguments root layoutFile exitCode baselineFile texts) disk =
      (match Invocation.loadLayout disk layoutFile >>= fun layout =>
          Command.runCheck disk root layout exitCode baselineFile texts with
        | .ok report => .ofReport report
        | .error complaint => .ofComplaint complaint, disk) := by
  simp only [checkArguments, runArguments, Invocation.run, Command.run, Command.examine, bind,
    EStateM.bind, Except.bind]
  cases Invocation.loadLayout disk layoutFile with
  | error complaint => rfl
  | ok layout =>
      dsimp only
      cases Command.runCheck disk root layout exitCode baselineFile texts <;> rfl

variable {root layoutFile exitCode baselineFile texts disk}

theorem loadLayout_of_given {layout : Layout}
    (given : Given (Layout.load disk) {} layoutFile layout) :
    Invocation.loadLayout disk layoutFile = .ok layout := by
  cases given with
  | unnamed => rfl
  | loaded loads => rw [Invocation.loadLayout, loads]; rfl

theorem loadLayout_of_unloadable {path : Path}
    (fails : Unloadable (Layout.load disk) layoutFile path) :
    Invocation.loadLayout disk layoutFile = .error (.layout path) := by
  cases fails with
  | file fails => rw [Invocation.loadLayout, fails]; rfl

theorem loadBaseline_of_given {baseline : Baseline}
    (given : Given (Baseline.load disk) {} baselineFile baseline) :
    Command.loadBaseline disk baselineFile = .ok baseline := by
  cases given with
  | unnamed => rfl
  | loaded loads => rw [Command.loadBaseline, loads]; rfl

theorem loadBaseline_of_unloadable {path : Path}
    (fails : Unloadable (Baseline.load disk) baselineFile path) :
    Command.loadBaseline disk baselineFile = .error (.baseline path) := by
  cases fails with
  | file fails => rw [Command.loadBaseline, fails]; rfl

theorem given_or_unloadable {α : Type} (load : Path → Except Error α) (standard : α)
    (file : Option Path) :
    (∃ value, Given load standard file value) ∨ ∃ path, Unloadable load file path := by
  cases file with
  | none => exact .inl ⟨standard, .unnamed⟩
  | some path =>
      cases loads : load path with
      | ok value => exact .inl ⟨value, .loaded loads⟩
      | error cause => exact .inr ⟨path, .file loads⟩

theorem count_labels (outcomes : List Outcome) (outcome : Outcome) :
    (outcomes.map Outcome.label).count outcome.label = outcomes.count outcome := by
  refine List.count_map_of_injective _ _ ?_ outcome
  intro left right same
  cases left <;> cases right <;> first | rfl | exact absurd same (by decide)

def report (labels texts : List String) : String :=
  String.join
    ((List.zipWith (fun label text => "[" ++ label ++ "] " ++ text ++ "\n") labels texts) ++
      ["Rules: " ++
        (Tally.mk (labels.count "PASS") (labels.count "FAIL") (labels.count "SKIP")).summary ++
          "\n"])

theorem tally_check (context : Context) (rules : List Rule) :
    ((RuleSet.mk (rules.map fun rule => ⟨rule, none⟩)).check context.outcome).tally =
      ⟨(context.labels rules).count "PASS", (context.labels rules).count "FAIL",
        (context.labels rules).count "SKIP"⟩ := by
  have labels : context.labels rules = (rules.map context.outcome).map Outcome.label := by
    rw [Context.labels, List.map_map]
    rfl
  rw [RuleSet.tally_check, RuleSet.ofOutcomes_eq, List.map_map, labels, ← count_labels _ .success,
    ← count_labels _ .failure, ← count_labels _ .skipped]
  rfl

theorem lines_check (context : Context) (rules : List Rule) :
    ((RuleSet.mk (rules.map fun rule => ⟨rule, none⟩)).check context.outcome).results.map
        (fun result => result.report ++ "\n") =
      List.zipWith (fun label text => "[" ++ label ++ "] " ++ text ++ "\n")
        (context.labels rules) (rules.map Rule.text) := by
  rw [Context.labels, List.zipWith_map, List.zipWith_self, RuleSet.check, List.map_map,
    List.map_map]
  rfl

theorem runCheck_of_given {layout : Layout} {rules : List Rule} {baseline : Baseline}
    (read : Rule.ReadAs texts rules)
    (given : Given (Baseline.load disk) {} baselineFile baseline) :
    Command.runCheck disk root layout exitCode baselineFile texts =
      .ok ⟨report ((Context.against disk root layout exitCode baseline).labels rules) texts,
        decide ("FAIL" ∉ (Context.against disk root layout exitCode baseline).labels rules)⟩ := by
  rw [Command.runCheck, RuleSet.ofTexts_of_readAs read, loadBaseline_of_given given]
  change Except.ok (Report.ofLines _ _) = _
  rw [Report.ofLines, List.map_append, List.map_map]
  have context : Command.contextOf disk root layout exitCode baseline =
      Context.against disk root layout exitCode baseline := rfl
  have lines := lines_check (Context.against disk root layout exitCode baseline) rules
  rw [read.map_text] at lines
  have passed (labels : List String) : (labels.count "FAIL" == 0) = decide ("FAIL" ∉ labels) := by
    rw [Bool.eq_iff_iff, beq_iff_eq, decide_eq_true_eq, List.count_eq_zero]
  rw [context, tally_check]
  change Except.ok (Report.mk
    (String.join (List.map (fun result : RuleResult => result.report ++ "\n") _ ++ _)) (_ == 0)) = _
  rw [lines, passed]
  rfl

theorem mem_labels_iff (context : Context) (rules : List Rule) :
    "FAIL" ∈ context.labels rules ↔ ∃ rule ∈ rules, context.outcome rule = .failure := by
  rw [Context.labels, List.mem_map]
  refine exists_congr fun rule => and_congr_right fun _ => ?_
  cases context.outcome rule <;> decide

theorem sum_labels (context : Context) (rules : List Rule) :
    (context.labels rules).count "PASS" + (context.labels rules).count "FAIL" +
      (context.labels rules).count "SKIP" = rules.length := by
  have total := RuleSet.total_ofOutcomes (rules.map context.outcome)
  rw [RuleSet.ofOutcomes_eq, ← count_labels, ← count_labels, ← count_labels, List.map_map,
    List.length_map] at total
  exact total

theorem ending_of_given {layout : Layout} {rules : List Rule} {baseline : Baseline}
    (layoutGiven : Given (Layout.load disk) {} layoutFile layout)
    (read : Rule.ReadAs texts rules)
    (baselineGiven : Given (Baseline.load disk) {} baselineFile baseline) :
    runArguments (checkArguments root layoutFile exitCode baselineFile texts) disk =
      (⟨report ((Context.against disk root layout exitCode baseline).labels rules) texts,
        if "FAIL" ∈ (Context.against disk root layout exitCode baseline).labels rules then 1 else 0,
        none⟩, disk) := by
  rw [runArguments_check, loadLayout_of_given layoutGiven]
  simp only [bind, Except.bind, runCheck_of_given read baselineGiven, Ending.ofReport]
  by_cases failed : "FAIL" ∈ (Context.against disk root layout exitCode baseline).labels rules
  · simp [failed]
  · simp [failed]

theorem ending_of_unloadable_layout {path : Path}
    (fails : Unloadable (Layout.load disk) layoutFile path) :
    runArguments (checkArguments root layoutFile exitCode baselineFile texts) disk =
      (⟨"", 1, some ("Failed to load configuration " ++ path.text)⟩, disk) := by
  rw [runArguments_check, loadLayout_of_unloadable fails]
  rfl

theorem ending_of_firstFailure {layout : Layout} {cause : RuleError}
    (given : Given (Layout.load disk) {} layoutFile layout)
    (failure : Rule.FirstFailure texts cause) :
    runArguments (checkArguments root layoutFile exitCode baselineFile texts) disk =
      (⟨"", 1, some ("Invalid rule: " ++ cause.message)⟩, disk) := by
  rw [runArguments_check, loadLayout_of_given given]
  simp only [bind, Except.bind, Command.runCheck, RuleSet.ofTexts_of_firstFailure failure]
  rfl

theorem ending_of_unloadable_baseline {layout : Layout} {rules : List Rule} {path : Path}
    (given : Given (Layout.load disk) {} layoutFile layout) (read : Rule.ReadAs texts rules)
    (fails : Unloadable (Baseline.load disk) baselineFile path) :
    runArguments (checkArguments root layoutFile exitCode baselineFile texts) disk =
      (⟨"", 1, some ("Failed to load baseline " ++ path.text)⟩, disk) := by
  rw [runArguments_check, loadLayout_of_given given]
  simp only [bind, Except.bind, Command.runCheck, RuleSet.ofTexts_of_readAs read,
    loadBaseline_of_unloadable fails]
  rfl

theorem exitCode_eq_zero_iff :
    (runArguments (checkArguments root layoutFile exitCode baselineFile texts) disk).1.exitCode =
        0 ↔
      ∃ layout rules baseline, Given (Layout.load disk) {} layoutFile layout ∧
        Rule.ReadAs texts rules ∧ Given (Baseline.load disk) {} baselineFile baseline ∧
        ∀ rule ∈ rules,
          (Context.against disk root layout exitCode baseline).outcome rule ≠ .failure := by
  constructor
  -- What is missing is looked for in the order in which the command meets it, and ends it with 1.
  · intro zero
    rcases given_or_unloadable (Layout.load disk) {} layoutFile with
      ⟨layout, given⟩ | ⟨path, fails⟩
    · rcases Rule.readAs_or_firstFailure texts with ⟨rules, read⟩ | ⟨cause, failure⟩
      · rcases given_or_unloadable (Baseline.load disk) {} baselineFile with
          ⟨baseline, baselineGiven⟩ | ⟨path, fails⟩
        · refine ⟨layout, rules, baseline, given, read, baselineGiven, ?_⟩
          intro rule member failed
          have labelled := (mem_labels_iff _ rules).2 ⟨rule, member, failed⟩
          rw [ending_of_given given read baselineGiven, if_pos labelled] at zero
          cases zero
        · rw [ending_of_unloadable_baseline given read fails] at zero
          cases zero
      · rw [ending_of_firstFailure given failure] at zero
        cases zero
    · rw [ending_of_unloadable_layout fails] at zero
      cases zero
  · rintro ⟨layout, rules, baseline, given, read, baselineGiven, unfailed⟩
    have unlabelled :
        "FAIL" ∉ (Context.against disk root layout exitCode baseline).labels rules := by
      rw [mem_labels_iff]
      rintro ⟨rule, member, failed⟩
      exact unfailed rule member failed
    rw [ending_of_given given read baselineGiven, if_neg unlabelled]

end Check

/-- The command judges its rules if the layout, the rules and the baseline can be read, and tells
the outcome of each; if not, it tells what it could not read first. -/
theorem check_reports_its_rules (root : Path) (layoutFile : Option Path) (exitCode : Int32)
    (baselineFile : Option Path) (texts : List String) (disk : Disk) :
    let ran := runArguments (some ⟨root, layoutFile, .check exitCode baselineFile texts⟩) disk
    (ran.1.exitCode = 0 ↔
      ∃ layout rules baseline, Given (Layout.load disk) {} layoutFile layout ∧
        Rule.ReadAs texts rules ∧ Given (Baseline.load disk) {} baselineFile baseline ∧
        ∀ rule ∈ rules,
          (Context.against disk root layout exitCode baseline).outcome rule ≠ .failure) ∧
    (∀ layout rules baseline, Given (Layout.load disk) {} layoutFile layout →
      Rule.ReadAs texts rules → Given (Baseline.load disk) {} baselineFile baseline →
      let labels := (Context.against disk root layout exitCode baseline).labels rules
      ran = (⟨report labels texts, if "FAIL" ∈ labels then 1 else 0, none⟩, disk) ∧
        labels.length = texts.length ∧
        labels.count "PASS" + labels.count "FAIL" + labels.count "SKIP" = texts.length) ∧
    (∀ path, Unloadable (Layout.load disk) layoutFile path →
      ran = (⟨"", 1, some ("Failed to load configuration " ++ path.text)⟩, disk)) ∧
    (∀ layout cause, Given (Layout.load disk) {} layoutFile layout →
      Rule.FirstFailure texts cause →
      ran = (⟨"", 1, some ("Invalid rule: " ++ cause.message)⟩, disk)) ∧
    (∀ layout rules path, Given (Layout.load disk) {} layoutFile layout →
      Rule.ReadAs texts rules → Unloadable (Baseline.load disk) baselineFile path →
      ran = (⟨"", 1, some ("Failed to load baseline " ++ path.text)⟩, disk)) := by
  refine ⟨exitCode_eq_zero_iff, ?_, fun path fails => ending_of_unloadable_layout fails,
    fun layout cause given failure => ending_of_firstFailure given failure,
    fun layout rules path given read fails => ending_of_unloadable_baseline given read fails⟩
  intro layout rules baseline given read baselineGiven labels
  have counted := sum_labels (Context.against disk root layout exitCode baseline) rules
  have lengths : rules.length = texts.length := by rw [← read.map_text, List.length_map]
  rw [lengths] at counted
  exact ⟨ending_of_given given read baselineGiven, (List.length_map _).trans lengths, counted⟩

/-- The entry of `foo` was written and a configuration file has gone since the baseline was made. -/
def watchedBaseline : Baseline where
  packages := .ofList [("foo", { desc := some ⟨"", .madeAt 1⟩ })]
  files := [⟨"a", ⟨"/a"⟩, "", .madeAt 1⟩]

def watchedDisk : Disk where
  tree := {
    nodes := [
      (["layout"], ⟨.file (.ofText "dbpath = 'db'"), .madeAt 1⟩),
      (["base"], ⟨.file (.ofText watchedBaseline.render), .madeAt 1⟩),
      (["desc", "foo-1-1", "local", "db"], ⟨.file (.ofText ""), .madeAt 2⟩),
      (["foo-1-1", "local", "db"], ⟨.directory, .madeAt 1⟩),
      (["local", "db"], ⟨.directory, .madeAt 1⟩), (["db"], ⟨.directory, .madeAt 1⟩),
      ([], ⟨.directory, .madeAt 1⟩)]
    rooted := by decide
    distinct := by decide
    nested := by decide }
  now := 3

def mixedRules : List Rule :=
  [⟨"PACMAN_RETCODE=-1", false, .exitCode (-1)⟩, ⟨"!LINK_EXIST=a|b", true, .link "a"⟩,
    ⟨"PKG_MODIFIED=foo", false, .package "foo" .modified⟩,
    ⟨"FILE_MODIFIED=a", false, .file "a" .modified⟩, ⟨"FILE_EXIST=a", false, .file "a" .present⟩,
    ⟨"FILE_MODIFIED=base", false, .file "base" .modified⟩]

theorem readAs_mixedRules : Rule.ReadAs (mixedRules.map Rule.text) mixedRules :=
  .cons (by decide +kernel) (.cons (by decide +kernel) (.cons (by decide +kernel)
    (.cons (by decide +kernel) (.cons (by decide +kernel) (.cons (by decide +kernel) .nil)))))

theorem load_watchedBaseline : Baseline.load watchedDisk ⟨"/base"⟩ = .ok watchedBaseline := by
  apply Baseline.load_of_read
  rfl

theorem check_reports_its_rules_mixedRules :
    Given (Layout.load watchedDisk) {} (some ⟨"/layout"⟩) { dbpath := "db" } ∧
    Given (Baseline.load watchedDisk) {} (some ⟨"/base"⟩) watchedBaseline ∧
    (runArguments (some ⟨⟨"/"⟩, some ⟨"/layout"⟩,
      .check (-1) (some ⟨"/base"⟩) (mixedRules.map Rule.text)⟩) watchedDisk).1 =
      ⟨"[PASS] PACMAN_RETCODE=-1\n[PASS] !LINK_EXIST=a|b\n[PASS] PKG_MODIFIED=foo\n" ++
        "[PASS] FILE_MODIFIED=a\n[FAIL] FILE_EXIST=a\n[SKIP] FILE_MODIFIED=base\n" ++
        "Rules: OK =  4 KO =  1 SKIP =  1\n", 1, none⟩ := by
  have layout : Given (Layout.load watchedDisk) {} (some ⟨"/layout"⟩) { dbpath := "db" } :=
    .loaded (by decide +kernel)
  have baseline : Given (Baseline.load watchedDisk) {} (some ⟨"/base"⟩) watchedBaseline :=
    .loaded load_watchedBaseline
  obtain ⟨-, accepted, -⟩ := check_reports_its_rules ⟨"/"⟩ (some ⟨"/layout"⟩) (-1) (some ⟨"/base"⟩)
    (mixedRules.map Rule.text) watchedDisk
  have ends := (accepted _ mixedRules _ layout readAs_mixedRules baseline).1
  refine ⟨layout, baseline, ?_⟩
  rw [ends]
  decide +kernel

end PackageAssay
