import PackageAssay.Proofs.AlikeDisks
import PackageAssay.Proofs.Baselines
import PackageAssay.Proofs.RuleSets

set_option autoImplicit false

namespace PackageAssay

/-- Contexts that may differ in file times, in the reference states of their handles and in the
files that are tracked. -/
structure Context.Alike (left right : Context) : Prop where
  disk : left.disk.Alike right.disk
  root : left.root = right.root
  layout : left.layout = right.layout
  exitCode : left.exitCode = right.exitCode
  database : Option.Rel (fun handle other => handle.directory = other.directory)
    (left.repositories.find? Repository.localName) (right.repositories.find? Repository.localName)

inductive Predicate.AsksModification : Predicate → Prop
  | package (name : String) : AsksModification (.package name .modified)
  | file (path : String) : AsksModification (.file path .modified)

namespace Context.Alike

variable {left right : Context}

theorem sameRecord_localEntry (alike : left.Alike right) (name : String) :
    Option.Rel (fun found other => found.2.record = other.2.record)
      (left.localEntry name) (right.localEntry name) := by
  have database := alike.database
  rw [localEntry, localEntry]
  generalize left.repositories.find? Repository.localName = leftHandle,
    right.repositories.find? Repository.localName = rightHandle at database
  cases database with
  | none => exact .none
  | @some handle other same =>
      have reads := alike.disk.sameOutcome_read other name
      dsimp only
      rw [Repository.read_congr same]
      generalize other.read left.disk name = leftRead,
        other.read right.disk name = rightRead at reads
      cases reads with
      | error failure => exact .none
      | ok records =>
          cases records with
          | none => exact .none
          | some same => exact .some same

theorem checkPackage_eq (alike : left.Alike right) (name : String) (check : PackageCheck)
    (timeless : check ≠ .modified) :
    left.checkPackage name check = right.checkPackage name check := by
  have entries := alike.sameRecord_localEntry name
  rw [checkPackage, checkPackage]
  generalize left.localEntry name = leftEntry, right.localEntry name = rightEntry at entries
  cases entries with
  | none => rfl
  | some same =>
      cases check with
      | modified => exact absurd rfl timeless
      | _ => simp only [same]

theorem checkFile_eq (alike : left.Alike right) (path : String) (check : FileCheck)
    (timeless : check ≠ .modified) : left.checkFile path check = right.checkFile path check := by
  cases check with
  | modified => exact absurd rfl timeless
  | _ => simp only [checkFile, alike.root, alike.layout, alike.disk.isFile_eq]

theorem logHolds_eq (alike : left.Alike right) (pattern : String) :
    left.logHolds pattern = right.logHolds pattern := by
  have path : left.logPath = right.logPath := by rw [logPath, logPath, alike.root, alike.layout]
  have read := alike.disk.sameBytes_read right.logPath
  unfold logHolds
  rw [path]
  generalize left.disk.read right.logPath = leftRead, right.disk.read right.logPath = rightRead
    at read
  cases read with
  | error fault => rfl
  | ok bytes => simp only [bytes]

theorem evaluate_eq (alike : left.Alike right) (predicate : Predicate)
    (timeless : ¬predicate.AsksModification) :
    left.evaluate predicate = right.evaluate predicate := by
  cases predicate with
  | exitCode expected => simp only [evaluate, alike.exitCode]
  | output pattern => simp only [evaluate, alike.logHolds_eq]
  | package name check =>
      refine alike.checkPackage_eq name check ?_
      rintro rfl
      exact timeless (.package name)
  | file path check =>
      refine alike.checkFile_eq path check ?_
      rintro rfl
      exact timeless (.file path)
  | link path => simp only [evaluate, alike.root, alike.disk.isLink_eq]
  | unrecognized kind case => rfl

end Context.Alike

theorem Rule.Parts.case_infix_text (parts : Parts) : parts.case.toList <:+: parts.text.toList := by
  refine ⟨((if parts.negated then "!" else "") ++ parts.kind ++ "_").toList,
    ("=" ++ parts.argument).toList, ?_⟩
  simp only [text, test, body, String.toList_append, List.append_assoc]

theorem Rule.occursIn_of_asksModification {text : String} {rule : Rule}
    (parsed : parse text = .ok rule) (asks : rule.predicate.AsksModification) :
    Text.occursIn "MODIFIED".toList text.toList = true := by
  have reading := reading_parse text
  rw [parsed] at reading
  cases reading with
  | @rule parts predicate cut apart some means =>
      -- The two cases that ask for a modification have one name, and no other rule has it.
      have case : parts.case = "MODIFIED" := by
        cases means with
        | bare kind case =>
            simp only [bareChecks, List.mem_cons, List.not_mem_nil, or_false, Prod.mk.injEq] at case
            rcases case with ⟨-, rfl⟩ | ⟨named, rfl⟩
            · cases asks
            · exact named
        | valued kind case given =>
            simp only [valueChecks, List.mem_cons, List.not_mem_nil, or_false,
              Prod.mk.injEq] at case
            rcases case with ⟨-, rfl⟩ | ⟨-, rfl⟩ | ⟨-, rfl⟩ | ⟨-, rfl⟩ | ⟨-, rfl⟩ | ⟨-, rfl⟩ <;>
              cases asks
        | file kind case =>
            simp only [fileChecks, List.mem_cons, List.not_mem_nil, or_false, Prod.mk.injEq] at case
            rcases case with ⟨-, rfl⟩ | ⟨named, rfl⟩ | ⟨-, rfl⟩ | ⟨-, rfl⟩ | ⟨-, rfl⟩
            · cases asks
            · exact named
            all_goals cases asks
        | _ => cases asks
      have inside := parts.case_infix_text
      rw [case, ← cut] at inside
      exact (Text.occursIn_iff_infix _ _).2 inside

theorem Predicate.timeless_of_checksModification {rules : RuleSet} (parsed : rules.Parsed)
    (free : rules.checksModification = false) :
    ∀ result ∈ rules.results, ¬result.rule.predicate.AsksModification := by
  intro result member asks
  have named := Rule.occursIn_of_asksModification (parsed result member) asks
  rw [RuleSet.checksModification, List.any_eq_false] at free
  exact free result member named

/-- If no text of a rule names a modification, then neither the times of files nor what was known
of them before make a difference. -/
theorem rules_without_modified_are_timeless (rules : RuleSet) (left right : Context)
    (parsed : rules.Parsed) (alike : left.Alike right) :
    (rules.checksModification = false →
      rules.check left.outcome = rules.check right.outcome ∧
      (rules.check left.outcome).tally = (rules.check right.outcome).tally) ∧
    ((∃ result ∈ rules.results, left.outcome result.rule ≠ right.outcome result.rule) →
      rules.checksModification = true) := by
  have outcomes (free : rules.checksModification = false) :
      ∀ result ∈ rules.results, left.outcome result.rule = right.outcome result.rule := by
    intro result member
    have timeless := Predicate.timeless_of_checksModification parsed free result member
    rw [Context.outcome, Context.outcome, alike.evaluate_eq _ timeless]
  constructor
  · intro free
    have same : rules.check left.outcome = rules.check right.outcome := by
      rw [RuleSet.check, RuleSet.check]
      congr 1
      exact List.map_congr_left fun result member => by rw [outcomes free result member]
    exact ⟨same, by rw [same]⟩
  · rintro ⟨result, member, differ⟩
    by_contra unnamed
    exact differ (outcomes (Bool.eq_false_iff.2 unnamed) result member)

def loggedDisk : Disk where
  tree := {
    nodes := [
      (["desc", "foo-1.0-1", "local"],
        ⟨.file (.ofText "%NAME%\nfoo\n\n%VERSION%\n1.0-1\n\n"), .madeAt 1⟩),
      (["foo-1.0-1", "local"], ⟨.directory, .madeAt 1⟩), (["local"], ⟨.directory, .madeAt 1⟩),
      (["log"], ⟨.file (.ofText "installed foo\n"), .madeAt 1⟩),
      (["current"], ⟨.link "log", .madeAt 1⟩), ([], ⟨.directory, .madeAt 1⟩)]
    rooted := by decide
    distinct := by decide
    nested := by decide }
  now := 2

def rewrittenLoggedDisk : Disk :=
  { loggedDisk with tree := loggedDisk.tree.touch ["desc", "foo-1.0-1", "local"] 7, now := 8 }

def loggedContext (disk : Disk) (baseline : Baseline) : Context where
  disk := disk
  root := ⟨"/"⟩
  layout := { dbpath := "/", logfile := "log" }
  exitCode := 0
  repositories := NameMap.empty.insert Repository.localName
    (baseline.restore (.ofName Repository.localName ⟨"/"⟩ { dbpath := "/" }))
  tracked := baseline.files

def rememberedBaseline : Baseline where
  packages := NameMap.empty.insert "foo" { desc := some ⟨"", .madeAt 1⟩ }
  files := [⟨"log", ⟨"/log"⟩, "", .madeAt 9⟩]

theorem find?_loggedContext (disk : Disk) (baseline : Baseline) :
    (loggedContext disk baseline).repositories.find? Repository.localName =
      some (baseline.restore (.ofName Repository.localName ⟨"/"⟩ { dbpath := "/" })) := by
  rw [loggedContext, NameMap.find?_insert, if_pos rfl]

theorem alike_loggedContext :
    (loggedContext loggedDisk rememberedBaseline).Alike (loggedContext rewrittenLoggedDisk {}) where
  disk := {
    tree := FileTree.alike_of_body?_eq fun location => FileTree.body?_touch _ _ location 7
    workingDirectory := rfl }
  root := rfl
  layout := rfl
  exitCode := rfl
  database := by
    rw [find?_loggedContext, find?_loggedContext]
    exact .some (by rw [Baseline.directory_restore, Baseline.directory_restore])

def timelessTexts : List String :=
  ["PKG_VERSION=foo|1.0-1", "!LINK_EXIST=log", "PACMAN_OUTPUT=foo", "FILE_EXIST=current"]

theorem rules_without_modified_are_timeless_loggedContext :
    ∃ rules,
      RuleSet.ofTexts timelessTexts = .ok rules ∧
      rules.check (loggedContext loggedDisk rememberedBaseline).outcome =
        rules.check (loggedContext rewrittenLoggedDisk {}).outcome ∧
      (loggedContext loggedDisk rememberedBaseline).evaluate (.package "foo" .modified) ≠
        (loggedContext rewrittenLoggedDisk {}).evaluate (.package "foo" .modified) := by
  have free : (RuleSet.ofTexts timelessTexts).map RuleSet.checksModification = .ok false := by
    decide +kernel
  obtain ⟨rules, built⟩ : ∃ rules, RuleSet.ofTexts timelessTexts = .ok rules := by
    generalize RuleSet.ofTexts timelessTexts = outcome at free
    cases outcome with
    | error failure => cases free
    | ok rules => exact ⟨rules, rfl⟩
  refine ⟨rules, built, ?_, by decide +kernel⟩
  rw [built] at free
  exact ((rules_without_modified_are_timeless rules _ _ (RuleSet.parsed_ofTexts built)
    alike_loggedContext).1 (Except.ok.inj free)).1

end PackageAssay
