import PackageAssay.Proofs.LossyText
import PackageAssay.Proofs.PackageRules
import PackageAssay.Proofs.RuleGrammar

set_option autoImplicit false

namespace PackageAssay

namespace Rule

def aboutOutput (pattern : String) : String := "PACMAN_OUTPUT=" ++ pattern

theorem parse_aboutOutput {pattern : String} (some : pattern ≠ "")
    (bar : '|' ∉ pattern.toList) :
    parse (aboutOutput pattern) = .ok ⟨aboutOutput pattern, false, .output pattern⟩ := by
  let parts : Parts := ⟨false, "PACMAN", "OUTPUT", pattern, none⟩
  have joined : aboutOutput pattern = parts.text := rfl
  have apart : parts.Apart :=
    ⟨by simp [parts], by simp [parts], bar, fun _ => by simp [parts]⟩
  rw [joined, parse_of_judged apart some (.predicate (.output rfl rfl))]
  rfl

end Rule

namespace Context

theorem linesHold_iff (pattern : String) (bytes : List UInt8) :
    linesHold pattern bytes = true ↔
      ∃ line ∈ Text.pieces '\n' (Text.decodeLossy bytes), pattern.toList <:+: line := by
  rw [Text.pieces_decodeLossy, linesHold, List.any_eq_true]
  simp only [Text.occursIn_iff_infix, List.mem_map, exists_exists_and_eq_and]

theorem linesHold_iff_infix {pattern : String} (bytes : List UInt8) :
    linesHold pattern bytes = true ↔
      '\n' ∉ pattern.toList ∧ pattern.toList <:+: Text.decodeLossy bytes := by
  rw [linesHold_iff]
  constructor
  · rintro ⟨line, member, inside⟩
    have plain : '\n' ∉ pattern.toList := fun feed =>
      Text.notMem_of_mem_pieces _ line member (inside.subset feed)
    exact ⟨plain, (Text.infix_iff_exists_piece plain _).2 ⟨line, member, inside⟩⟩
  · rintro ⟨plain, inside⟩
    exact (Text.infix_iff_exists_piece plain _).1 inside

theorem logHolds_of_read {context : Context} {content : Content}
    (read : context.disk.read context.logPath = .ok content) (pattern : String) :
    context.logHolds pattern = linesHold pattern content.toBytes.data.toList := by
  unfold logHolds
  rw [read]

theorem logHolds_of_unread {context : Context} {fault : Fault}
    (unread : context.disk.read context.logPath = .error fault) (pattern : String) :
    context.logHolds pattern = false := by
  unfold logHolds
  rw [unread]

theorem judge_aboutOutput (context : Context) {pattern : String} (some : pattern ≠ "")
    (bar : '|' ∉ pattern.toList) :
    context.judge (Rule.aboutOutput pattern) = .ok (.ofBool (context.logHolds pattern)) := by
  rw [judge, Rule.parse_aboutOutput some bar]
  rfl

end Context

/-- A rule about the output looks for its pattern, which has to fit on one line, in the text of the
whole log. Bytes that are no text do not hide a pattern that stands between them. -/
theorem output_rules_search_the_log (context : Context) (pattern : String) (some : pattern ≠ "")
    (bar : '|' ∉ pattern.toList) :
    (∀ content, context.disk.read context.logPath = .ok content →
      context.judge ("PACMAN_OUTPUT=" ++ pattern) =
          .ok (.ofBool (decide ('\n' ∉ pattern.toList ∧
            pattern.toList <:+: Text.decodeLossy content.toBytes.data.toList))) ∧
        (∀ text, content.text? = .some text →
          Text.decodeLossy content.toBytes.data.toList = text.toList) ∧
        ('\n' ∉ pattern.toList →
          pattern.toUTF8.data.toList <:+: content.toBytes.data.toList →
          context.judge ("PACMAN_OUTPUT=" ++ pattern) = .ok .success)) ∧
    (∀ fault, context.disk.read context.logPath = .error fault →
      context.judge ("PACMAN_OUTPUT=" ++ pattern) = .ok .failure) := by
  have judged : context.judge ("PACMAN_OUTPUT=" ++ pattern) = _ :=
    context.judge_aboutOutput some bar
  constructor
  · intro content read
    rw [Context.logHolds_of_read read,
      Outcome.ofBool_eq_of_iff (Context.linesHold_iff_infix _)] at judged
    refine ⟨judged, fun text whole => ?_, fun plain inside => ?_⟩
    · rw [toBytes_of_text? whole]
      exact Text.decodeLossy_toUTF8 text
    · rw [judged, decide_eq_true ⟨plain, Text.infix_decodeLossy inside⟩]
      rfl
  · intro fault unread
    rw [judged, Context.logHolds_of_unread unread]
    rfl

/-- A line with a byte that begins no character here, a line that ends within a character, and a
line of text. -/
def brokenLog : ByteArray :=
  ⟨(("r".toUTF8.data.push 0xe9 ++ "solution\n".toUTF8.data).push 0xe2).push 0x82 ++
    "\nconflicting files".toUTF8.data⟩

def brokenLogDisk : Disk where
  tree := {
    nodes := [(["log"], ⟨.file (.bytes brokenLog), .madeAt 1⟩), ([], ⟨.directory, .madeAt 1⟩)]
    rooted := by decide
    distinct := by decide
    nested := by decide }
  now := 2

def brokenLogContext : Context where
  disk := brokenLogDisk
  root := ⟨"/"⟩
  layout := { logfile := "log" }
  exitCode := 1
  repositories := .empty
  tracked := []

theorem output_rules_search_the_log_brokenLog :
    brokenLogContext.judge "PACMAN_OUTPUT=conflicting files" = .ok .success ∧
    brokenLogContext.judge "PACMAN_OUTPUT=solution\n" = .ok .failure ∧
    brokenLogContext.judge "PACMAN_OUTPUT=r\ufffdsolution" = .ok .success ∧
    { brokenLogContext with root := ⟨"/log"⟩ }.judge "PACMAN_OUTPUT=solution" = .ok .failure := by
  have read : brokenLogContext.disk.read brokenLogContext.logPath = .ok (.bytes brokenLog) := by
    decide
  have search (pattern : String) (some : pattern ≠ "") (bar : '|' ∉ pattern.toList) :=
    (output_rules_search_the_log brokenLogContext pattern some bar).1 _ read
  refine ⟨(search "conflicting files" (by decide) (by decide)).2.2 (by decide) ?_, ?_, ?_, ?_⟩
  · exact ⟨brokenLog.data.toList.take 14, [], by decide⟩
  · exact (search "solution\n" (by decide) (by decide)).1
  · exact (search "r\ufffdsolution" (by decide) (by decide)).1
  · exact (output_rules_search_the_log _ "solution" (by decide) (by decide)).2 .notDirectory
      (by decide)

end PackageAssay
