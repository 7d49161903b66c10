import PackageAssay.Database.SectionReader
import PackageAssay.Text.Lines

/-!
# Reading the files of a database entry

Name and version of a package come from the name of its directory; the sections that repeat them
are passed over.
-/

set_option autoImplicit false

namespace PackageAssay

def descField : String → Option Field
  | "DESC" => some (.scalar fun value record => { record with description := value })
  | "GROUPS" => some (.list fun items record => { record with groups := items })
  | "URL" => some (.scalar fun value record => { record with url := value })
  | "LICENSE" => some (.list fun items record => { record with license := items })
  | "ARCH" => some (.scalar fun value record => { record with arch := value })
  | "BUILDDATE" => some (.scalar fun value record => { record with buildDate := value })
  | "INSTALLDATE" => some (.scalar fun value record => { record with installDate := value })
  | "PACKAGER" => some (.scalar fun value record => { record with packager := value })
  | "REASON" => some (.smallInteger fun value record => { record with reason := value })
  | "SIZE" => some (.integer fun value record => { record with size := value })
  | "CSIZE" =>
      some (.integer fun value record => { record with compressedSize := value, size := value })
  | "SHA1SUM" => some (.scalar fun value record => { record with sha1sum := value })
  | "REPLACES" => some (.list fun items record => { record with replaces := items })
  | "FORCE" => some (.flag fun record => { record with force := true })
  | "STICK" => some (.flag fun record => { record with stick := true })
  | _ => none

/-- Directories, which the expansion of the manifest adds, are not kept. -/
def filesField : String → Option Field
  | "FILES" =>
      some (.list fun items record =>
        { record with files := items.filter fun item => !Text.endsWithChar '/' item })
  | "BACKUP" =>
      some (.list fun items record => { record with backup := items.map BackupEntry.parse })
  | _ => none

/-- The last three sections stand here in entries that the package manager itself wrote. -/
def dependsField : String → Option Field
  | "DEPENDS" => some (.list fun items record => { record with depends := items })
  | "REQUIREDBY" => some (.list fun items record => { record with requiredBy := items })
  | "CONFLICTS" => some (.list fun items record => { record with conflicts := items })
  | "PROVIDES" => some (.list fun items record => { record with provides := items })
  | "REPLACES" => some (.list fun items record => { record with replaces := items })
  | "FORCE" => some (.flag fun record => { record with force := true })
  | "STICK" => some (.flag fun record => { record with stick := true })
  | _ => none

def decodeDesc (content : String) (record : PackageRecord) : Decoded :=
  decodeLines .desc descField (Text.lines content) record

def decodeFiles (content : String) (record : PackageRecord) : Decoded :=
  decodeLines .files filesField (Text.lines content) record

def decodeDepends (content : String) (record : PackageRecord) : Decoded :=
  decodeLines .depends dependsField (Text.lines content) record

def functionOpening (line : String) : Option String :=
  Text.withoutSuffix "() \x7b" line

def readScriptlets : List String → Scriptlets → Scriptlets
  | [], scriptlets => scriptlets
  | line :: rest, scriptlets =>
      match functionOpening line with
      | none => readScriptlets rest scriptlets
      | some name =>
          let body := Text.joinLines (rest.takeWhile (· ≠ "\x7d"))
          let filled := match Hook.ofName? name with
            | some hook => scriptlets.setBody hook body
            | none => scriptlets
          readScriptlets ((rest.dropWhile (· ≠ "\x7d")).drop 1) filled
termination_by lines => lines.length
decreasing_by
  · simp
  · have := (List.dropWhile_suffix (fun line => decide (line ≠ "\x7d")) (l := rest)).length_le
    simp only [List.length_drop, List.length_cons]
    omega

def decodeInstall (content : String) (record : PackageRecord) : PackageRecord :=
  { record with scriptlets := readScriptlets (Text.lines content) record.scriptlets }

end PackageAssay
