import PackageAssay.Error
import PackageAssay.Package.Record
import PackageAssay.Text.Blank
import PackageAssay.Text.Numeral

/-!
# Package information

The `.PKGINFO` file of a package archive holds `key = value` lines. A key of a list stands once
for each item.
-/

set_option autoImplicit false

namespace PackageAssay.PackageInfo

def pair (key value : String) : String := key ++ " = " ++ value

def pairs (key : String) (values : List String) : List String := values.map (pair key)

def lines (record : PackageRecord) : List String :=
  [pair "pkgname" record.name,
    pair "pkgver" record.version,
    pair "pkgdesc" record.description,
    pair "url" record.url,
    pair "builddate" record.buildDate,
    pair "packager" record.packager,
    pair "size" (toString record.size.toInt)] ++
  (if record.arch = "" then [] else [pair "arch" record.arch]) ++
  pairs "license" record.license ++
  pairs "replaces" record.replaces ++
  pairs "group" record.groups ++
  pairs "depend" record.depends ++
  pairs "conflict" record.conflicts ++
  pairs "provides" record.provides ++
  pairs "backup" (record.backup.map BackupEntry.path) ++
  pairs "remove" record.removes

def render (record : PackageRecord) : String :=
  Text.joinLines (lines record) ++ "\n"

def keyValue (line : String) : Option (String × String) :=
  let content := Text.trim line
  if content = "" ∨ (Text.withoutPrefix "#" content).isSome then none
  else (Text.splitFirst "=" content).map (Prod.map Text.trim Text.trim)

def store (record : PackageRecord) : String × String → Except ArchiveError PackageRecord
  | ("pkgname", value) => .ok { record with name := value }
  | ("pkgver", value) => .ok { record with version := value }
  | ("pkgdesc", value) => .ok { record with description := value }
  | ("url", value) => .ok { record with url := value }
  | ("builddate", value) => .ok { record with buildDate := value }
  | ("packager", value) => .ok { record with packager := value }
  | ("size", value) =>
      match Numeral.int64? value with
      | some size => .ok { record with size := size }
      | none => .error (.invalidSize value)
  | ("arch", value) => .ok { record with arch := value }
  | ("license", value) => .ok { record with license := record.license ++ [value] }
  | ("replaces", value) => .ok { record with replaces := record.replaces ++ [value] }
  | ("group", value) => .ok { record with groups := record.groups ++ [value] }
  | ("depend", value) => .ok { record with depends := record.depends ++ [value] }
  | ("conflict", value) => .ok { record with conflicts := record.conflicts ++ [value] }
  | ("provides", value) => .ok { record with provides := record.provides ++ [value] }
  | ("backup", value) => .ok { record with backup := record.backup ++ [⟨value, ""⟩] }
  | ("remove", value) => .ok { record with removes := record.removes ++ [value] }
  | _ => .ok record

def parse (content : String) : Except ArchiveError PackageRecord :=
  match ((Text.lines content).filterMap keyValue).foldlM store {} with
  | .error error => .error error
  | .ok record =>
      if record.name = "" ∨ record.version = "" then .error .lacksNameOrVersion else .ok record

end PackageAssay.PackageInfo
