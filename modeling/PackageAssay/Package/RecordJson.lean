import PackageAssay.Json.Parse
import PackageAssay.Json.Pretty
import PackageAssay.Package.Record

set_option autoImplicit false

namespace PackageAssay

namespace BackupEntry

def toJson (entry : BackupEntry) : Json :=
  .ofMembers [("path", .ofString entry.path), ("fingerprint", .ofString entry.fingerprint)]

def ofJson? (value : Json) : Option BackupEntry := do
  match ← value.fields? ["path", "fingerprint"] with
  | [path, fingerprint] => some ⟨← path.string?, ← fingerprint.string?⟩
  | _ => none

end BackupEntry

namespace Scriptlets

def toJson (scriptlets : Scriptlets) : Json :=
  .ofMembers (Hook.all.map fun hook => (hook.name, .ofString (scriptlets.body hook)))

def ofJson? (value : Json) : Option Scriptlets := do
  let bodies ← (← value.fields? (Hook.all.map Hook.name)).mapM Json.string?
  return (Hook.all.zip bodies).foldl (fun filled (hook, body) => filled.setBody hook body) {}

end Scriptlets

namespace PackageRecord

def members (record : PackageRecord) : List (String × Json) := [
  ("name", .ofString record.name),
  ("version", .ofString record.version),
  ("arch", .ofString record.arch),
  ("description", .ofString record.description),
  ("url", .ofString record.url),
  ("license", .ofStrings record.license),
  ("groups", .ofStrings record.groups),
  ("build_date", .ofString record.buildDate),
  ("install_date", .ofString record.installDate),
  ("packager", .ofString record.packager),
  ("size", .ofInt record.size.toInt),
  ("csize", .ofInt record.compressedSize.toInt),
  ("reason", .ofInt record.reason.toInt),
  ("sha1sum", .ofString record.sha1sum),
  ("replaces", .ofStrings record.replaces),
  ("force", .bool record.force),
  ("stick", .bool record.stick),
  ("depends", .ofStrings record.depends),
  ("required_by", .ofStrings record.requiredBy),
  ("conflicts", .ofStrings record.conflicts),
  ("provides", .ofStrings record.provides),
  ("files", .ofStrings record.files),
  ("backup", .array (record.backup.map BackupEntry.toJson)),
  ("removes", .ofStrings record.removes),
  ("scriptlets", record.scriptlets.toJson)]

def toJson (record : PackageRecord) : Json := .ofMembers record.members

def ofJson? (value : Json) : Option PackageRecord := do
  match ← value.fields? (({} : PackageRecord).members.map Prod.fst) with
  | [name, version, arch, description, url, license, groups, buildDate, installDate, packager,
      size, compressedSize, reason, sha1sum, replaces, force, stick, depends, requiredBy, conflicts,
      provides, files, backup, removes, scriptlets] =>
      some {
        name := ← name.string?
        version := ← version.string?
        arch := ← arch.string?
        description := ← description.string?
        url := ← url.string?
        license := ← license.strings?
        groups := ← groups.strings?
        buildDate := ← buildDate.string?
        installDate := ← installDate.string?
        packager := ← packager.string?
        size := ← size.int64?
        compressedSize := ← compressedSize.int64?
        reason := ← reason.int32?
        sha1sum := ← sha1sum.string?
        replaces := ← replaces.strings?
        force := ← force.bool?
        stick := ← stick.bool?
        depends := ← depends.strings?
        requiredBy := ← requiredBy.strings?
        conflicts := ← conflicts.strings?
        provides := ← provides.strings?
        files := ← files.strings?
        backup := ← backup.list? BackupEntry.ofJson?
        removes := ← removes.strings?
        scriptlets := ← Scriptlets.ofJson? scriptlets }
  | _ => none

def ofJsonText? (text : String) : Option PackageRecord :=
  (Json.parse? text).bind ofJson?

end PackageRecord

end PackageAssay
