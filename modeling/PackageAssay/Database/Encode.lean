import PackageAssay.Database.SectionText
import PackageAssay.Manifest.Expansion
import PackageAssay.Package.Record

set_option autoImplicit false

namespace PackageAssay

inductive RepositoryKind where
  | installed
  | sync
deriving DecidableEq, Repr

def descSections (record : PackageRecord) : RepositoryKind → List Section
  | .installed =>
      Section.scalar "URL" record.url ++
      Section.list "LICENSE" record.license ++
      Section.scalar "BUILDDATE" record.buildDate ++
      Section.scalar "INSTALLDATE" record.installDate ++
      Section.scalar "PACKAGER" record.packager ++
      Section.integer "SIZE" record.size.toInt ++
      Section.integer "REASON" record.reason.toInt
  | .sync =>
      Section.integer "CSIZE" record.compressedSize.toInt ++
      Section.scalar "SHA1SUM" record.sha1sum ++
      Section.list "REPLACES" record.replaces ++
      Section.flag "FORCE" record.force ++
      Section.flag "STICK" record.stick

def encodeDesc (record : PackageRecord) (kind : RepositoryKind) : String :=
  Section.render (
    Section.always "NAME" record.name ++
    Section.always "VERSION" record.version ++
    Section.scalar "DESC" record.description ++
    Section.list "GROUPS" record.groups ++
    Section.scalar "ARCH" record.arch ++
    descSections record kind)

def encodeFiles (record : PackageRecord) : String :=
  Section.render (
    Section.list "FILES" (expandManifest record.files) ++
    Section.list "BACKUP" (record.backup.map BackupEntry.line))

def encodeDepends (record : PackageRecord) (kind : RepositoryKind) : String :=
  Section.render (
    Section.list "DEPENDS" record.depends ++
    (match kind with
      | .installed => Section.list "REQUIREDBY" record.requiredBy
      | .sync => []) ++
    Section.list "CONFLICTS" record.conflicts ++
    Section.list "PROVIDES" record.provides)

def shellFunction (hook : Hook) (body : String) : String :=
  hook.name ++ "() \x7b\n" ++ body ++ "\n\x7d"

def encodeInstall (scriptlets : Scriptlets) : String :=
  if scriptlets.isEmpty then ""
  else
    Text.joinLines (scriptlets.present.map fun hook => shellFunction hook (scriptlets.body hook))
      ++ "\n"

end PackageAssay
