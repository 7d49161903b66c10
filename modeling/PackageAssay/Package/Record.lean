import PackageAssay.Digest.Sha1
import PackageAssay.Manifest.Entry
import PackageAssay.Package.Scriptlets
import PackageAssay.Text.Lines

/-!
# Package records

A record holds what is known about one package: its metadata, its relations to other packages,
its file manifest and its scriptlets. Which fields reach the disk depends on the repository.
-/

set_option autoImplicit false

namespace PackageAssay

structure BackupEntry where
  path : String
  fingerprint : String
deriving DecidableEq, Repr

namespace BackupEntry

/-- The backup entry of a manifest entry, fingerprinted over the content that a fixture gets. -/
def ofManifest (entry : String) : BackupEntry :=
  ⟨filenameOf entry, Sha1.hex (entry ++ "\n").toUTF8⟩

def parse (line : String) : BackupEntry :=
  match Text.splitFirst "\t" line with
  | some (path, fingerprint) => ⟨path, fingerprint⟩
  | none => ⟨line, ""⟩

def line (entry : BackupEntry) : String :=
  entry.path ++ "\t" ++ entry.fingerprint

end BackupEntry

structure PackageRecord where
  name : String := ""
  version : String := ""
  arch : String := ""
  description : String := ""
  url : String := ""
  license : List String := []
  groups : List String := []
  buildDate : String := ""
  installDate : String := ""
  packager : String := ""
  size : Int64 := 0
  compressedSize : Int64 := 0
  /-- 0 for a package the user asked for, 1 for one that another package needs. -/
  reason : Int32 := 0
  sha1sum : String := ""
  replaces : List String := []
  force : Bool := false
  stick : Bool := false
  depends : List String := []
  requiredBy : List String := []
  conflicts : List String := []
  provides : List String := []
  files : List String := []
  backup : List BackupEntry := []
  removes : List String := []
  scriptlets : Scriptlets := {}
deriving DecidableEq, Repr

namespace PackageRecord

def dbname (record : PackageRecord) : String :=
  record.name ++ "-" ++ record.version

def fullname (record : PackageRecord) : String :=
  record.dbname ++ "-" ++ record.arch

def filename (record : PackageRecord) (extension : String) : String :=
  record.fullname ++ extension

def hasBackup (record : PackageRecord) (path : String) : Bool :=
  record.backup.any fun entry => entry.path == path

def summary (record : PackageRecord) : String :=
  Text.joinLines [
    record.fullname,
    "description: " ++ record.description,
    "url: " ++ record.url,
    "depends: " ++ " ".intercalate record.depends,
    "files: " ++ " ".intercalate record.files,
    "reason: " ++ toString record.reason.toInt]

end PackageRecord

end PackageAssay
