import PackageAssay.Archive.Pack
import PackageAssay.Archive.Unpack
import PackageAssay.Database.Encode
import PackageAssay.Files.Operation
import PackageAssay.Layout
import PackageAssay.Manifest.Expansion
import PackageAssay.Package.Info

/-!
# Package archives

An archive holds `.PKGINFO`, `.INSTALL` if there are scriptlets, and, if there is a manifest,
`.FILELIST` and the payload. A file of the payload holds its own manifest entry and a line feed.
-/

set_option autoImplicit false

namespace PackageAssay.PackageArchive

def installName : String := ".INSTALL"

def fileListName : String := ".FILELIST"

def textEntry (name text : String) : ArchiveEntry := ⟨name, .file text.toUTF8, 0o644⟩

def payloadBytes (entry : String) : Int64 :=
  if (ManifestEntry.parse entry).isRegular then Int64.ofNat (entry.utf8ByteSize + 1) else 0

def payloadSize (files : List String) : Int64 :=
  (files.map payloadBytes).foldl (· + ·) 0

def directoryEntries (files : List String) : List ArchiveEntry :=
  ((expandManifest files).filter (Text.endsWithChar '/')).map fun path => ⟨path, .directory, 0o755⟩

def payload? (entry : String) : Option ArchiveEntry :=
  let parsed := ManifestEntry.parse entry
  match parsed.kind with
  | .directory => none
  | .symlink target => some ⟨parsed.path, .link target, 0o777⟩
  | .file | .altered => some (textEntry parsed.path (entry ++ "\n"))

def manifestEntries (files : List String) : List ArchiveEntry :=
  if files = [] then []
  else
    textEntry fileListName (Text.joinLines (expandManifest files) ++ "\n") ::
      directoryEntries files ++ files.filterMap payload?

def entries (record : PackageRecord) : List ArchiveEntry :=
  textEntry packageInfoName (PackageInfo.render record) ::
    (if record.scriptlets.isEmpty then []
      else [textEntry installName (encodeInstall record.scriptlets)]) ++
    manifestEntries record.files

def make (record : PackageRecord) (directory : Path) (layout : Layout) :
    Operation (PackageRecord × Path) := do
  let path := directory.join (record.filename layout.pkgExtension)
  Operation.makeDirectories directory
  let sized := { record with size := payloadSize record.files }
  let packed := Archive.pack none (entries sized)
  Operation.writeFile path (.archive packed.archive)
  match packed.failure with
  | none => return (sized, path)
  | some fault => throw (.file fault)

def contents (disk : Disk) (path : Path) : Except Error Unpacked :=
  match disk.node .target path with
  | .error fault => .error (.archive (.unopened path.text fault))
  | .ok node =>
      match node.body with
      | .file content => .ok (unpack content)
      | _ => .error (.file .isDirectory)

def readEntries (path : Path) (unpacked : Unpacked) : Except Error PackageRecord :=
  match unpacked.entries.find? fun entry => entry.path = packageInfoName with
  | some entry => do
      match String.fromUTF8? (← entry.bytes.mapError .file) with
      | some text => (PackageInfo.parse text).mapError .archive
      | none => .error (.file .notText)
  | none =>
      match unpacked.failure with
      | some fault => .error (.file fault)
      | none => .error (.archive (.noPackageInfo path.text))

def read (disk : Disk) (path : Path) : Except Error PackageRecord := do
  readEntries path (← contents disk path)

def list (disk : Disk) (path : Path) : Except Error (List String) := do
  let unpacked ← contents disk path
  match unpacked.failure with
  | some fault => throw (.file fault)
  | none => return unpacked.entries.map UnpackedEntry.path

end PackageAssay.PackageArchive
