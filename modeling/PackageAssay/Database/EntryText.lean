import PackageAssay.Database.Decode
import PackageAssay.Database.Encode

set_option autoImplicit false

namespace PackageAssay

structure EntryText where
  desc : String
  files : String
  depends : String
  install : String
deriving DecidableEq, Repr

def Decoded.andThen (decoded : Decoded) (next : PackageRecord → Decoded) : Decoded :=
  match decoded.failure with
  | none => next decoded.record
  | some _ => decoded

namespace EntryText

def ofRecord (record : PackageRecord) (kind : RepositoryKind) : EntryText :=
  ⟨encodeDesc record kind, encodeFiles record, encodeDepends record kind,
    encodeInstall record.scriptlets⟩

/-- Reads the framed files up to the first error, and the scriptlets, which cannot fail, after
them. -/
def decode (entry : EntryText) (record : PackageRecord) : Decoded :=
  let framed := (decodeDesc entry.desc record).andThen fun record =>
    (decodeFiles entry.files record).andThen (decodeDepends entry.depends)
  { framed with record := decodeInstall entry.install framed.record }

end EntryText

def PackageRecord.bare (name version : String) : PackageRecord :=
  { name := name, version := version }

end PackageAssay
