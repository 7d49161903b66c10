import PackageAssay.Archive.Bytes

set_option autoImplicit false

namespace PackageAssay

inductive EntryBody where
  | directory
  | file (content : ByteArray)
  /-- A file that was empty when its size was written, and then had this content. -/
  | grown (content : ByteArray)
  | link (target : String)
deriving DecidableEq

structure ArchiveEntry where
  path : String
  body : EntryBody
  mode : Nat
deriving DecidableEq

structure Archive where
  entries : List ArchiveEntry
deriving DecidableEq

end PackageAssay
