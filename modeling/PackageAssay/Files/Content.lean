import PackageAssay.Archive.Gzip
import PackageAssay.Archive.Tar

/-!
# Contents of files

What a file holds is bytes; for an archive that was packed here it is kept what they hold.
-/

set_option autoImplicit false

namespace PackageAssay

inductive Content where
  | bytes (bytes : ByteArray)
  | archive (archive : Archive)
deriving DecidableEq

namespace Content

def ofText (text : String) : Content := .bytes text.toUTF8

def toBytes : Content → ByteArray
  | .bytes held => held
  | .archive packed => Gzip.encode (Tar.encode packed)

def text? (content : Content) : Option String :=
  String.fromUTF8? content.toBytes

end Content

end PackageAssay
