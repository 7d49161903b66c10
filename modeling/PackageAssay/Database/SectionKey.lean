set_option autoImplicit false

namespace PackageAssay

inductive SectionKey where
  | desc
  | depends
  | files
  | install
deriving DecidableEq, Repr

namespace SectionKey

def all : List SectionKey := [.desc, .depends, .files, .install]

def fileName : SectionKey → String
  | .desc => "desc"
  | .depends => "depends"
  | .files => "files"
  | .install => "install"

def ofFileName? (name : String) : Option SectionKey :=
  all.find? fun key => key.fileName = name

end SectionKey

end PackageAssay
