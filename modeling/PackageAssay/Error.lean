import PackageAssay.Database.SectionKey
import PackageAssay.Files.Fault
import PackageAssay.Rule.ParseError

set_option autoImplicit false

namespace PackageAssay

inductive ArchiveError where
  | unopened (path : String) (cause : Fault)
  | noPackageInfo (path : String)
  | invalidSize (value : String)
  | lacksNameOrVersion
deriving DecidableEq, Repr

inductive Error where
  | file (cause : Fault)
  | malformedSection (file : SectionKey) (title : String)
  | invalidInteger (file : SectionKey) (title value : String)
  | rule (cause : RuleError)
  | layout
  | archive (cause : ArchiveError)
  | json
deriving DecidableEq, Repr

def packageInfoName : String := ".PKGINFO"

def ArchiveError.message : ArchiveError → String
  | .unopened path cause => "Failed to open package file " ++ path ++ ": " ++ cause.message
  | .noPackageInfo path => "No " ++ packageInfoName ++ " found in " ++ path
  | .invalidSize value => "Invalid size in " ++ packageInfoName ++ ": " ++ value
  | .lacksNameOrVersion => packageInfoName ++ " lacks pkgname or pkgver"

def Error.message : Error → String
  | .file cause => "I/O error: " ++ cause.message
  | .malformedSection key title =>
      "Malformed section %" ++ title ++ "% in " ++ key.fileName ++ ": unexpected end of file"
  | .invalidInteger key title value =>
      "Invalid integer in %" ++ title ++ "% of " ++ key.fileName ++ ": " ++ Text.quoted value
  | .rule cause => "Invalid rule: " ++ cause.message
  | .layout => "Configuration error: invalid TOML"
  | .archive cause => "Archive error: " ++ cause.message
  | .json => "JSON error: invalid document"

end PackageAssay
