import PackageAssay.Archive.Damage

set_option autoImplicit false

namespace PackageAssay

inductive Fault where
  | notFound
  | alreadyExists
  | isDirectory
  | notDirectory
  | nameTooLong
  | tooManyLinks
  | nulInPath
  | notText
  | notGzip
  | longHeaderText
  | wrongCheck
  | corruptStream
  | incompleteStream
  | endsEarly
  | refusedEntry (reason : Refusal)
  | brokenArchive (damage : Damage)
  | unreadable (path : String) (cause : Fault)
deriving DecidableEq, Repr

namespace Fault

def message : Fault → String
  | .notFound => "No such file or directory (os error 2)"
  | .alreadyExists => "File exists (os error 17)"
  | .isDirectory => "Is a directory (os error 21)"
  | .notDirectory => "Not a directory (os error 20)"
  | .nameTooLong => "File name too long (os error 36)"
  | .tooManyLinks => "Too many levels of symbolic links (os error 40)"
  | .nulInPath => "file name contained an unexpected NUL byte"
  | .notText => "stream did not contain valid UTF-8"
  | .notGzip => "invalid gzip header"
  | .longHeaderText => "gzip header field too long"
  | .wrongCheck => "corrupt gzip stream does not have a matching checksum"
  | .corruptStream => "corrupt deflate stream"
  | .incompleteStream => "incomplete deflate stream"
  | .endsEarly => "unexpected end of file"
  | .refusedEntry reason => reason.message
  | .brokenArchive damage => damage.message
  | .unreadable path cause => cause.message ++ " when getting metadata for " ++ path

end Fault

end PackageAssay
