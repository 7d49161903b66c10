set_option autoImplicit false

namespace PackageAssay

inductive Refusal where
  | tooLong
  | holdsNul
  | absolute
  | leadsUp
  | noName
deriving DecidableEq, Repr

def Refusal.message : Refusal → String
  | .tooLong => "provided value is too long"
  | .holdsNul => "provided value contains a nul byte"
  | .absolute => "paths in archives must be relative"
  | .leadsUp => "paths in archives must not have \x60..\x60"
  | .noName => "paths in archives must have at least one component"

inductive NumberField where
  | checksum (path : String)
  | size (path : String)
  | stretchOffset
  | stretchLength
  | wholeSize (owner : String)
deriving DecidableEq, Repr

def NumberField.description : NumberField → String
  | .checksum path => "cksum for " ++ path
  | .size path => "size for " ++ path
  | .stretchOffset => "offset from sparse header"
  | .stretchLength => "length from sparse header"
  | .wholeSize owner => "real_size for " ++ owner

inductive Damage where
  | notText (text : String) (field : NumberField)
  | notNumber (text : String) (field : NumberField)
  | wrongChecksum
  | partialBlock
  | partialContent
  | sizeOverflow
  | twoLongNames
  | twoAttributeLists
  | nothingAnnounced
  | sparseUnknown
  | sparseCutOff
  | stretchUnaligned
  | stretchOverlaps
  | stretchOverflow
  | stretchesTooLong
  | stretchesTooShort
  | wrongWholeSize
deriving DecidableEq, Repr

def Damage.message : Damage → String
  | .notText text field =>
      "numeric field did not have utf-8 text: " ++ text ++ " when getting " ++ field.description
  | .notNumber text field =>
      "numeric field was not a number: " ++ text ++ " when getting " ++ field.description
  | .wrongChecksum => "archive header checksum mismatch"
  | .partialBlock => "failed to read entire block"
  | .partialContent => "unexpected EOF during skip"
  | .sizeOverflow => "size overflow"
  | .twoLongNames => "two long name entries describing the same member"
  | .twoAttributeLists => "two pax extensions entries describing the same member"
  | .nothingAnnounced => "members found describing a future member but no future member found"
  | .sparseUnknown => "sparse entry type listed but not GNU header"
  | .sparseCutOff => "failed to read extension"
  | .stretchUnaligned => "previous block in sparse file was not aligned to 512-byte boundary"
  | .stretchOverlaps => "out of order or overlapping sparse blocks"
  | .stretchOverflow => "more bytes listed in sparse file than u64 can hold"
  | .stretchesTooLong => "sparse file consumed more data than the header listed"
  | .stretchesTooShort => "mismatch in sparse file chunks and entry size in header"
  | .wrongWholeSize => "mismatch in sparse file chunks and size in header"

end PackageAssay
