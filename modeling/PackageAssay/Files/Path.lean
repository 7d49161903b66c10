import PackageAssay.Files.Fault
import PackageAssay.Text.Split

/-!
# Paths

A path is the text by which a file is looked up: from the root of the file tree if it begins with
a slash, and from the working directory otherwise.
-/

set_option autoImplicit false

namespace PackageAssay

structure Path where
  text : String
deriving DecidableEq, Repr

namespace Path

def isAbsolute (path : Path) : Bool :=
  path.text.toList.head? == some '/'

/-- The path of what the text names below the base. An absolute text stands for itself. -/
def join (base : Path) (text : String) : Path :=
  if (Path.mk text).isAbsolute then ⟨text⟩
  else if base.text = "" ∨ Text.endsWithChar '/' base.text then ⟨base.text ++ text⟩
  else ⟨base.text ++ "/" ++ text⟩

def withSuffix (path : Path) (suffix : String) : Path :=
  ⟨path.text ++ suffix⟩

def parts (path : Path) : List String :=
  ((Text.pieces '/' path.text.toList).map String.ofList).filter fun part => part ≠ ""

def names (path : Path) : List String :=
  path.parts.filter fun part => part ≠ "."

def endsInSlash (path : Path) : Bool := Text.endsWithChar '/' path.text

def endsInDot (path : Path) : Bool := path.parts.getLast? == some "."

/-- The mark at the end of a way whose last name is followed by a dot. -/
def dotMark : String := "."

/-- The mark at the end of a way whose last name is followed by a slash alone. -/
def slashMark : String := "/"

def dots (path : Path) : List String := if path.endsInDot then [dotMark] else []

def steps (path : Path) : List String :=
  path.names ++
    if path.endsInDot then path.dots else if path.endsInSlash then [slashMark] else []

def parent? (path : Path) : Option Path :=
  if path.names = [] then none
  else some ⟨(if path.isAbsolute then "/" else "") ++ "/".intercalate path.names.dropLast⟩

def startsInDot (path : Path) : Bool := !path.isAbsolute && path.parts.head? == some "."

def same (left right : Path) : Bool :=
  left.isAbsolute == right.isAbsolute && left.startsInDot == right.startsInDot &&
    left.names == right.names

def maxNameLength : Nat := 255

def maxLength : Nat := 4095

def check (path : Path) : Except Fault Unit :=
  if '\x00' ∈ path.text.toList then .error .nulInPath
  else if path.text = "" then .error .notFound
  else if maxLength < path.text.utf8ByteSize then .error .nameTooLong
  else .ok ()

end Path

end PackageAssay
