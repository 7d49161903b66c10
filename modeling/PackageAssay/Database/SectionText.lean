import PackageAssay.Text.Lines

/-!
# Framed sections

A file of a database entry is a sequence of sections. A section is a title line `%TITLE%` and a
body of one or more lines; a blank line follows each section.
-/

set_option autoImplicit false

namespace PackageAssay

structure Section where
  title : String
  body : String
deriving DecidableEq, Repr

namespace Section

def header (title : String) : String := "%" ++ title ++ "%"

def text (part : Section) : String :=
  header part.title ++ "\n" ++ part.body ++ "\n"

def always (title body : String) : List Section := [⟨title, body⟩]

def scalar (title value : String) : List Section :=
  if value = "" then [] else always title value

def list (title : String) (items : List String) : List Section :=
  if items.isEmpty then [] else always title (Text.joinLines items)

def integer (title : String) (value : Int) : List Section :=
  if value = 0 then [] else always title (toString value)

def flag (title : String) (isSet : Bool) : List Section :=
  if isSet then always title "" else []

def render (parts : List Section) : String :=
  if parts.isEmpty then "" else Text.joinLines (parts.map text) ++ "\n"

end Section

end PackageAssay
