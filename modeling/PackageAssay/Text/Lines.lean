/-!
# Lines of a text

A line ends with a line feed, before which one carriage return belongs to the line end as well.
The last line may lack its line feed; a carriage return at its end is then part of the line.
-/

set_option autoImplicit false

namespace PackageAssay.Text

def prependToSegments (head : Char) : List (List Char) → List (List Char)
  | [] => [[head]]
  | segment :: rest =>
      if head = '\n' then ['\n'] :: segment :: rest else (head :: segment) :: rest

def segments (text : List Char) : List (List Char) :=
  text.foldr prependToSegments []

def dropLineEnd (segment : List Char) : List Char :=
  match ['\n'].isSuffixOf? segment with
  | none => segment
  | some line => (['\r'].isSuffixOf? line).getD line

def lines (text : String) : List String :=
  (segments text.toList).map fun segment => String.ofList (dropLineEnd segment)

def joinLines (items : List String) : String :=
  "\n".intercalate items

end PackageAssay.Text
