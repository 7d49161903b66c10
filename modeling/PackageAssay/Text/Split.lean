/-!
# Cutting text at a separator

The first occurrence of a separator decides where a text is cut in two; the last one is the first
one of the reversed text.
-/

set_option autoImplicit false

namespace PackageAssay.Text

def splitFirstChars (separator : List Char) : List Char → Option (List Char × List Char)
  | [] => if separator = [] then some ([], []) else none
  | head :: tail =>
      match separator.isPrefixOf? (head :: tail) with
      | some after => some ([], after)
      | none => (splitFirstChars separator tail).map (Prod.map (head :: ·) id)

def splitFirst (separator text : String) : Option (String × String) :=
  (splitFirstChars separator.toList text.toList).map (Prod.map String.ofList String.ofList)

def splitLast (separator text : String) : Option (String × String) :=
  (splitFirstChars separator.toList.reverse text.toList.reverse).map fun (after, before) =>
    (String.ofList before.reverse, String.ofList after.reverse)

def withoutPrefix (lead text : String) : Option String :=
  (lead.toList.isPrefixOf? text.toList).map String.ofList

def withoutSuffix (ending text : String) : Option String :=
  (ending.toList.isSuffixOf? text.toList).map String.ofList

def endsWithChar (last : Char) (text : String) : Bool :=
  text.toList.getLast? == some last

def occursIn (pattern : List Char) : List Char → Bool
  | [] => pattern.isEmpty
  | head :: tail => pattern.isPrefixOf (head :: tail) || occursIn pattern tail

def pieces {α : Type} [DecidableEq α] (separator : α) : List α → List (List α)
  | [] => [[]]
  | head :: tail =>
      if head = separator then [] :: pieces separator tail
      else
        match pieces separator tail with
        | [] => [[head]]
        | piece :: rest => (head :: piece) :: rest

end PackageAssay.Text
