import PackageAssay.Toml.Scalar
import PackageAssay.Toml.Table

set_option autoImplicit false

namespace PackageAssay.Toml

/-- The number of parts of a dotted key, and of arrays and inline tables within each other, that
is refused. -/
def nestingLimit : Nat := 80

def skipComment (text : List Char) : List Char :=
  match text with
  | '#' :: rest => rest.dropWhile isPlain
  | text => text

def readLineEnd (text : List Char) : Option (List Char) :=
  match skipComment (skipSpace text) with
  | [] => some []
  | rest => readNewline rest

/-- Skips spaces, comments and line ends. The fuel bounds the number of lines. -/
def skipLines : Nat → List Char → List Char
  | 0, text => text
  | fuel + 1, text =>
      let rest := skipSpace text
      match readNewline (skipComment rest) with
      | some after => skipLines fuel after
      | none => rest

def isBare (c : Char) : Bool :=
  ('a' ≤ c && c ≤ 'z') || ('A' ≤ c && c ≤ 'Z') || c.isDigit || c == '-' || c == '_'

def readKeyPart (text : List Char) : Option (String × List Char) :=
  match text with
  | '"' :: rest => (readBasic (text.length + 1) rest).map (Prod.map String.ofList id)
  | '\'' :: rest => (readLiteral rest).map (Prod.map String.ofList id)
  | text =>
      let bare := text.takeWhile isBare
      if bare = [] then none else some (String.ofList bare, text.dropWhile isBare)

def readKeyParts : Nat → List Char → Option (List String × List Char)
  | 0, _ => none
  | fuel + 1, text => do
      let (part, rest) ← readKeyPart (skipSpace text)
      match skipSpace rest with
      | '.' :: rest =>
          let (parts, after) ← readKeyParts fuel rest
          return (part :: parts, after)
      | rest => return ([part], rest)

def readKey (text : List Char) : Option (List String × String × List Char) := do
  let (parts, rest) ← readKeyParts (nestingLimit - 1) text
  let key ← parts.getLast?
  return (parts.dropLast, key, rest)

def readItems (value : List Char → Option (Item × List Char)) : Nat → List Char →
    Option (List Char)
  | 0, _ => none
  | fuel + 1, text =>
      match skipLines text.length text with
      | ']' :: after => some after
      | start => do
          let (_, rest) ← value start
          match skipLines rest.length rest with
          | ']' :: after => some after
          | ',' :: rest => readItems value fuel rest
          | _ => none

def readBinding (value : List Char → Option (Item × List Char)) (text : List Char) :
    Option ((List String × String × Item) × List Char) := do
  let (path, key, rest) ← readKey text
  let rest ← readMark '=' rest
  let (item, rest) ← value (skipSpace rest)
  return ((path, key, item), rest)

def readInlineTable (value : List Char → Option (Item × List Char)) : Nat → Entries → List Char →
    Option (List Char)
  | 0, _, _ => none
  | fuel + 1, entries, text => do
      let ((path, key, item), rest) ← readBinding value text
      let (_, entries) ← bind path key item .headed entries
      match skipSpace rest with
      | '\x7d' :: after => some after
      | ',' :: rest => readInlineTable value fuel entries rest
      | _ => none

/-- A value with arrays and inline tables nested to at most the given depth. -/
def readValue : Nat → List Char → Option (Item × List Char)
  | depth, text =>
      match text with
      | '"' :: _ | '\'' :: _ =>
          (readString text).map fun (value, after) => (.text (String.ofList value), after)
      | '[' :: rest =>
          match depth with
          | 0 => none
          | depth + 1 => (readItems (readValue depth) (rest.length + 1) rest).map (Item.other, ·)
      | '\x7b' :: rest =>
          match depth with
          | 0 => none
          | depth + 1 =>
              match skipSpace rest with
              | '\x7d' :: after => some (.other, after)
              | _ => (readInlineTable (readValue depth) (rest.length + 1) [] rest).map (Item.other, ·)
      | _ => (readScalar text).map (Item.other, ·)
termination_by depth => depth

structure Draft where
  entries : Entries := []
  header : List String := []

def readLine (draft : Draft) (text : List Char) : Option (Draft × List Char) :=
  match text with
  | '[' :: '[' :: rest => do
      let (path, key, rest) ← readKey rest
      let rest ← readMark ']' rest
      let rest ← readMark ']' rest
      let entries ← openNextTable path key draft.entries
      return (⟨entries, path ++ [key]⟩, ← readLineEnd rest)
  | '[' :: rest => do
      let (path, key, rest) ← readKey rest
      let rest ← readMark ']' rest
      let entries ← openTable path key draft.entries
      return (⟨entries, path ++ [key]⟩, ← readLineEnd rest)
  | '#' :: _ | '\n' :: _ | '\r' :: _ => (readLineEnd text).map (draft, ·)
  | text => do
      let ((path, key, item), rest) ← readBinding (readValue (nestingLimit - 1)) text
      let entries ← bindBelow draft.header path key item draft.entries
      return ({ draft with entries := entries }, ← readLineEnd rest)

def readDocument : Nat → Draft → List Char → Option Entries
  | 0, _, _ => none
  | fuel + 1, draft, text =>
      match skipSpace text with
      | [] => some draft.entries
      | start => do
          let (draft, rest) ← readLine draft start
          readDocument fuel draft rest

def dropByteOrderMark : List Char → List Char
  | '\ufeff' :: rest => rest
  | text => text

def parse? (text : String) : Option Entries :=
  readDocument (text.length + 1) {} (dropByteOrderMark text.toList)

end PackageAssay.Toml
