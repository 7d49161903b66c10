/-!
# TOML tables

A table remembers how it came about, because that decides which later lines may extend it. Of the
values only texts are told apart: every other value is kept as `other`.
-/

set_option autoImplicit false

namespace PackageAssay.Toml

inductive TableForm where
  /-- The table has a header of its own, or is the whole document. -/
  | headed
  /-- Only a header of a table below it names the table. -/
  | implied
  /-- The table was made by a dotted key. -/
  | dotted
deriving DecidableEq, Repr

inductive Item where
  | text (value : String)
  | other
  | table (form : TableForm) (entries : List (String × Item))
  /-- An array of tables, of which only the last can still be extended. -/
  | tables (last : List (String × Item))

abbrev Entries := List (String × Item)

def setItem (key : String) (item : Item) (entries : Entries) : Entries :=
  (key, item) :: entries.filter fun entry => entry.1 ≠ key

/-- Changes the table at the end of a path, making the tables on the way that are not there yet.
A dotted key cannot go through a table that has a header. -/
def alterTable (isDotted : Bool) (change : TableForm → Entries → Option (TableForm × Entries)) :
    List String → TableForm → Entries → Option (TableForm × Entries)
  | [], form, entries => change form entries
  | key :: path, form, entries =>
      match entries.lookup key with
      | none => do
          let made := if isDotted then TableForm.dotted else TableForm.implied
          let (form', below) ← alterTable isDotted change path made []
          return (form, setItem key (.table form' below) entries)
      | some (.table childForm below) =>
          if isDotted ∧ childForm = .headed then none
          else do
            let (form', below) ← alterTable isDotted change path childForm below
            return (form, setItem key (.table form' below) entries)
      | some (.tables below) => do
          let (_, below) ← alterTable isDotted change path .headed below
          return (form, setItem key (.tables below) entries)
      | some _ => none

def bind (path : List String) (key : String) (item : Item) (form : TableForm) (entries : Entries) :
    Option (TableForm × Entries) :=
  alterTable true (fun form entries =>
    if path ≠ [] ∧ form ≠ .dotted then none
    else if (entries.lookup key).isSome then none
    else some (form, setItem key item entries)) path form entries

def openTable (path : List String) (key : String) (entries : Entries) : Option Entries :=
  (alterTable false (fun form entries =>
    match entries.lookup key with
    | none => some (form, setItem key (.table .headed []) entries)
    | some (.table .implied below) => some (form, setItem key (.table .headed below) entries)
    | some _ => none) path .headed entries).map Prod.snd

def openNextTable (path : List String) (key : String) (entries : Entries) : Option Entries :=
  (alterTable false (fun form entries =>
    match entries.lookup key with
    | none | some (.tables _) => some (form, setItem key (.tables []) entries)
    | some _ => none) path .headed entries).map Prod.snd

def bindBelow (header path : List String) (key : String) (item : Item) (entries : Entries) :
    Option Entries :=
  (alterTable false (bind path key item) header .headed entries).map Prod.snd

end PackageAssay.Toml
