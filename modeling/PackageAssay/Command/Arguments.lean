import PackageAssay.Command.Syntax
import PackageAssay.Database.Repository
import PackageAssay.Text.Numeral

/-!
# Reading the command line

The root and the layout file may be given before and after the name of the command, and the later
one counts. An option may stand anywhere among the other arguments; everything after `--` is an
argument.
-/

set_option autoImplicit false

namespace PackageAssay

inductive OptionKey where
  | root
  | layoutFile
  | repository
  | exitCode
  | baseline
  | output
  | track
deriving DecidableEq, Repr

namespace OptionKey

def longName : OptionKey → String
  | .root => "root"
  | .layoutFile => "config"
  | .repository => "repo"
  | .exitCode => "retcode"
  | .baseline => "snapshot"
  | .output => "output"
  | .track => "track"

def shortName? : OptionKey → Option Char
  | .root => some 'r'
  | .layoutFile => some 'c'
  | .output => some 'o'
  | _ => none

def globals : List OptionKey := [.root, .layoutFile]

def repeats (key : OptionKey) : Bool := key == .track

end OptionKey

structure Arguments where
  options : List (OptionKey × String) := []
  positional : List String := []
deriving DecidableEq, Repr

namespace Arguments

def addOption (key : OptionKey) (value : String) (arguments : Arguments) : Arguments :=
  { arguments with options := (key, value) :: arguments.options }

def addPositional (argument : String) (arguments : Arguments) : Arguments :=
  { arguments with positional := argument :: arguments.positional }

/-- Whether an argument is an option; a single hyphen is none. -/
def isOption (argument : String) : Bool :=
  (Text.withoutPrefix "-" argument).any fun rest => rest ≠ ""

def readOption (known : List OptionKey) (argument : String) :
    Option (OptionKey × Option String) :=
  match Text.withoutPrefix "--" argument with
  | some long =>
      let (name, value) := match Text.splitFirst "=" long with
        | some (name, value) => (name, some value)
        | none => (long, none)
      (known.find? fun key => key.longName = name).map fun key => (key, value)
  | none =>
      match argument.toList with
      | _ :: short :: value =>
          let value := match value with
            | [] => none
            | '=' :: value => some (String.ofList value)
            | value => some (String.ofList value)
          (known.find? fun key => key.shortName? = some short).map fun key => (key, value)
      | _ => none

/-- Reads arguments. At the upper level they end before the name of the command, which is returned
with all that follows it. -/
def scan (known : List OptionKey) (upper : Bool) :
    List String → Option (Arguments × List String)
  | [] => some ({}, [])
  | argument :: rest =>
      if argument = "--" then if upper then none else some ({ positional := rest }, [])
      else if isOption argument then
        match readOption known argument with
        | none => none
        | some (key, some value) =>
            (scan known upper rest).map (Prod.map (addOption key value) id)
        | some (key, none) =>
            match rest with
            | [] => none
            | value :: rest =>
                if isOption value then none
                else (scan known upper rest).map (Prod.map (addOption key value) id)
      else if upper then some ({}, argument :: rest)
      else (scan known upper rest).map (Prod.map (addPositional argument) id)

def values (arguments : Arguments) (key : OptionKey) : List String :=
  (arguments.options.filter fun option => option.1 = key).map Prod.snd

def value? (arguments : Arguments) (key : OptionKey) : Option String :=
  (arguments.values key).head?

def consistent (known : List OptionKey) (arguments : Arguments) : Bool :=
  known.all fun key => key.repeats || (arguments.values key).length ≤ 1

end Arguments

namespace Command

def optionsOf : String → Option (List OptionKey)
  | "dump" => some [.repository]
  | "list" => some [.repository]
  | "check" => some [.exitCode, .baseline]
  | "snapshot" => some [.output, .track]
  | "gensync" => some []
  | "inspect" => some []
  | "expand" => some []
  | _ => none

def path? (text : String) : Option Path :=
  if text = "" then none else some ⟨text⟩

def optionalPath? (text : Option String) : Option (Option Path) :=
  match text with
  | none => some none
  | some text => (path? text).map some

def ofArguments? (name : String) (arguments : Arguments) : Option Command := do
  let repository := (arguments.value? .repository).getD Repository.localName
  match name, arguments.positional with
  | "dump", [package] => some (.dump package repository)
  | "list", [] => some (.list repository)
  | "check", rule :: rules => do
      let exitCode ← Numeral.int32? (← arguments.value? .exitCode)
      return .check exitCode (← optionalPath? (arguments.value? .baseline)) (rule :: rules)
  | "snapshot", [] => do
      return .snapshot (← path? (← arguments.value? .output)) (arguments.values .track)
  | "gensync", [repository] => some (.gensync repository)
  | "inspect", [archive] => (path? archive).map .inspect
  | "expand", files => some (.expand files)
  | _, _ => none

end Command

def Invocation.ofArguments? (arguments : List String) : Option Invocation := do
  let (upper, rest) ← Arguments.scan OptionKey.globals true arguments
  match rest with
  | [] => none
  | name :: rest => do
      let known := (← Command.optionsOf name) ++ OptionKey.globals
      let (lower, _) ← Arguments.scan known false rest
      if upper.consistent OptionKey.globals = false ∨ lower.consistent known = false then none
      let paths (key : OptionKey) : Option (List Path) :=
        (lower.values key ++ upper.values key).mapM Command.path?
      let roots ← paths .root
      let layoutFiles ← paths .layoutFile
      return ⟨roots.headD ⟨"."⟩, layoutFiles.head?, ← Command.ofArguments? name lower⟩

end PackageAssay
