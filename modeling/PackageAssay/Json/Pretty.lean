import PackageAssay.Json.Value

set_option autoImplicit false

namespace PackageAssay.Json

def hexDigits (code : Nat) : List Char :=
  [code / 0x1000 % 16, code / 0x100 % 16, code / 0x10 % 16, code % 16].map Nat.digitChar

def writeCode (code : Nat) : List Char :=
  if code = 0x22 then ['\\', '"']
  else if code = 0x5c then ['\\', '\\']
  else if code = 0x08 then ['\\', 'b']
  else if code = 0x0c then ['\\', 'f']
  else if code = 0x0a then ['\\', 'n']
  else if code = 0x0d then ['\\', 'r']
  else if code = 0x09 then ['\\', 't']
  else if code < 0x20 ∨ (0xd800 ≤ code ∧ code ≤ 0xdfff) then '\\' :: 'u' :: hexDigits code
  else [Char.ofNat code]

def writeString (codes : List Nat) : List Char :=
  '"' :: codes.flatMap writeCode ++ ['"']

def newLine (level : Nat) : List Char := '\n' :: List.replicate (2 * level) ' '

mutual

def write (level : Nat) : Json → List Char
  | .null => ['n', 'u', 'l', 'l']
  | .bool true => ['t', 'r', 'u', 'e']
  | .bool false => ['f', 'a', 'l', 's', 'e']
  | .number numeral => numeral.toList
  | .string codes => writeString codes
  | .array [] => ['[', ']']
  | .array (item :: items) =>
      '[' :: newLine (level + 1) ++ write (level + 1) item ++ writeItems (level + 1) items ++
        newLine level ++ [']']
  | .object [] => ['\x7b', '\x7d']
  | .object ((name, value) :: members) =>
      '\x7b' :: newLine (level + 1) ++ writeString name ++ [':', ' '] ++ write (level + 1) value ++
        writeMembers (level + 1) members ++ newLine level ++ ['\x7d']

def writeItems (level : Nat) : List Json → List Char
  | [] => []
  | item :: items => ',' :: newLine level ++ write level item ++ writeItems level items

def writeMembers (level : Nat) : List (List Nat × Json) → List Char
  | [] => []
  | (name, value) :: members =>
      ',' :: newLine level ++ writeString name ++ [':', ' '] ++ write level value ++
        writeMembers level members

end

def pretty (value : Json) : String := String.ofList (write 0 value)

def insertMember (member : List Nat × Json) : List (List Nat × Json) → List (List Nat × Json)
  | [] => [member]
  | head :: rest =>
      if member.1 < head.1 then member :: head :: rest else head :: insertMember member rest

mutual

def sortMembers : Json → Json
  | .array items => .array (sortMembersOfItems items)
  | .object members => .object (sortedMembers members)
  | value => value

def sortMembersOfItems : List Json → List Json
  | [] => []
  | item :: items => sortMembers item :: sortMembersOfItems items

def sortedMembers : List (List Nat × Json) → List (List Nat × Json)
  | [] => []
  | (name, value) :: members => insertMember (name, sortMembers value) (sortedMembers members)

end

end PackageAssay.Json
