import PackageAssay.Error
import PackageAssay.Package.Record
import PackageAssay.Text.Blank
import PackageAssay.Text.Numeral
import PackageAssay.Text.Split

/-!
# Reading framed sections

A reader walks over the lines of a file. At a title line that it knows it takes the body of the
section, and all other lines it passes over. What was read before an error stays in the record.
-/

set_option autoImplicit false

namespace PackageAssay

def titleOf (line : String) : Option String :=
  match Text.withoutPrefix "%" line with
  | none => none
  | some rest =>
      match Text.withoutSuffix "%" rest with
      | none => none
      | some title => if title = "" then none else some title

inductive Field where
  | scalar (store : String → PackageRecord → PackageRecord)
  /-- The lines up to the next empty one. -/
  | list (store : List String → PackageRecord → PackageRecord)
  | integer (store : Int64 → PackageRecord → PackageRecord)
  | smallInteger (store : Int32 → PackageRecord → PackageRecord)
  /-- The next line, if there is one, is taken and ignored. -/
  | flag (store : PackageRecord → PackageRecord)

namespace Field

def scalarBody (file : SectionKey) (title : String) : List String → Except Error String
  | [] => .error (.malformedSection file title)
  | line :: _ => .ok line

def listBody (lines : List String) : List String :=
  lines.takeWhile (· ≠ "")

def integerBody (file : SectionKey) (title : String) (lines : List String) :
    Except Error Int64 := do
  let value ← scalarBody file title lines
  match Numeral.int64? (Text.trim value) with
  | some number => return number
  | none => throw (.invalidInteger file title value)

def smallIntegerBody (file : SectionKey) (title : String) (lines : List String) :
    Except Error Int32 := do
  let value ← integerBody file title lines
  match Numeral.toInt32? value.toInt with
  | some number => return number
  | none => throw (.invalidInteger file title (toString value.toInt))

def fill (field : Field) (file : SectionKey) (title : String) (lines : List String)
    (record : PackageRecord) : Except Error PackageRecord :=
  match field with
  | .scalar store => (scalarBody file title lines).map (store · record)
  | .list store => .ok (store (listBody lines) record)
  | .integer store => (integerBody file title lines).map (store · record)
  | .smallInteger store => (smallIntegerBody file title lines).map (store · record)
  | .flag store => .ok (store record)

def after (field : Field) (lines : List String) : List String :=
  match field with
  | .list _ => (lines.dropWhile (· ≠ "")).drop 1
  | _ => lines.drop 1

theorem length_after_le (field : Field) (lines : List String) :
    (field.after lines).length ≤ lines.length := by
  have shorter : ((lines.dropWhile (· ≠ "")).drop 1).length ≤ lines.length := by
    have := (List.dropWhile_suffix (fun line => decide (line ≠ "")) (l := lines)).length_le
    simp only [List.length_drop]
    omega
  cases field with
  | list store => exact shorter
  | scalar store | integer store | smallInteger store | flag store => simp [after]

end Field

/-- What a reader leaves: the record as far as it was filled, and the error that stopped it. -/
structure Decoded where
  record : PackageRecord
  failure : Option Error
deriving DecidableEq

def Decoded.result (decoded : Decoded) : Except Error PackageRecord :=
  match decoded.failure with
  | none => .ok decoded.record
  | some error => .error error

def decodeLines (file : SectionKey) (fields : String → Option Field) :
    List String → PackageRecord → Decoded
  | [], record => ⟨record, none⟩
  | line :: rest, record =>
      match titleOf line with
      | none => decodeLines file fields rest record
      | some title =>
          match fields title with
          | none => decodeLines file fields rest record
          | some field =>
              match field.fill file title rest record with
              | .error error => ⟨record, some error⟩
              | .ok filled => decodeLines file fields (field.after rest) filled
termination_by lines => lines.length
decreasing_by
  all_goals simp only [List.length_cons]
  · omega
  · omega
  · have := field.length_after_le rest; omega

end PackageAssay
