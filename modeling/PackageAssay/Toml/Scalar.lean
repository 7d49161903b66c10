import PackageAssay.Json.Parse

set_option autoImplicit false

namespace PackageAssay.Toml

def isSpace (c : Char) : Bool := c == ' ' || c == '\t'

def skipSpace (text : List Char) : List Char := text.dropWhile isSpace

def readNewline : List Char → Option (List Char)
  | '\n' :: rest => some rest
  | '\r' :: '\n' :: rest => some rest
  | _ => none

def isPlain (c : Char) : Bool := c == '\t' || (0x20 ≤ c.toNat && c.toNat != 0x7f)

def readCode (digits : List Char) : Option Char := do
  let code ← Json.hexCode? digits
  if code.isValidChar then some (Char.ofNat code) else none

def readEscape : List Char → Option (Char × List Char)
  | 'b' :: rest => some ('\x08', rest)
  | 't' :: rest => some ('\t', rest)
  | 'n' :: rest => some ('\n', rest)
  | 'f' :: rest => some ('\x0c', rest)
  | 'r' :: rest => some ('\r', rest)
  | '"' :: rest => some ('"', rest)
  | '\\' :: rest => some ('\\', rest)
  | 'u' :: rest =>
      if rest.length < 4 then none else (readCode (rest.take 4)).map (·, rest.drop 4)
  | 'U' :: rest =>
      if rest.length < 8 then none else (readCode (rest.take 8)).map (·, rest.drop 8)
  | _ => none

/-- A string on one line, with escapes, up to its closing quote. The fuel bounds its length. -/
def readBasic : Nat → List Char → Option (List Char × List Char)
  | 0, _ => none
  | _ + 1, [] => none
  | _ + 1, '"' :: rest => some ([], rest)
  | fuel + 1, '\\' :: rest => do
      let (c, rest) ← readEscape rest
      let (text, after) ← readBasic fuel rest
      return (c :: text, after)
  | fuel + 1, c :: rest =>
      if isPlain c then do
        let (text, after) ← readBasic fuel rest
        return (c :: text, after)
      else none

def readLiteral (text : List Char) : Option (List Char × List Char) :=
  match text.dropWhile (· ≠ '\'') with
  | _ :: after =>
      let content := text.takeWhile (· ≠ '\'')
      if content.all isPlain then some (content, after) else none
  | [] => none

/-- The end of a string that three quotes close: up to two more may stand before them. -/
def readClosingQuotes (quote : Char) (text : List Char) : Option (List Char × List Char) :=
  let quotes := text.takeWhile (· == quote)
  if 3 ≤ quotes.length ∧ quotes.length ≤ 5 then
    some (quotes.drop 3, text.dropWhile (· == quote))
  else none

def skipLineContinuation (text : List Char) : Option (List Char) :=
  (readNewline (skipSpace text)).map fun rest =>
    rest.dropWhile fun c => isSpace c || c == '\n' || c == '\r'

def carriageReturnsPaired : List Char → Bool
  | [] => true
  | '\r' :: rest => rest.head? == some '\n' && carriageReturnsPaired rest
  | _ :: rest => carriageReturnsPaired rest

/-- A string of several lines, with escapes when `escapes` is set. A line end in it is a line
feed. -/
def readMultiline (quote : Char) (escapes : Bool) : Nat → List Char → Option (List Char × List Char)
  | 0, _ => none
  | _ + 1, [] => none
  | fuel + 1, c :: rest =>
      if c = quote then
        match readClosingQuotes quote (c :: rest) with
        | some (quotes, after) => some (quotes, after)
        | none =>
            if 6 ≤ ((c :: rest).takeWhile (· == quote)).length then none
            else do
              let (text, after) ← readMultiline quote escapes fuel rest
              return (c :: text, after)
      else if c = '\\' ∧ escapes then
        match skipLineContinuation rest with
        | some continued =>
            if carriageReturnsPaired ((rest.take (rest.length - continued.length))) then
              readMultiline quote escapes fuel continued
            else none
        | none => do
            let (c, rest) ← readEscape rest
            let (text, after) ← readMultiline quote escapes fuel rest
            return (c :: text, after)
      else
        match readNewline (c :: rest) with
        | some rest => do
            let (text, after) ← readMultiline quote escapes fuel rest
            return ('\n' :: text, after)
        | none =>
            if isPlain c then do
              let (text, after) ← readMultiline quote escapes fuel rest
              return (c :: text, after)
            else none

def dropFirstNewline (text : List Char) : List Char := (readNewline text).getD text

def readString (text : List Char) : Option (List Char × List Char) :=
  match text with
  | '"' :: '"' :: '"' :: rest => readMultiline '"' true (text.length + 1) (dropFirstNewline rest)
  | '"' :: rest => readBasic (text.length + 1) rest
  | '\'' :: '\'' :: '\'' :: rest =>
      readMultiline '\'' false (text.length + 1) (dropFirstNewline rest)
  | '\'' :: rest => readLiteral rest
  | _ => none

def readUnderscored (isDigit : Char → Bool) (text : List Char) : Option (List Char × List Char) :=
  let run := text.takeWhile fun c => isDigit c || c == '_'
  let digits := run.filter (· ≠ '_')
  let wellPlaced := (run.head?.map isDigit).getD false && (run.getLast?.map isDigit).getD false &&
    (run.zip (run.drop 1)).all fun (left, right) => isDigit left || isDigit right
  if wellPlaced then some (digits, text.drop run.length) else none

def readPlusMinus : List Char → List Char × List Char
  | '+' :: rest => ([], rest)
  | '-' :: rest => (['-'], rest)
  | text => ([], text)

def readDecimal (text : List Char) : Option (List Char × List Char) :=
  let (sign, rest) := readPlusMinus text
  match rest with
  | '0' :: rest => some (sign ++ ['0'], rest)
  | rest => (readUnderscored Char.isDigit rest).map fun (digits, after) => (sign ++ digits, after)

def readBased : List Char → Option (List Char)
  | '0' :: mark :: rest => do
      let base ← match mark with
        | 'x' => some 16
        | 'o' => some 8
        | 'b' => some 2
        | _ => none
      let isDigit (c : Char) : Bool := ((Json.hexDigit? c).map (decide <| · < base)).getD false
      let (digits, after) ← readUnderscored isDigit rest
      let value := digits.foldl (fun value c => base * value + (Json.hexDigit? c).getD 0) 0
      if value < 1 <<< 63 then some after else none
  | _ => none

def readExponent (text : List Char) : Option (Option (List Char) × List Char) :=
  match text with
  | [] => some (none, [])
  | mark :: rest =>
      if mark = 'e' ∨ mark = 'E' then
        let (sign, rest) := readPlusMinus rest
        (readUnderscored Char.isDigit rest).map fun (digits, after) => (some (sign ++ digits), after)
      else some (none, text)

def readFraction : List Char → Option (Option (List Char) × List Char)
  | '.' :: rest => (readUnderscored Char.isDigit rest).map fun (digits, after) => (some digits, after)
  | text => some (none, text)

/-- Whether `digits · 10^exponent` is too great for a double: it rounds to 2^1024 or more. -/
def exceedsDouble (digits : List Char) (exponent : Int) : Bool :=
  let value := Nat.ofDigitChars 10 digits 0
  let bound := 1 <<< 1024 - 1 <<< 970
  if value = 0 then false
  else if 400 < exponent then true
  else if exponent < -(digits.length : Int) then false
  else if 0 ≤ exponent then bound ≤ value * Nat.pow 10 exponent.toNat
  else bound * Nat.pow 10 (-exponent).toNat ≤ value

/-- A number with a fraction or an exponent. One that is too great is refused, unless it is
negative. -/
def readFloat (text : List Char) : Option (List Char) := do
  let (whole, rest) ← readDecimal text
  let (fraction, rest) ← readFraction rest
  let (exponent, rest) ← readExponent rest
  if fraction.isNone ∧ exponent.isNone then none
  else
    let fraction := fraction.getD []
    let scale := ((exponent.bind Numeral.integer?).getD 0) - (fraction.length : Int)
    if whole.head? = some '-' then some rest
    else if exceedsDouble (whole ++ fraction) scale then none
    else some rest

def readSpecialFloat (text : List Char) : Option (List Char) :=
  match (readPlusMinus text).2 with
  | 'i' :: 'n' :: 'f' :: rest => some rest
  | 'n' :: 'a' :: 'n' :: rest => some rest
  | _ => none

def readInteger (text : List Char) : Option (List Char) :=
  match text with
  | '0' :: 'x' :: _ | '0' :: 'o' :: _ | '0' :: 'b' :: _ => readBased text
  | _ => do
      let (numeral, rest) ← readDecimal text
      let value ← Numeral.integer? numeral
      if (Numeral.toInt64? value).isSome then some rest else none

def readCount (size : Nat) (text : List Char) : Option (Nat × List Char) :=
  let digits := text.take size
  if digits.length = size ∧ digits.all Char.isDigit then
    some (Nat.ofDigitChars 10 digits 0, text.drop size)
  else none

def readMark (mark : Char) : List Char → Option (List Char)
  | c :: rest => if c = mark then some rest else none
  | [] => none

def daysOfMonth (year month : Nat) : Nat :=
  if month = 2 then
    if year % 4 = 0 ∧ (year % 100 ≠ 0 ∨ year % 400 = 0) then 29 else 28
  else if month = 4 ∨ month = 6 ∨ month = 9 ∨ month = 11 then 30
  else 31

def readDate (text : List Char) : Option (List Char) := do
  let (year, rest) ← readCount 4 text
  let rest ← readMark '-' rest
  let (month, rest) ← readCount 2 rest
  let rest ← readMark '-' rest
  let (day, rest) ← readCount 2 rest
  if 1 ≤ month ∧ month ≤ 12 ∧ 1 ≤ day ∧ day ≤ daysOfMonth year month then some rest else none

def readTime (text : List Char) : Option (List Char) := do
  let (hour, rest) ← readCount 2 text
  let rest ← readMark ':' rest
  let (minute, rest) ← readCount 2 rest
  let rest ← readMark ':' rest
  let (second, rest) ← readCount 2 rest
  if 23 < hour ∨ 59 < minute ∨ 60 < second then none
  else
    match rest with
    | '.' :: digits =>
        if (digits.head?.map Char.isDigit).getD false then some (digits.dropWhile Char.isDigit)
        else some rest
    | rest => some rest

def readOffset (text : List Char) : Option (List Char) :=
  match text with
  | 'Z' :: rest | 'z' :: rest => some rest
  | '+' :: rest | '-' :: rest => do
      let (hour, rest) ← readCount 2 rest
      let rest ← readMark ':' rest
      let (minute, rest) ← readCount 2 rest
      if hour ≤ 23 ∧ minute ≤ 59 then some rest else none
  | text => some text

def readDateTime (text : List Char) : Option (List Char) :=
  match readDate text with
  | none => readTime text
  | some rest =>
      match rest with
      | [] => some []
      | mark :: more =>
          if mark = 'T' ∨ mark = 't' ∨ mark = ' ' then
            match readTime more with
            | some after => readOffset after
            | none => some rest
          else some rest

def readScalar (text : List Char) : Option (List Char) :=
  match text with
  | 't' :: 'r' :: 'u' :: 'e' :: rest => some rest
  | 'f' :: 'a' :: 'l' :: 's' :: 'e' :: rest => some rest
  | text =>
      ((readDateTime text).or (readFloat text)).or ((readSpecialFloat text).or (readInteger text))

end PackageAssay.Toml
