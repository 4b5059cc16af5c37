import PropertyReflection.Toml.Scan

/-!
# Strings, numbers and dates of TOML

Strings are read for what they say.  Numbers and dates only have to be well formed and in range,
because no setting is a number or a date.

An integer has 64 bits and a sign.  A number with a fraction or an exponent is one in double
precision, and must not be so large that it rounds to positive infinity.
-/

namespace PropertyReflection

namespace Toml

/-- The value of a hexadecimal digit. -/
def hexValue? (c : Char) : Option Nat :=
  if '0' ≤ c ∧ c ≤ '9' then some (c.toNat - '0'.toNat)
  else if 'a' ≤ c ∧ c ≤ 'f' then some (c.toNat - 'a'.toNat + 10)
  else if 'A' ≤ c ∧ c ≤ 'F' then some (c.toNat - 'A'.toNat + 10)
  else none

/-- The number that digits in a base stand for. -/
def numberOf (base : Nat) (digits : List Char) : Nat :=
  digits.foldl (fun n c => n * base + (hexValue? c).getD 0) 0

/-- True of the digits of a base. -/
def isDigitOf (base : Nat) (c : Char) : Bool :=
  (hexValue? c).any (· < base)

/-! ## Strings -/

/-- Take the character with a code point of `count` hexadecimal digits. -/
def codePoint (count : Nat) : Scan Char := fun text =>
  let digits := text.take count
  let code := numberOf 16 digits
  if digits.length = count ∧ digits.all (isDigitOf 16) ∧ code.isValidChar then
    some (Char.ofNat code, text.drop count)
  else none

/-- Take what follows the backslash of an escaped character. -/
def escaped : Scan Char := do
  match ← satisfying fun _ => true with
  | 'b' => return Char.ofNat 0x08
  | 't' => return '\t'
  | 'n' => return '\n'
  | 'f' => return Char.ofNat 0x0c
  | 'r' => return '\r'
  | '"' => return '"'
  | '\\' => return '\\'
  | 'u' => codePoint 4
  | 'U' => codePoint 8
  | _ => failure

/-- Take one character of a string in double quotes. -/
def basicChar : Scan Char :=
  satisfying (fun c => isPlain c && c != '"' && c != '\\') <|> (char '\\' *> escaped)

/-- Take a string in double quotes on one line. -/
def basicString : Scan (List Char) := do
  char '"'
  let cs ← many basicChar
  char '"'
  return cs

/-- Take a string in single quotes on one line, in which nothing is escaped. -/
def literalString : Scan (List Char) := do
  char '\''
  let cs ← span fun c => isPlain c && c != '\''
  char '\''
  return cs

/-- Take one or two quotes inside a string that ends with three. -/
def innerQuotes (quote : Char) : Scan (List Char) := fun text =>
  let run := text.takeWhile (· == quote)
  if run.length = 1 ∨ run.length = 2 then some (run, text.drop run.length) else none

/-- Take the three quotes that end a string, and before them up to two that belong to it. -/
def closingQuotes (quote : Char) : Scan (List Char) := fun text =>
  let run := (text.takeWhile (· == quote)).take 5
  if 3 ≤ run.length then some (run.drop 3, text.drop run.length) else none

/-- Take a backslash at the end of a line, with all blanks and line ends behind it. -/
def lineContinuation : Scan Unit := do
  char '\\'
  blanks
  newline
  let _ ← many (newline <|> (satisfying (fun c => c == ' ' || c == '\t') *> pure ()))

/-- Take a string between triple quotes, whose pieces are given.  A line end right behind the
opening quotes does not belong to it. -/
def multilineString (quote : Char) (piece : Scan (List Char)) : Scan (List Char) := do
  word [quote, quote, quote]
  let _ ← optional newline
  let pieces ← many (innerQuotes quote <|> (newline *> pure ['\n']) <|> piece)
  let last ← closingQuotes quote
  return pieces.flatten ++ last

/-- Take a string over several lines in double quotes. -/
def multilineBasicString : Scan (List Char) :=
  multilineString '"' ((lineContinuation *> pure []) <|> (([·]) <$> basicChar))

/-- Take a string over several lines in single quotes. -/
def multilineLiteralString : Scan (List Char) :=
  multilineString '\'' (([·]) <$> satisfying fun c => isPlain c && c != '\'')

/-- Take a string of any of the four forms. -/
def string : Scan String :=
  String.ofList <$>
    (multilineBasicString <|> basicString <|> multilineLiteralString <|> literalString)

/-! ## Numbers -/

/-- Take digits that may have single underscores between them, and drop the underscores. -/
def digits (base : Nat) : Scan (List Char) := fun text =>
  let run := text.takeWhile fun c => isDigitOf base c || c == '_'
  let isBad := run.head? == some '_' || run.getLast? == some '_'
    || (run.zip (run.drop 1)).any (fun (a, b) => a == '_' && b == '_')
  if run.isEmpty || isBad then none
  else some (run.filter (· != '_'), text.drop run.length)

/-- Take a sign, and tell whether it is a minus. -/
def sign : Scan Bool := do
  return (← optional (satisfying fun c => c == '+' || c == '-')) == some '-'

/-- Take the digits of a decimal integer, which begin with zero only if they are a single one. -/
def decimalDigits : Scan (List Char) :=
  (char '0' *> pure ['0']) <|> do
    if (← next?) == some '0' then failure
    digits 10

/-- The largest integer that a document may hold. -/
def maxInteger : Nat := 0x7fffffffffffffff

/-- Take an integer in base 2, 8 or 16. -/
def radixInteger : Scan Unit := do
  char '0'
  let base : Nat ← match ← satisfying fun _ => true with
    | 'x' => pure 16
    | 'o' => pure 8
    | 'b' => pure 2
    | _ => failure
  let ds ← digits base
  guard (numberOf base ds ≤ maxInteger)

/-- Take a decimal integer. -/
def decimalInteger : Scan Unit := do
  let negative ← sign
  let n := numberOf 10 (← decimalDigits)
  guard (n ≤ if negative then maxInteger + 1 else maxInteger)

/-- True if `mantissa` times ten to the power `exponent` rounds to infinity in double precision: it
is not below the midpoint between the largest finite number and the power of two above it. -/
def roundsToInfinity (mantissa : List Char) (exponent : Int) : Bool :=
  let significant := mantissa.dropWhile (· == '0')
  let magnitude : Int := significant.length + exponent
  let midpoint : Nat := (1 <<< 1024) - (1 <<< 970)
  if significant.isEmpty || decide (magnitude < 309) then false
  else if 309 < magnitude then true
  else
    let n := numberOf 10 significant
    if 0 ≤ exponent then decide (midpoint ≤ n * Nat.pow 10 exponent.toNat)
    else decide (midpoint * Nat.pow 10 (-exponent).toNat ≤ n)

/-- Take an exponent and give its value. -/
def exponent : Scan Int := do
  let _ ← satisfying fun c => c == 'e' || c == 'E'
  let negative ← sign
  let n : Int := numberOf 10 (← digits 10)
  return if negative then -n else n

/-- Take a number with a fraction, an exponent, or both. -/
def decimalFloat : Scan Unit := do
  let negative ← sign
  let whole ← decimalDigits
  let fraction ← optional (char '.' *> digits 10)
  let power ← optional exponent
  guard (fraction.isSome || power.isSome)
  let fraction := fraction.getD []
  guard (negative || !roundsToInfinity (whole ++ fraction) (power.getD 0 - fraction.length))

/-- Take an infinity or a number that is none, spelled out. -/
def specialFloat : Scan Unit := do
  let _ ← sign
  word ['i', 'n', 'f'] <|> word ['n', 'a', 'n']

/-- Take a number of any form. -/
def number : Scan Unit :=
  decimalFloat <|> specialFloat <|> radixInteger <|> decimalInteger

/-! ## Dates and times -/

/-- Take a number of exactly `count` decimal digits that lies in a range. -/
def fixedNumber (count low high : Nat) : Scan Nat := fun text =>
  let ds := text.take count
  let n := numberOf 10 ds
  if ds.length = count ∧ ds.all (isDigitOf 10) ∧ low ≤ n ∧ n ≤ high then
    some (n, text.drop count)
  else none

/-- The number of days of a month. -/
def daysIn (year month : Nat) : Nat :=
  if month = 2 then
    if year % 4 = 0 ∧ (year % 100 ≠ 0 ∨ year % 400 = 0) then 29 else 28
  else if month = 4 ∨ month = 6 ∨ month = 9 ∨ month = 11 then 30
  else 31

/-- Take a day of the calendar. -/
def date : Scan Unit := do
  let year ← fixedNumber 4 0 9999
  char '-'
  let month ← fixedNumber 2 1 12
  char '-'
  let _ ← fixedNumber 2 1 (daysIn year month)

/-- Take a time of day; a minute may have a leap second. -/
def time : Scan Unit := do
  let _ ← fixedNumber 2 0 23
  char ':'
  let _ ← fixedNumber 2 0 59
  char ':'
  let _ ← fixedNumber 2 0 60
  let _ ← optional do
    char '.'
    let ds ← span (isDigitOf 10)
    guard (!ds.isEmpty)

/-- Take the distance of a local time from universal time. -/
def timeOffset : Scan Unit :=
  (satisfying (fun c => c == 'Z' || c == 'z') *> pure ()) <|> do
    let _ ← satisfying fun c => c == '+' || c == '-'
    let _ ← fixedNumber 2 0 23
    char ':'
    let _ ← fixedNumber 2 0 59

/-- Take a date, a time, or both. -/
def dateTime : Scan Unit :=
  (do
    date
    let _ ← optional do
      let _ ← satisfying fun c => c == 'T' || c == 't' || c == ' '
      time
      let _ ← optional timeOffset)
    <|> time

end Toml

end PropertyReflection
