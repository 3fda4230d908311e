import LaneConvert.Toml.Table

/-!
# Numbers and moments

A value without quotes or brackets is one word. A word is a number, a date or a time only as a
whole: digits may be grouped by single underscores, decimal numbers have no needless zeros in front,
and dates and times must exist in the calendar and on the clock.
-/

namespace LaneConvert.Toml

/-- The digits of a group without its underscores. Every underscore stands between two digits. -/
def ungroup? (isDigit : Char → Bool) : List Char → Option (List Char)
  | [] => none
  | [c] => if isDigit c then some [c] else none
  | c :: '_' :: rest => if isDigit c then (ungroup? isDigit rest).map (c :: ·) else none
  | c :: rest => if isDigit c then (ungroup? isDigit rest).map (c :: ·) else none

/-- The value of a digit in bases up to sixteen. -/
def digitValue (c : Char) : Nat :=
  if c.isDigit then c.toNat - '0'.toNat else c.toLower.toNat - 'a'.toNat + 10

/-- The number that digits stand for. -/
def ofDigits (base : Nat) (digits : List Char) : Nat :=
  digits.foldl (fun n c => n * base + digitValue c) 0

/-- Whether a character is a digit of a base. -/
def isDigitOf (base : Nat) (c : Char) : Bool :=
  (c.isDigit || ('a' ≤ c.toLower && c.toLower ≤ 'f')) && digitValue c < base

/-- The digits of a decimal number without needless zeros in front. -/
def wholeDigits? (word : List Char) : Option (List Char) :=
  match ungroup? Char.isDigit word with
  | some ('0' :: _ :: _) => none
  | digits? => digits?

/-- Whether a number begins with a minus sign, and what follows its sign. -/
def splitSign : List Char → Bool × List Char
  | '-' :: rest => (true, rest)
  | '+' :: rest => (false, rest)
  | word => (false, word)

/-- An integer if it fits into 64 bits. -/
def fitting? (n : Int) : Option Int :=
  if -Int.pow 2 63 ≤ n && n < Int.pow 2 63 then some n else none

/-- The integer a word stands for. Only decimal integers have a sign. -/
def integer? (word : List Char) : Option Int :=
  match word with
  | '0' :: 'x' :: rest => based 16 rest
  | '0' :: 'o' :: rest => based 8 rest
  | '0' :: 'b' :: rest => based 2 rest
  | _ => do
    let (negative, rest) := splitSign word
    let digits ← wholeDigits? rest
    let n : Int := ofDigits 10 digits
    fitting? (if negative then -n else n)
where
  /-- The integer with the given digits in another base. -/
  based (base : Nat) (word : List Char) : Option Int := do
    let digits ← ungroup? (isDigitOf base) word
    fitting? (ofDigits base digits)

/-- Whether a character belongs to a group of decimal digits. -/
def isGrouped (c : Char) : Bool := c.isDigit || c = '_'

/-- The digits behind the point of a number, if there is a point, and what follows them. -/
def fraction? : List Char → Option (List Char × List Char)
  | '.' :: rest => do return (← ungroup? Char.isDigit (rest.takeWhile isGrouped),
      rest.dropWhile isGrouped)
  | rest => some ([], rest)

/-- The exponent at the end of a number, zero if it has none. -/
def exponent? : List Char → Option Int
  | [] => some 0
  | c :: rest => do
    guard (c = 'e' || c = 'E')
    let (negative, rest) := splitSign rest
    let n : Int := ofDigits 10 (← ungroup? Char.isDigit rest)
    return if negative then -n else n

/-- The floating-point number a word stands for, which has a fraction or an exponent or is written
out as a name. Numbers too large above are refused, those too large below are infinite. -/
def float? (word : List Char) : Option Decimal.Binary64 := do
  let (negative, rest) := splitSign word
  if rest = "inf".toList then return .infinite negative
  else if rest = "nan".toList then return .nan
  else
    let whole ← wholeDigits? (rest.takeWhile isGrouped)
    let tail := rest.dropWhile isGrouped
    guard !tail.isEmpty
    let (fraction, tail) ← fraction? tail
    let exponent ← exponent? tail
    let value := Decimal.Binary64.ofDecimal negative (ofDigits 10 (whole ++ fraction))
      (exponent - fraction.length)
    guard (value ≠ .infinite false)
    return value

/-- A number with exactly the given count of digits, and what follows it. -/
def fixedDigits? (count : Nat) (cs : List Char) : Option (Nat × List Char) :=
  let digits := cs.take count
  if digits.length = count && digits.all Char.isDigit then
    some (ofDigits 10 digits, cs.drop count)
  else none

/-- What follows a given character. -/
def after? (c : Char) : List Char → Option (List Char)
  | d :: rest => if d = c then some rest else none
  | [] => none

/-- The number of days in a month. -/
def daysIn (year month : Nat) : Nat :=
  if month = 2 then
    if year % 4 = 0 && (year % 100 ≠ 0 || year % 400 = 0) then 29 else 28
  else if month = 4 || month = 6 || month = 9 || month = 11 then 30
  else 31

/-- What follows a date. -/
def afterDate? (cs : List Char) : Option (List Char) := do
  let (year, rest) ← fixedDigits? 4 cs
  let (month, rest) ← fixedDigits? 2 (← after? '-' rest)
  let (day, rest) ← fixedDigits? 2 (← after? '-' rest)
  guard (1 ≤ month && month ≤ 12 && 1 ≤ day && day ≤ daysIn year month)
  return rest

/-- What follows the hours and minutes of a time. -/
def afterMinutes? (cs : List Char) : Option (List Char) := do
  let (hour, rest) ← fixedDigits? 2 cs
  let (minute, rest) ← fixedDigits? 2 (← after? ':' rest)
  guard (hour ≤ 23 && minute ≤ 59)
  return rest

/-- What follows a time, which goes down to seconds and may go on to fractions of them. -/
def afterTime? (cs : List Char) : Option (List Char) := do
  let rest ← afterMinutes? cs
  let (second, rest) ← fixedDigits? 2 (← after? ':' rest)
  guard (second ≤ 60)
  match rest with
  | '.' :: fraction =>
    guard !(fraction.takeWhile Char.isDigit).isEmpty
    return fraction.dropWhile Char.isDigit
  | rest => return rest

/-- Whether a text is nothing or the distance of a local time from the common one. -/
def isZone : List Char → Bool
  | [] | ['Z'] | ['z'] => true
  | c :: rest => (c = '+' || c = '-') && afterMinutes? rest = some []

/-- Whether a character may stand between a date and a time. -/
def separatesTime (c : Char) : Bool := c = 'T' || c = 't' || c = ' '

/-- Whether a word is a date, a time or a date with a time. -/
def isMoment (word : List Char) : Bool :=
  match afterDate? word with
  | some [] => true
  | some (c :: rest) => separatesTime c && ((afterTime? rest).map isZone).getD false
  | none => afterTime? word = some []

/-- The value of a word without quotes. -/
def word? (word : List Char) : Option Value :=
  if word = "true".toList then some (.boolean true)
  else if word = "false".toList then some (.boolean false)
  else if isMoment word then some (.moment (String.ofList word))
  else (float? word).map .float <|> (integer? word).map .integer

end LaneConvert.Toml
