import Weave.Toml.Value

/-!
Values of TOML that are written without quotes: booleans, integers, floats, dates and times.
-/

namespace Weave.Toml

/-- The digits of a text in which single underscores may stand between digits. -/
def digits? (isDigit : Char → Bool) : Text → Option Text
  | [] => none
  | [c] => if isDigit c then some [c] else none
  | c :: '_' :: rest => if isDigit c then (digits? isDigit rest).map (c :: ·) else none
  | c :: rest => if isDigit c then (digits? isDigit rest).map (c :: ·) else none

/-- The number that decimal digits write. -/
def decimal (digits : Text) : Nat := digits.foldl (fun n c => n * 10 + (c.toNat - '0'.toNat)) 0

/-- Splits a sign off the front: whether the number is negative, and the rest of it. -/
def splitSign : Text → Bool × Text
  | '+' :: rest => (false, rest)
  | '-' :: rest => (true, rest)
  | text => (false, text)

/-- The digits of a decimal number, which has no leading zero unless it is zero. -/
def decimalDigits? (text : Text) : Option Text := do
  let digits ← digits? Char.isDigit text
  if digits.length > 1 && digits.head? == some '0' then none else some digits

/-- Integers between the least of 128 signed bits and the greatest of 128 unsigned bits can be
held. -/
def integerInRange (negative : Bool) (magnitude : Nat) : Bool :=
  if negative then magnitude ≤ Nat.pow 2 127 else magnitude < Nat.pow 2 128

/-- The value of an integer literal. -/
def integer? (text : Text) : Option Int :=
  let inBase (base : Nat) (digits : Text) : Option Int := do
    let value (c : Char) : Nat :=
      if c.isDigit then c.toNat - '0'.toNat
      else if 'a' ≤ c && c ≤ 'f' then c.toNat - 'a'.toNat + 10
      else if 'A' ≤ c && c ≤ 'F' then c.toNat - 'A'.toNat + 10
      else base
    let digits ← digits? (value · < base) digits
    some (digits.foldl (fun n c => n * base + value c) 0)
  match text with
  | '0' :: 'x' :: digits => inBase 16 digits
  | '0' :: 'o' :: digits => inBase 8 digits
  | '0' :: 'b' :: digits => inBase 2 digits
  | _ =>
    let (negative, digits) := splitSign text
    (decimalDigits? digits).map fun digits =>
      if negative then -(decimal digits : Int) else decimal digits

/-- A decimal number with a fraction or an exponent: its digits without the point, and the power
of ten that they are multiplied by. -/
def float? (text : Text) : Option (Nat × Int) := do
  let (_, text) := splitSign text
  let isExponentMark (c : Char) : Bool := c == 'e' || c == 'E'
  let mantissa := text.takeWhile (!isExponentMark ·)
  let exponent := text.drop mantissa.length
  let whole := mantissa.takeWhile (· != '.')
  let fraction := mantissa.drop whole.length
  if exponent.isEmpty && fraction.isEmpty then none
  let wholeDigits ← decimalDigits? whole
  let fractionDigits ← match fraction with
    | [] => some []
    | _ :: digits => digits? Char.isDigit digits
  let power ← match exponent with
    | [] => some (0 : Int)
    | _ :: digits =>
      let (negative, digits) := splitSign digits
      (digits? Char.isDigit digits).map fun digits =>
        if negative then -(decimal digits : Int) else decimal digits
  some (decimal (wholeDigits ++ fractionDigits), power - fractionDigits.length)

/-- Whether a decimal number is below the numbers that double precision rounds to infinity. -/
def floatInRange (significand : Nat) (power : Int) : Bool :=
  if significand = 0 then true
  else
    let magnitude : Int := (Nat.toDigits 10 significand).length + power
    if magnitude > 310 then false
    else if magnitude < 300 then true
    else
      let bound := Nat.pow 2 1024 - Nat.pow 2 970
      match power with
      | .ofNat n => significand * Nat.pow 10 n < bound
      | .negSucc n => significand < bound * Nat.pow 10 (n + 1)

/-- The number that exactly `n` digits at the front write, and the text behind them. -/
def fixedDigits? (n : Nat) (text : Text) : Option (Nat × Text) :=
  let digits := text.take n
  if digits.length = n && digits.all Char.isDigit then some (decimal digits, text.drop n) else none

/-- The text behind the character `c`, if it stands at the front. -/
def expect? (c : Char) : Text → Option Text
  | d :: rest => if c = d then some rest else none
  | [] => none

/-- The number of days of a month of the Gregorian calendar. -/
def daysIn (year month : Nat) : Nat :=
  if month = 2 then
    if year % 4 = 0 && (year % 100 != 0 || year % 400 = 0) then 29 else 28
  else if month ∈ [4, 6, 9, 11] then 30
  else 31

/-- The text behind a date. -/
def afterDate? (text : Text) : Option Text := do
  let (year, text) ← fixedDigits? 4 text
  let text ← expect? '-' text
  let (month, text) ← fixedDigits? 2 text
  let text ← expect? '-' text
  let (day, text) ← fixedDigits? 2 text
  if 1 ≤ month && month ≤ 12 && 1 ≤ day && day ≤ daysIn year month then some text else none

/-- The text behind a time of day, whose seconds may be left out. -/
def afterTime? (text : Text) : Option Text := do
  let (hour, text) ← fixedDigits? 2 text
  let text ← expect? ':' text
  let (minute, text) ← fixedDigits? 2 text
  if hour > 23 || minute > 59 then none
  match text with
  | ':' :: text =>
    let (second, text) ← fixedDigits? 2 text
    if second > 60 then none
    match text with
    | '.' :: text =>
      let fraction := text.takeWhile Char.isDigit
      if fraction.isEmpty then none else some (text.drop fraction.length)
    | _ => some text
  | _ => some text

/-- Whether a text is a distance from universal time. -/
def isOffset : Text → Bool
  | ['Z'] | ['z'] => true
  | sign :: text =>
    (sign == '+' || sign == '-') &&
      (do
        let (hour, text) ← fixedDigits? 2 text
        let text ← expect? ':' text
        let (minute, text) ← fixedDigits? 2 text
        some (text.isEmpty && hour ≤ 23 && minute ≤ 59)) == some true
  | [] => false

/-- Whether a text is a date, a time, or a date with a time and possibly an offset. -/
def isDatetime (text : Text) : Bool :=
  match afterDate? text with
  | some [] => true
  | some (mark :: time) =>
    (mark == 'T' || mark == 't' || mark == ' ') &&
      (match afterTime? time with
        | some [] => true
        | some zone => isOffset zone
        | none => false)
  | none => afterTime? text == some []

/-- The value that an unquoted text writes. -/
def scalar (text : Text) : Except Error Value :=
  let (_, unsigned) := splitSign text
  if text = "true".toList then .ok (.boolean true)
  else if text = "false".toList then .ok (.boolean false)
  else if unsigned = "inf".toList || unsigned = "nan".toList then .ok (.float text)
  else match integer? text with
    | some value =>
      if integerInRange (value < 0) value.natAbs then .ok (.integer text) else .error .outOfRange
    | none =>
      match float? text with
      | some (significand, power) =>
        if floatInRange significand power then .ok (.float text) else .error .outOfRange
      | none => if isDatetime text then .ok (.datetime text) else .error .invalidScalar

end Weave.Toml
