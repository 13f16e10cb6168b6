/-!
# `SchemaGate.Format.Time`: dates and times

Dates `YYYY-MM-DD` of the calendar, times `hh:mm:ss` with an optional fraction and an obligatory
offset, and the two joined by a `T`. The second 60 exists only in the last minute of a day of
universal time.
-/

set_option autoImplicit false

namespace SchemaGate.Format

/-- The value of two digits. -/
def twoDigits? (a b : Char) : Option Nat :=
  if a.isDigit && b.isDigit then
    some ((a.toNat - '0'.toNat) * 10 + (b.toNat - '0'.toNat))
  else none

/-- Whether a year has a 29th of February. -/
def isLeapYear (year : Nat) : Bool := year % 4 == 0 && (year % 100 != 0 || year % 400 == 0)

/-- The number of days of a month; months outside the calendar have none. -/
def daysInMonth (year month : Nat) : Nat :=
  match month with
  | 1 | 3 | 5 | 7 | 8 | 10 | 12 => 31
  | 4 | 6 | 9 | 11 => 30
  | 2 => if isLeapYear year then 29 else 28
  | _ => 0

/-- A date of the calendar. -/
def isDate : List Char → Bool
  | [y1, y2, y3, y4, '-', m1, m2, '-', d1, d2] =>
    match twoDigits? y1 y2, twoDigits? y3 y4, twoDigits? m1 m2, twoDigits? d1 d2 with
    | some century, some year, some month, some day =>
      1 ≤ day && day ≤ daysInMonth (century * 100 + year) month
    | _, _, _, _ => false
  | _ => false

/-- The distance of an offset from universal time in minutes. -/
def offsetMinutes? : List Char → Option Int
  | ['Z'] | ['z'] => some 0
  | [sign, h1, h2, ':', m1, m2] =>
    match twoDigits? h1 h2, twoDigits? m1 m2 with
    | some h, some m =>
      if h ≤ 23 ∧ m ≤ 59 then
        if sign = '+' then some (h * 60 + m : Nat)
        else if sign = '-' then some (-(h * 60 + m : Nat))
        else none
      else none
    | _, _ => none
  | _ => none

/-- What follows the fraction of a second, if there is one and it has a digit. -/
def afterFraction? : List Char → Option (List Char)
  | '.' :: rest =>
    if rest.head?.any Char.isDigit then some (rest.dropWhile Char.isDigit) else none
  | rest => some rest

/-- A time of day with its offset. -/
def isTime : List Char → Bool
  | h1 :: h2 :: ':' :: m1 :: m2 :: ':' :: s1 :: s2 :: rest =>
    match twoDigits? h1 h2, twoDigits? m1 m2, twoDigits? s1 s2,
        (afterFraction? rest).bind offsetMinutes? with
    | some h, some m, some s, some offset =>
      let utc := ((h * 60 + m : Nat) - offset) % 1440
      h ≤ 23 && m ≤ 59 && (s ≤ 59 || (s == 60 && utc == 1439))
    | _, _, _, _ => false
  | _ => false

/-- A date and a time with a `T` of either case between them. -/
def isDateTime (cs : List Char) : Bool :=
  let date := cs.takeWhile fun c => c != 'T' && c != 't'
  isDate date && isTime (cs.drop (date.length + 1))

end SchemaGate.Format
