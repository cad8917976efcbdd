import DocGuard.Text.Digits
import DocGuard.Text.Split

/-!
# Dates

Instants are counted in milliseconds from the start of 1970, in the proleptic Gregorian calendar
and without time zones. This module takes them apart, writes them in two forms and reads the
internet form.
-/

namespace DocGuard.Calendar

open DocGuard.Text

structure Moment where
  year : Int
  month : Nat
  day : Nat
  hour : Nat
  minute : Nat
  second : Nat
  milli : Nat
deriving DecidableEq, Repr

/-- The day number, counted from the start of 1970, of a date whose year starts in March. Eras of
400 years repeat, which makes the count exact for every year. -/
def dayNumber (year : Int) (month day : Nat) : Int :=
  let y := if month ≤ 2 then year - 1 else year
  let era := Int.fdiv y 400
  let yearOfEra := y - era * 400
  let shifted : Int := (month + 9) % 12
  let dayOfYear := (153 * shifted + 2) / 5 + day - 1
  let dayOfEra := yearOfEra * 365 + yearOfEra / 4 - yearOfEra / 100 + dayOfYear
  era * 146097 + dayOfEra - 719468

def dateOfDay (n : Int) : Int × Nat × Nat :=
  let z := n + 719468
  let era := Int.fdiv z 146097
  let dayOfEra := z - era * 146097
  let yearOfEra := (dayOfEra - dayOfEra / 1460 + dayOfEra / 36524 - dayOfEra / 146096) / 365
  let dayOfYear := dayOfEra - (365 * yearOfEra + yearOfEra / 4 - yearOfEra / 100)
  let shifted := (5 * dayOfYear + 2) / 153
  let day := dayOfYear - (153 * shifted + 2) / 5 + 1
  let month := if shifted < 10 then shifted + 3 else shifted - 9
  let year := yearOfEra + era * 400 + (if month ≤ 2 then 1 else 0)
  (year, month.toNat, day.toNat)

def Moment.ofMillis (ms : Int) : Moment :=
  let days := Int.fdiv ms 86400000
  let rest := (Int.fmod ms 86400000).toNat
  let (year, month, day) := dateOfDay days
  { year, month, day
    hour := rest / 3600000
    minute := rest / 60000 % 60
    second := rest / 1000 % 60
    milli := rest % 1000 }

def Moment.toMillis (m : Moment) : Int :=
  dayNumber m.year m.month m.day * 86400000
    + (m.hour * 3600000 + m.minute * 60000 + m.second * 1000 + m.milli : Nat)

/-- The greatest year, in either direction, that has a written form. -/
def maxYear : Int := 999999

/-- A fraction of a second without zeros at its end, but with one digit at least. -/
def fraction (milli : Nat) : String :=
  if milli = 0 then "0"
  else if milli % 100 = 0 then toString (milli / 100)
  else if milli % 10 = 0 then padded 2 (milli / 10)
  else padded 3 milli

/-- A year in four digits, with a sign where it is negative or has more digits. -/
def showYear (year : Int) : String :=
  if year < 0 then "-" ++ padded 4 year.natAbs
  else if year < 10000 then padded 4 year.natAbs
  else "+" ++ toString year.natAbs

/-- An instant in messages, such as `1970-01-01 0:00:00.0 +00:00:00`. An instant beyond the years
that can be written stands as its number. -/
def display (ms : Int) : String :=
  let m := Moment.ofMillis ms
  if m.year.natAbs > maxYear.natAbs then toString ms
  else
    showYear m.year ++ "-" ++ padded 2 m.month ++ "-" ++ padded 2 m.day ++ " " ++ toString m.hour
      ++ ":" ++ padded 2 m.minute ++ ":" ++ padded 2 m.second ++ "." ++ fraction m.milli
      ++ " +00:00:00"

/-- Whether an instant has an internet form in extended JSON: the years 1970 to 9999. -/
def hasInternetForm (ms : Int) : Bool :=
  0 ≤ ms && (Moment.ofMillis ms).year ≤ 9999

/-- The internet form of an instant, such as `1970-01-01T00:00:01Z`; a fraction of a second is
written only where there is one. -/
def internetForm (ms : Int) : String :=
  let m := Moment.ofMillis ms
  let tail := if m.milli = 0 then "" else "." ++ fraction m.milli
  showYear m.year ++ "-" ++ padded 2 m.month ++ "-" ++ padded 2 m.day ++ "T" ++ padded 2 m.hour
    ++ ":" ++ padded 2 m.minute ++ ":" ++ padded 2 m.second ++ tail ++ "Z"

def isLeapYear (year : Int) : Bool :=
  year % 4 == 0 && (year % 100 != 0 || year % 400 == 0)

def daysIn (year : Int) (month : Nat) : Nat :=
  if month = 2 then (if isLeapYear year then 29 else 28)
  else if month = 4 ∨ month = 6 ∨ month = 9 ∨ month = 11 then 30
  else 31

def takeDigits? (n : Nat) (cs : List Char) : Option (Nat × List Char) :=
  let ds := cs.take n
  if ds.length = n ∧ ds.all isDigit then some (decimalValue ds, cs.drop n) else none

def expect? (p : Char → Bool) : List Char → Option (List Char)
  | c :: rest => if p c then some rest else none
  | [] => none

/-- The offset from universal time in minutes: `Z` or a sign with hours and minutes. -/
def readOffset? : List Char → Option Int
  | ['Z'] => some 0
  | ['z'] => some 0
  | sign :: rest => do
    if sign ≠ '+' ∧ sign ≠ '-' then none
    else
      let (hours, rest) ← takeDigits? 2 rest
      let rest ← expect? (· == ':') rest
      let (minutes, rest) ← takeDigits? 2 rest
      if rest ≠ [] ∨ 23 < hours ∨ 59 < minutes then none
      else
        let total : Int := hours * 60 + minutes
        return if sign = '-' then -total else total
  | [] => none

/-- A fraction of a second after its point, in milliseconds; digits beyond the third are dropped. -/
def readFraction? : List Char → Option (Nat × List Char)
  | '.' :: rest =>
    let ds := rest.takeWhile isDigit
    if ds = [] then none
    else
      let three := (ds ++ ['0', '0']).take 3
      some (decimalValue three, rest.dropWhile isDigit)
  | cs => some (0, cs)

def readInternetForm? (cs : List Char) : Option Int := do
  let (year, cs) ← takeDigits? 4 cs
  let cs ← expect? (· == '-') cs
  let (month, cs) ← takeDigits? 2 cs
  let cs ← expect? (· == '-') cs
  let (day, cs) ← takeDigits? 2 cs
  let cs ← expect? (fun c => c == 'T' || c == 't' || c == ' ') cs
  let (hour, cs) ← takeDigits? 2 cs
  let cs ← expect? (· == ':') cs
  let (minute, cs) ← takeDigits? 2 cs
  let cs ← expect? (· == ':') cs
  let (second, cs) ← takeDigits? 2 cs
  let (milli, cs) ← readFraction? cs
  let offset ← readOffset? cs
  if month < 1 ∨ 12 < month ∨ day < 1 ∨ daysIn year month < day ∨ 23 < hour ∨ 59 < minute
      ∨ 59 < second then none
  else
    let m : Moment := { year, month, day, hour, minute, second, milli }
    return m.toMillis - offset * 60000

example : display (-1) = "1969-12-31 23:59:59.999 +00:00:00" := by decide +kernel

example : readInternetForm? "1970-01-01T00:00:01Z".toList = some 1000 := by decide +kernel

end DocGuard.Calendar
