import AttestedPayments.Der.Element

/-!
# Times in DER

* `Time` — a time as it is written, with the seconds since the start of 1970 that it denotes.
* `Time.ofElement?` — accepts years of two digits from 1970 to 2049, years of four digits from
  1970, real dates, and the zone `Z` only.
-/

namespace AttestedPayments.Der

/-- A time as it is written, and its seconds since the start of 1970. -/
structure Time where
  element : Element
  seconds : Nat
  deriving DecidableEq, Repr

namespace Time

/-- A leap year of the Gregorian calendar. -/
def isLeap (year : Nat) : Bool := year % 4 = 0 && (year % 100 ≠ 0 || year % 400 = 0)

/-- The count of days of a month. -/
def monthDays (year month : Nat) : Nat :=
  if month = 2 then (if isLeap year then 29 else 28)
  else if month = 4 ∨ month = 6 ∨ month = 9 ∨ month = 11 then 30
  else 31

/-- The days of all years before `year`, counted from year 1. -/
def daysBeforeYear (year : Nat) : Nat :=
  let y := year - 1
  365 * y + y / 4 - y / 100 + y / 400

/-- The days of a year before a month. -/
def daysBeforeMonth (year month : Nat) : Nat :=
  (List.range (month - 1)).foldl (fun days m => days + monthDays year (m + 1)) 0

/-- The seconds since the start of 1970 of a real date and time. -/
def secondsOf? (year month day hour minute second : Nat) : Option Nat :=
  if 1970 ≤ year ∧ 1 ≤ month ∧ month ≤ 12 ∧ 1 ≤ day ∧ day ≤ monthDays year month ∧ hour < 24 ∧
      minute < 60 ∧ second < 60 then
    let days := daysBeforeYear year - daysBeforeYear 1970 + daysBeforeMonth year month + (day - 1)
    some (86400 * days + 3600 * hour + 60 * minute + second)
  else none

/-- The number of two decimal digits. -/
def pair? (tens units : UInt8) : Option Nat :=
  if 48 ≤ tens ∧ tens ≤ 57 ∧ 48 ≤ units ∧ units ≤ 57 then
    some (10 * (tens.toNat - 48) + (units.toNat - 48))
  else none

/-- The numbers of pairs of decimal digits, with the letter `Z` at the end. -/
def pairs? : Bytes → Option (List Nat)
  | [zone] => if zone = 90 then some [] else none
  | tens :: units :: rest =>
    match pair? tens units with
    | none => none
    | some n => (pairs? rest).map (n :: ·)
  | [] => none

/-- The seconds that the content octets of a time denote. -/
def secondsOfContent? (tag : UInt8) (content : Bytes) : Option Nat :=
  match pairs? content with
  | some [year, month, day, hour, minute, second] =>
    if tag = Tag.utcTime then
      secondsOf? (if year < 50 then 2000 + year else 1900 + year) month day hour minute second
    else none
  | some [century, year, month, day, hour, minute, second] =>
    if tag = Tag.generalizedTime then
      secondsOf? (100 * century + year) month day hour minute second
    else none
  | _ => none

def ofElement? (e : Element) : Option Time :=
  match secondsOfContent? e.tag e.content with
  | none => none
  | some seconds => some ⟨e, seconds⟩

end Time

end AttestedPayments.Der
