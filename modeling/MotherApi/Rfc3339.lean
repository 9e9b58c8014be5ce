import MotherApi.SimulationTime

/-!
Timestamps of requests and responses, read into seconds and a fraction.

Every byte of an accepted timestamp is an ASCII digit or a fixed ASCII mark, so the checks on
bytes are checks on characters. The calendar is the one the simulation uses.
-/

namespace MotherApi.Rfc3339

open MotherApi.Strings MotherApi.SimulationTime

structure ParsedTime where
  hour : ℕ
  minute : ℕ
  second : ℕ
  fraction : List Char
  deriving DecidableEq

structure ParsedRfc3339 where
  epochSeconds : ℤ
  fraction : List Char
  deriving DecidableEq

/-- The seconds have two digits; a point after them has digits behind it. -/
def parseSecond (value : List Char) : Option (ℕ × List Char) :=
  match value.span (· != '.') with
  | (second, []) => if second.length ≠ 2 then none else (parseDigits second).map fun s => (s, [])
  | (second, _ :: fraction) =>
    if second.length ≠ 2 ∨ fraction.isEmpty ∨ ¬fraction.all isAsciiDigit then none
    else (parseDigits second).map fun s => (s, fraction)

def parseTime (value : List Char) : Option ParsedTime :=
  if value.length < 8 ∨ value[2]? ≠ some ':' ∨ value[5]? ≠ some ':' then none
  else do
    let hour ← parseDigits (value.take 2)
    let minute ← parseDigits ((value.drop 3).take 2)
    let (second, fraction) ← parseSecond (value.drop 6)
    if 23 < hour ∨ 59 < minute ∨ 59 < second then none
    else return ⟨hour, minute, second, fraction⟩

def parseDate (value : List Char) : Option (ℤ × ℕ × ℕ) :=
  if value.length ≠ 10 ∨ value[4]? ≠ some '-' ∨ value[7]? ≠ some '-' then none
  else do
    let year ← parseDigits (value.take 4)
    let month ← parseDigits ((value.drop 5).take 2)
    let day ← parseDigits ((value.drop 8).take 2)
    if ¬(1 ≤ month ∧ month ≤ 12) then none
    else if day = 0 ∨ daysInMonth year month < day then none
    else return ((year : ℤ), month, day)

def parseSign : Option Char → Option ℤ
  | some '+' => some 1
  | some '-' => some (-1)
  | _ => none

def parseOffset (value : List Char) : Option ℤ :=
  if value.length ≠ 6 ∨ value[3]? ≠ some ':' then none
  else do
    let sign ← parseSign value[0]?
    let hours ← parseDigits ((value.drop 1).take 2)
    let minutes ← parseDigits ((value.drop 4).take 2)
    if 23 < hours ∨ 59 < minutes then none
    else return sign * (hours * 3600 + minutes * 60)

/-- The text before the last sign, and the text from there on. -/
def splitAtSign (value : List Char) : Option (List Char × List Char) :=
  match value.reverse.span fun c => c != '+' && c != '-' with
  | (_, []) => none
  | (after, sign :: before) => some (before.reverse, sign :: after.reverse)

def parseTimeAndOffset (value : List Char) : Option (ParsedTime × ℤ) :=
  if value.getLast? = some 'Z' then (parseTime value.dropLast).map fun time => (time, 0)
  else do
    let (time, offset) ← splitAtSign value
    let offsetSeconds ← parseOffset offset
    let time ← parseTime time
    return (time, offsetSeconds)

/-- Years have four digits, so the seconds fit 64 bits and the checked arithmetic succeeds. -/
def parseRfc3339 (value : String) : Option ParsedRfc3339 :=
  match value.toList.span (· != 'T') with
  | (_, []) => none
  | (date, _ :: timeAndOffset) =>
    if 'T' ∈ timeAndOffset then none
    else do
      let (year, month, day) ← parseDate date
      let (time, offsetSeconds) ← parseTimeAndOffset timeAndOffset
      return {
        epochSeconds := daysFromCivil year month day * 86400 + time.hour * 3600 + time.minute * 60
          + time.second - offsetSeconds
        fraction := time.fraction }

/-- Digits that one of the two does not have count as zeros. -/
def compareFractionalSeconds (left right : List Char) : Ordering :=
  (List.range (max left.length right.length)).foldr (fun index later =>
    (compare (left.getD index '0') (right.getD index '0')).then later) .eq

def compareRfc3339 (left right : ParsedRfc3339) : Ordering :=
  (compare left.epochSeconds right.epochSeconds).then
    (compareFractionalSeconds left.fraction right.fraction)

/-- Both are timestamps and the first is not after the second. -/
def notLater (left right : String) : Bool :=
  match parseRfc3339 left, parseRfc3339 right with
  | some left, some right => compareRfc3339 left right != .gt
  | _, _ => false

example : notLater "2025-01-03T00:00:00.50Z" "2025-01-03T02:00:00.5+02:00" = true := by decide

end MotherApi.Rfc3339
