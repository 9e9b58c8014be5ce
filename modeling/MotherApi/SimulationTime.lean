import MotherApi.Strings

/-!
Dates and times of the portfolio simulation.

Texts are cut at byte offsets, as the source does; a cut inside a character fails. Machine
integers are written out where they can leave their range: the service is built without
overflow checks, so they wrap.
-/

namespace MotherApi.SimulationTime

open MotherApi.Strings

def wrapI32 (n : ℤ) : ℤ := Int.bmod n (2 ^ 32)

def wrapI64 (n : ℤ) : ℤ := Int.bmod n (2 ^ 64)

/-! ### Texts -/

/-- The text before and after a byte offset, if a character starts there. -/
def splitAtByte : ℕ → List Char → Option (List Char × List Char)
  | 0, text => some ([], text)
  | _ + 1, [] => none
  | offset + 1, c :: text =>
    if c.utf8Size ≤ offset + 1 then
      (splitAtByte (offset + 1 - c.utf8Size) text).map fun (before, after) => (c :: before, after)
    else none

/-- `text.get(start..end)`. -/
def getBytes (text : List Char) (start stop : ℕ) : Option (List Char) := do
  let (_, rest) ← splitAtByte start text
  let (part, _) ← splitAtByte (stop - start) rest
  return part

def getBytesFrom (text : List Char) (start : ℕ) : Option (List Char) :=
  (splitAtByte start text).map Prod.snd

def digitValue (c : Char) : ℕ := c.toNat - '0'.toNat

def parseDigits (text : List Char) : Option ℕ :=
  if text ≠ [] ∧ text.all isAsciiDigit then
    some (text.foldl (fun value c => value * 10 + digitValue c) 0)
  else none

/-- `parse` of an unsigned type: a plus sign may stand first. -/
def parseUnsigned : List Char → Option ℕ
  | '+' :: text => parseDigits text
  | text => parseDigits text

/-- `parse` of a signed type. -/
def parseSigned : List Char → Option ℤ
  | '-' :: text => (parseDigits text).map fun n => -(n : ℤ)
  | text => (parseUnsigned text).map fun n => (n : ℤ)

def hexValue (c : Char) : ℕ :=
  if isAsciiDigit c then digitValue c
  else if 'a' ≤ c ∧ c ≤ 'f' then c.toNat - 'a'.toNat + 10
  else c.toNat - 'A'.toNat + 10

/-- `u64::from_str_radix(text, 16)`. -/
def u64FromHex (text : List Char) : Option ℕ :=
  let digits := if text.head? = some '+' then text.tail else text
  if digits ≠ [] ∧ digits.all isAsciiHexdigit then
    let value := digits.foldl (fun value c => value * 16 + hexValue c) 0
    if value < 2 ^ 64 then some value else none
  else none

def parseHex (value : Option String) : Option ℕ := do
  let value ← value
  match value.toList with
  | '0' :: 'x' :: digits => u64FromHex digits
  | _ => none

/-- `{n:0width}`: zeros stand after the sign. -/
def padded (width : ℕ) (n : ℤ) : List Char :=
  let digits := (Nat.repr n.natAbs).toList
  if n < 0 then '-' :: (List.replicate (width - 1 - digits.length) '0' ++ digits)
  else List.replicate (width - digits.length) '0' ++ digits

/-! ### The calendar -/

def daysInMonth (year : ℤ) (month : ℕ) : ℕ :=
  if month ∈ [1, 3, 5, 7, 8, 10, 12] then 31
  else if month ∈ [4, 6, 9, 11] then 30
  else if month = 2 then
    if (year.tmod 4 = 0 ∧ year.tmod 100 ≠ 0) ∨ year.tmod 400 = 0 then 29 else 28
  else 0

def daysFromCivil (year : ℤ) (month day : ℕ) : ℤ :=
  let year := year - if month ≤ 2 then 1 else 0
  let era := if 0 ≤ year then year.tdiv 400 else (year - 399).tdiv 400
  let yoe := year - era * 400
  let mp := (month : ℤ) + if 2 < month then -3 else 9
  let doy := (153 * mp + 2).tdiv 5 + day - 1
  let doe := yoe * 365 + yoe.tdiv 4 - yoe.tdiv 100 + doy
  era * 146097 + doe - 719468

/-- The year is put together in 32 bits. -/
def civilFromDays (days : ℤ) : ℤ × ℤ × ℤ :=
  let z := days + 719468
  let era := (if 0 ≤ z then z else z - 146096).tdiv 146097
  let doe := z - era * 146097
  let yoe := (doe - doe.tdiv 1460 + doe.tdiv 36524 - doe.tdiv 146096).tdiv 365
  let year := wrapI32 (wrapI32 yoe + wrapI32 (wrapI32 era * 400))
  let doy := doe - (365 * yoe + yoe.tdiv 4 - yoe.tdiv 100)
  let mp := (5 * doy + 2).tdiv 153
  (wrapI32 (year + if 10 ≤ mp then 1 else 0),
    mp + if mp < 10 then 3 else -9,
    doy - (153 * mp + 2).tdiv 5 + 1)

def parseDate (value : List Char) : Option ℤ := do
  let (year, rest) ← splitAtByte 4 value
  let (month, rest) ← if rest.head? = some '-' then splitAtByte 2 rest.tail else none
  let (day, rest) ← if rest.head? = some '-' then splitAtByte 2 rest.tail else none
  if rest ≠ [] then none
  else
    let year ← parseSigned year
    let month ← parseUnsigned month
    let day ← parseUnsigned day
    if ¬ (1 ≤ month ∧ month ≤ 12) ∨ day = 0 ∨ daysInMonth year month < day then none
    else some (daysFromCivil year month day)

/-- The sign of `hours`, `minutes` and `seconds` is not checked. -/
def parseRfc3339Epoch (value : String) : Option ℤ := do
  let value := value.toList
  let day := parseDate (← getBytes value 0 10)
  let time ← getBytes value 11 19
  if getBytesFrom value 19 ≠ some ['Z'] then none
  else
    let hours ← parseSigned (← getBytes time 0 2)
    let minutes ← parseSigned (← getBytes time 3 5)
    let seconds ← parseSigned (← getBytes time 6 8)
    if hours < 24 ∧ minutes < 60 ∧ seconds < 60 then
      (day.map fun day => day * 86400 + hours * 3600 + minutes * 60 + seconds)
    else none

def timestampForEpoch (epoch : ℤ) : String :=
  let days := epoch / 86400
  let seconds := epoch % 86400
  let (year, month, day) := civilFromDays days
  String.ofList (padded 4 year ++ '-' :: padded 2 month ++ '-' :: padded 2 day ++ 'T' ::
    padded 2 (seconds / 3600) ++ ':' :: padded 2 (seconds % 3600 / 60) ++ ':' ::
    padded 2 (seconds % 60) ++ ['Z'])

example : parseRfc3339Epoch "2025-01-03T00:00:00Z" = some 1735862400 := by decide

example : timestampForEpoch 1735862401 = "2025-01-03T00:00:01Z" := by decide

end MotherApi.SimulationTime
