import MotherApi.Lib.Fractions
import MotherApi.Lib.JsonTrees
import MotherApi.Timestamps
import MotherApi.TransferSearch
import Mathlib.Data.List.Permutation

/-!
The window of a request, at the edge and in the domain.

A window is a range of blocks, a range of time or a time back from the latest block. The edge takes
it from JSON, where the fields that are there tell which of the three it is; the domain makes it
again from what the edge has read. Both compare timestamps by their text, and the comparison is
that of the instants they name. So what the edge accepts the domain takes, and gives back as it was.
-/

namespace MotherApi.OnchainWindows

open MotherApi.Lib.Fallible MotherApi.Lib.Numerals MotherApi.Lib.Fractions MotherApi.Lib.JsonTrees
open MotherApi.Rfc3339 MotherApi.Timestamps MotherApi.TransferSearch

/-! ### The code -/

structure ApiError where
  status : ℕ
  code : String
  message : String
  deriving DecidableEq

namespace ApiError

def unknownField : ApiError := ⟨400, "unknown_field", "Request contains an unknown field."⟩

def invalidWindow : ApiError := ⟨400, "invalid_window", "Window is invalid."⟩

def invalidWindowWithMessage (message : String) : ApiError := ⟨400, "invalid_window", message⟩

end ApiError

inductive TimestampField
  | fromTimestamp | toTimestamp
  deriving DecidableEq

def TimestampField.display : TimestampField → String
  | .fromTimestamp => "from_timestamp"
  | .toTimestamp => "to_timestamp"

inductive InvalidOnchainWindowError
  | blockRange (fromBlock toBlock : ℕ)
  | timestamp (field : TimestampField) (value : String)
  | timestampRange (fromTimestamp toTimestamp : String)
  | lookbackSeconds (seconds : ℕ)
  deriving DecidableEq

/-- How the edge tells of an error of the domain. -/
def InvalidOnchainWindowError.toApiError : InvalidOnchainWindowError → ApiError
  | .blockRange fromBlock toBlock => .invalidWindowWithMessage
    ("from_block must be less than or equal to to_block: " ++
      s!"from_block={fromBlock}, to_block={toBlock}")
  | .timestampRange fromTimestamp toTimestamp => .invalidWindowWithMessage
    ("from_timestamp must be less than or equal to to_timestamp: " ++
      s!"from_timestamp={fromTimestamp}, to_timestamp={toTimestamp}")
  | .lookbackSeconds seconds => .invalidWindowWithMessage
    s!"lookback_seconds must be greater than zero: lookback_seconds={seconds}"
  | .timestamp field value => .invalidWindowWithMessage
    (field.display ++ s!" must be a valid RFC3339 timestamp: {value}")

def newBlockWindow (fromBlock toBlock : ℕ) : Except InvalidOnchainWindowError BlockWindow :=
  if h : fromBlock > toBlock then .error (.blockRange fromBlock toBlock)
  else .ok ⟨fromBlock, toBlock, not_lt.mp h⟩

def newTimestampWindow (fromTimestamp toTimestamp : String) :
    Except InvalidOnchainWindowError TimestampWindow :=
  match hfrom : parseRfc3339 fromTimestamp with
  | none => .error (.timestamp .fromTimestamp fromTimestamp)
  | some left =>
    match hto : parseRfc3339 toTimestamp with
    | none => .error (.timestamp .toTimestamp toTimestamp)
    | some right =>
      if h : compareRfc3339 left right = .gt then
        .error (.timestampRange fromTimestamp toTimestamp)
      else .ok ⟨fromTimestamp, toTimestamp, by simp [notLater, hfrom, hto, h]⟩

/-- `LookbackWindow::latest`. -/
def latest (lookbackSeconds : ℕ) : Except InvalidOnchainWindowError LookbackWindow :=
  if h : lookbackSeconds = 0 then .error (.lookbackSeconds lookbackSeconds)
  else .ok ⟨lookbackSeconds, Nat.pos_of_ne_zero h⟩

@[ext]
structure BlockWindowDTO where
  fromBlock : ℕ
  toBlock : ℕ
  deriving DecidableEq

@[ext]
structure TimestampWindowDTO where
  fromTimestamp : String
  toTimestamp : String
  deriving DecidableEq

inductive LookbackTargetDTO
  | latest
  deriving DecidableEq

/-- The target is the field `to`. -/
@[ext]
structure LookbackWindowDTO where
  lookbackSeconds : ℕ
  target : LookbackTargetDTO
  deriving DecidableEq

inductive OnchainWindowDTO
  | block (window : BlockWindowDTO)
  | timestamp (window : TimestampWindowDTO)
  | lookback (window : LookbackWindowDTO)
  deriving DecidableEq

namespace OnchainWindowDTO

/-- `OnchainWindowDTO::from`. -/
def ofWindow : OnchainWindow → OnchainWindowDTO
  | .block window => .block ⟨window.fromBlock, window.toBlock⟩
  | .timestamp window => .timestamp ⟨window.fromTimestamp, window.toTimestamp⟩
  | .lookback window => .lookback ⟨window.lookbackSeconds, .latest⟩

/-- `OnchainWindow::try_from`. -/
def toWindow : OnchainWindowDTO → Except ApiError OnchainWindow
  | .block window =>
    ((newBlockWindow window.fromBlock window.toBlock).map .block).mapError
      InvalidOnchainWindowError.toApiError
  | .timestamp window =>
    ((newTimestampWindow window.fromTimestamp window.toTimestamp).map .timestamp).mapError
      InvalidOnchainWindowError.toApiError
  | .lookback window =>
    ((latest window.lookbackSeconds).map .lookback).mapError InvalidOnchainWindowError.toApiError

end OnchainWindowDTO

def windowFields : List String :=
  ["from_block", "to_block", "from_timestamp", "to_timestamp", "lookback_seconds"]

def lookbackWindowFields : List String := ["lookback_seconds", "to"]

section

variable {ν : Type}

/-- The entries of a JSON object. Its keys are distinct. -/
abbrev JsonObject (ν : Type) := List (String × Value ν)

def containsKey (window : JsonObject ν) (field : String) : Bool := window.any (·.1 == field)

def get (window : JsonObject ν) (field : String) : Option (Value ν) :=
  (window.find? (·.1 == field)).map Prod.snd

/-- What is missing or not of its type makes the window invalid. -/
def required {α : Type} : Option α → Except ApiError α
  | some a => .ok a
  | none => .error .invalidWindow

def rejectUnknownWindowFields (window : JsonObject ν) : Except ApiError Unit :=
  if window.all fun entry => windowFields.contains entry.1 || entry.1 == "to" then .ok ()
  else .error .unknownField

def asStr : Value ν → Option String
  | .string s => some s
  | _ => none

def validateTimestampWindow (window : JsonObject ν) : Except ApiError OnchainWindowDTO :=
  if window.length ≠ 2 then .error .invalidWindow
  else do
    let fromTimestamp ← required ((get window "from_timestamp").bind asStr)
    let toTimestamp ← required ((get window "to_timestamp").bind asStr)
    let fromParsed ← required (parseRfc3339 fromTimestamp)
    let toParsed ← required (parseRfc3339 toTimestamp)
    if compareRfc3339 fromParsed toParsed = .gt then .error .invalidWindow
    else .ok (.timestamp ⟨fromTimestamp, toTimestamp⟩)

-- Which JSON numbers are unsigned integers of 64 bits, and which they are.
variable (asU64 : ν → Option ℕ)

def valueAsU64 : Value ν → Option ℕ
  | .number n => asU64 n
  | _ => none

def validateBlockWindow (window : JsonObject ν) : Except ApiError OnchainWindowDTO :=
  if window.length ≠ 2 then .error .invalidWindow
  else do
    let fromBlock ← required ((get window "from_block").bind (valueAsU64 asU64))
    let toBlock ← required ((get window "to_block").bind (valueAsU64 asU64))
    if fromBlock > toBlock then .error .invalidWindow
    else .ok (.block ⟨fromBlock, toBlock⟩)

def validateLookbackWindow (window : JsonObject ν) : Except ApiError OnchainWindowDTO :=
  if window.length ≠ lookbackWindowFields.length then .error .invalidWindow
  else do
    let lookbackSeconds ← required ((get window "lookback_seconds").bind (valueAsU64 asU64))
    let target ← required ((get window "to").bind asStr)
    if lookbackSeconds = 0 ∨ target ≠ "latest" then .error .invalidWindow
    else .ok (.lookback ⟨lookbackSeconds, .latest⟩)

def validateWindow : Option (Value ν) → Except ApiError OnchainWindowDTO
  | some (.object window) => do
    rejectUnknownWindowFields window
    let blockFieldsPresent := containsKey window "from_block" || containsKey window "to_block"
    let timestampFieldsPresent :=
      containsKey window "from_timestamp" || containsKey window "to_timestamp"
    let lookbackFieldsPresent := containsKey window "lookback_seconds" || containsKey window "to"
    let windowShapeCount := blockFieldsPresent.toNat + timestampFieldsPresent.toNat +
      lookbackFieldsPresent.toNat
    if windowShapeCount ≠ 1 then .error .invalidWindow
    else if blockFieldsPresent then validateBlockWindow asU64 window
    else if timestampFieldsPresent then validateTimestampWindow window
    else validateLookbackWindow asU64 window
  | _ => .error .invalidWindow

end

/-! ### The order of timestamps -/

/-- The instant that a timestamp names, in seconds. -/
def instant (parsed : ParsedRfc3339) : ℚ := parsed.epochSeconds + fraction parsed.fraction

lemma compare_digits {c d : Char} (hc : c.isDigit = true) (hd : d.isDigit = true) :
    compare c d = compare (digit c) (digit d) := by
  have htoNat : ∀ {c : Char}, c.isDigit = true → c.toNat = digit c + 48 := by
    intro c h
    have := isDigit_iff.mp h
    unfold digit
    omega
  have hchar : StrictMono Char.toNat := fun c d hlt => hlt
  have hadd : StrictMono fun n : ℕ => n + 48 := fun n m hlt => Nat.add_lt_add_right hlt 48
  rw [← compare_strictMono hadd, ← htoNat hc, ← htoNat hd]
  exact (compare_strictMono hchar c d).symm

lemma compareFractionalSeconds_step {left right : List Char}
    (h : 0 < max left.length right.length) :
    compareFractionalSeconds left right =
      (compare (left.headD '0') (right.headD '0')).then
        (compareFractionalSeconds left.tail right.tail) := by
  have hlength : max left.length right.length =
      max left.tail.length right.tail.length + 1 := by
    simp only [List.length_tail]
    omega
  have hget : ∀ (text : List Char) (index : ℕ), text.getD (index + 1) '0' =
      text.tail.getD index '0' := by
    intro text index
    cases text <;> simp
  have hhead : ∀ text : List Char, text.getD 0 '0' = text.headD '0' := by
    intro text
    cases text <;> rfl
  unfold compareFractionalSeconds
  rw [hlength, List.range_succ_eq_map, List.foldr_cons, List.foldr_map]
  simp only [hget, hhead, Nat.succ_eq_add_one]

lemma compareFractionalSeconds_eq {left right : List Char} (hleft : AllDigits left)
    (hright : AllDigits right) :
    compareFractionalSeconds left right = compare (fraction left) (fraction right) := by
  have htail : ∀ {cs : List Char}, AllDigits cs → AllDigits cs.tail := fun h c hmem =>
    h c (List.mem_of_mem_tail hmem)
  have hhead : ∀ {cs : List Char}, AllDigits cs → (cs.headD '0').isDigit = true := by
    intro cs h
    cases cs with
    | nil => rfl
    | cons c cs => exact h c List.mem_cons_self
  generalize hn : max left.length right.length = n
  induction n generalizing left right with
  | zero =>
    obtain rfl := List.length_eq_zero_iff.mp (show left.length = 0 by omega)
    obtain rfl := List.length_eq_zero_iff.mp (show right.length = 0 by omega)
    exact (compare_eq_iff_eq.mpr rfl).symm
  | succ n ih =>
    rw [compareFractionalSeconds_step (by omega), compare_fraction hleft hright,
      compare_digits (hhead hleft) (hhead hright),
      ih (htail hleft) (htail hright) (by simp only [List.length_tail]; omega)]
    rfl

/-- What has been read from a text. -/
def Parsed (parsed : ParsedRfc3339) : Prop := ∃ text, parseRfc3339 text = some parsed

lemma Parsed.allDigits {parsed : ParsedRfc3339} (h : Parsed parsed) :
    AllDigits parsed.fraction := by
  obtain ⟨text, htext⟩ := h
  obtain ⟨timestamp, -, -, hfraction⟩ := parseRfc3339_eq_some.mp htext
  rw [hfraction]
  exact timestamp.time.fraction_digits

/-- Timestamps are compared as instants. -/
lemma compareRfc3339_eq {left right : ParsedRfc3339} (hleft : Parsed left)
    (hright : Parsed right) :
    compareRfc3339 left right = compare (instant left) (instant right) := by
  unfold compareRfc3339 instant
  rw [compareFractionalSeconds_eq hleft.allDigits hright.allDigits,
    compare_add (fraction_nonneg _) (fraction_lt_one hleft.allDigits) (fraction_nonneg _)
      (fraction_lt_one hright.allDigits)]

/-! ### Windows at the edge -/

namespace OnchainWindowDTO

/-- From the first to the last, or some time back. -/
def Ordered : OnchainWindowDTO → Prop
  | .block window => window.fromBlock ≤ window.toBlock
  | .timestamp window => ∃ left right, parseRfc3339 window.fromTimestamp = some left ∧
      parseRfc3339 window.toTimestamp = some right ∧ instant left ≤ instant right
  | .lookback window => 0 < window.lookbackSeconds

/-- The entries are exactly the two fields of a window, of their types. -/
def Fields {ν : Type} (asU64 : ν → Option ℕ) (entries : JsonObject ν) : OnchainWindowDTO → Prop
  | .block window => ∃ n m, asU64 n = some window.fromBlock ∧ asU64 m = some window.toBlock ∧
      entries.Perm [("from_block", .number n), ("to_block", .number m)]
  | .timestamp window => entries.Perm [("from_timestamp", .string window.fromTimestamp),
      ("to_timestamp", .string window.toTimestamp)]
  | .lookback window => ∃ n, asU64 n = some window.lookbackSeconds ∧
      entries.Perm [("lookback_seconds", .number n), ("to", .string "latest")]

end OnchainWindowDTO

lemma not_gt_iff {left right : ParsedRfc3339} (hleft : Parsed left) (hright : Parsed right) :
    compareRfc3339 left right ≠ .gt ↔ instant left ≤ instant right := by
  rw [compareRfc3339_eq hleft hright]
  exact compare_le_iff_le

lemma required_eq_ok {α : Type} {x : Option α} {a : α} : required x = .ok a ↔ x = some a := by
  cases x <;> simp [required]

lemma get_pair_iff {ν : Type} {window : JsonObject ν} {key key' : String} (hne : key ≠ key')
    {value value' : Value ν} :
    window.length = 2 ∧ get window key = some value ∧ get window key' = some value' ↔
      window.Perm [(key, value), (key', value')] := by
  rw [List.perm_pair]
  constructor
  · rintro ⟨hlength, hget, hget'⟩
    obtain ⟨⟨k, v⟩, ⟨k', v'⟩, rfl⟩ := List.length_eq_two.mp hlength
    unfold get at hget hget'
    by_cases hk : k = key
    · subst hk
      have hk' : k' = key' := by
        by_contra hk'
        simp [hne, hk'] at hget'
      subst hk'
      left
      simp_all
    · have hk' : k' = key := by
        by_contra hk'
        simp [hk, hk'] at hget
      subst hk'
      have hk'' : k = key' := by
        by_contra hk''
        simp [hne, hk''] at hget'
      subst hk''
      right
      simp_all
  · rintro (rfl | rfl) <;> simp [get, hne, hne.symm]

section

variable {ν : Type} {asU64 : ν → Option ℕ} {entries : JsonObject ν} {dto : OnchainWindowDTO}

lemma number_field {key : String} {n : ℕ} :
    (get entries key).bind (valueAsU64 asU64) = some n ↔
      ∃ m, get entries key = some (.number m) ∧ asU64 m = some n := by
  rw [Option.bind_eq_some_iff]
  constructor
  · rintro ⟨value, hget, hvalue⟩
    cases value with
    | number m => exact ⟨m, hget, hvalue⟩
    | _ => cases hvalue
  · rintro ⟨m, hget, hm⟩
    exact ⟨.number m, hget, hm⟩

lemma text_field {key text : String} :
    (get entries key).bind asStr = some text ↔ get entries key = some (.string text) := by
  rw [Option.bind_eq_some_iff]
  constructor
  · rintro ⟨value, hget, hvalue⟩
    cases value with
    | string s =>
      cases hvalue
      exact hget
    | _ => cases hvalue
  · intro hget
    exact ⟨.string text, hget, rfl⟩

lemma validateBlockWindow_eq_ok :
    validateBlockWindow asU64 entries = .ok dto ↔
      ∃ window, dto = .block window ∧ dto.Fields asU64 entries ∧ dto.Ordered := by
  unfold validateBlockWindow
  constructor
  · intro h
    split_ifs at h with hlength
    rw [not_not] at hlength
    obtain ⟨fromBlock, hfrom, h⟩ := bind_eq_ok.mp h
    obtain ⟨toBlock, hto, h⟩ := bind_eq_ok.mp h
    obtain ⟨n, hn, hfrom⟩ := number_field.mp (required_eq_ok.mp hfrom)
    obtain ⟨m, hm, hto⟩ := number_field.mp (required_eq_ok.mp hto)
    split_ifs at h with hle
    cases h
    exact ⟨_, rfl, ⟨n, m, hfrom, hto, (get_pair_iff (by decide)).mp ⟨hlength, hn, hm⟩⟩,
      not_lt.mp hle⟩
  · rintro ⟨window, rfl, ⟨n, m, hfrom, hto, hperm⟩, hle⟩
    obtain ⟨hlength, hn, hm⟩ := (get_pair_iff (by decide)).mpr hperm
    have hfrom := required_eq_ok.mpr (number_field.mpr ⟨n, hn, hfrom⟩)
    have hto := required_eq_ok.mpr (number_field.mpr ⟨m, hm, hto⟩)
    rw [if_neg (not_not.mpr hlength), hfrom, bind_ok, hto, bind_ok, if_neg (not_lt.mpr hle)]

lemma validateTimestampWindow_eq_ok :
    validateTimestampWindow entries = .ok dto ↔
      ∃ window, dto = .timestamp window ∧ dto.Fields asU64 entries ∧ dto.Ordered := by
  unfold validateTimestampWindow
  constructor
  · intro h
    split_ifs at h with hlength
    rw [not_not] at hlength
    obtain ⟨fromTimestamp, hfrom, h⟩ := bind_eq_ok.mp h
    obtain ⟨toTimestamp, hto, h⟩ := bind_eq_ok.mp h
    obtain ⟨left, hleft, h⟩ := bind_eq_ok.mp h
    obtain ⟨right, hright, h⟩ := bind_eq_ok.mp h
    have hleft := required_eq_ok.mp hleft
    have hright := required_eq_ok.mp hright
    split_ifs at h with hle
    cases h
    exact ⟨_, rfl, (get_pair_iff (by decide)).mp ⟨hlength, text_field.mp (required_eq_ok.mp hfrom),
      text_field.mp (required_eq_ok.mp hto)⟩, left, right, hleft, hright,
      (not_gt_iff ⟨_, hleft⟩ ⟨_, hright⟩).mp hle⟩
  · rintro ⟨window, rfl, hperm, left, right, hleft, hright, hle⟩
    obtain ⟨hlength, hfrom, hto⟩ := (get_pair_iff (by decide)).mpr hperm
    have hfrom := required_eq_ok.mpr (text_field.mpr hfrom)
    have hto := required_eq_ok.mpr (text_field.mpr hto)
    rw [if_neg (not_not.mpr hlength), hfrom, bind_ok, hto, bind_ok, required_eq_ok.mpr hleft,
      bind_ok, required_eq_ok.mpr hright, bind_ok,
      if_neg ((not_gt_iff ⟨_, hleft⟩ ⟨_, hright⟩).mpr hle)]

lemma validateLookbackWindow_eq_ok :
    validateLookbackWindow asU64 entries = .ok dto ↔
      ∃ window, dto = .lookback window ∧ dto.Fields asU64 entries ∧ dto.Ordered := by
  unfold validateLookbackWindow
  constructor
  · intro h
    split_ifs at h with hlength
    rw [not_not] at hlength
    obtain ⟨seconds, hseconds, h⟩ := bind_eq_ok.mp h
    obtain ⟨target, htarget, h⟩ := bind_eq_ok.mp h
    obtain ⟨n, hn, hseconds⟩ := number_field.mp (required_eq_ok.mp hseconds)
    have htarget := text_field.mp (required_eq_ok.mp htarget)
    split_ifs at h with hlatest
    rw [not_or, not_not] at hlatest
    obtain ⟨hpos, rfl⟩ := hlatest
    cases h
    exact ⟨_, rfl, ⟨n, hseconds, (get_pair_iff (by decide)).mp ⟨hlength, hn, htarget⟩⟩,
      Nat.pos_of_ne_zero hpos⟩
  · rintro ⟨⟨seconds, target⟩, rfl, ⟨n, hseconds, hperm⟩, hpos⟩
    obtain ⟨hlength, hn, htarget⟩ := (get_pair_iff (by decide)).mpr hperm
    have hlength : entries.length = lookbackWindowFields.length := hlength
    have hseconds := required_eq_ok.mpr (number_field.mpr ⟨n, hn, hseconds⟩)
    have htarget := required_eq_ok.mpr (text_field.mpr htarget)
    have hne : seconds ≠ 0 := Nat.pos_iff_ne_zero.mp hpos
    rw [if_neg (not_not.mpr hlength), hseconds, bind_ok, htarget, bind_ok, if_neg (by simp [hne])]

lemma containsKey_pair {key key' : String} {value value' : Value ν}
    (h : entries.Perm [(key, value), (key', value')]) (field : String) :
    containsKey entries field = (key == field || key' == field) := by
  unfold containsKey
  rw [h.any_eq]
  simp

lemma rejectUnknownWindowFields_pair {key key' : String} {value value' : Value ν}
    (h : entries.Perm [(key, value), (key', value')])
    (hkey : (windowFields.contains key || key == "to") = true)
    (hkey' : (windowFields.contains key' || key' == "to") = true) :
    rejectUnknownWindowFields entries = .ok () := by
  unfold rejectUnknownWindowFields
  rw [h.all_eq]
  simp only [List.all_cons, hkey, hkey', List.all_nil, Bool.and_self, if_true]

/-- What the edge accepts: the two fields of one window, and a window in order. -/
lemma validateWindow_eq_ok {value : Option (Value ν)} :
    validateWindow asU64 value = .ok dto ↔
      ∃ entries, value = some (.object entries) ∧ dto.Fields asU64 entries ∧ dto.Ordered := by
  constructor
  · intro h
    unfold validateWindow at h
    split at h
    · rename_i entries
      refine ⟨entries, rfl, ?_⟩
      obtain ⟨-, -, h⟩ := bind_eq_ok.mp h
      simp only at h
      split_ifs at h
      · exact (validateBlockWindow_eq_ok.mp h).choose_spec.2
      · exact (validateTimestampWindow_eq_ok.mp h).choose_spec.2
      · exact (validateLookbackWindow_eq_ok.mp h).choose_spec.2
    · cases h
  · rintro ⟨entries, rfl, hfields, hordered⟩
    cases dto with
    | block window =>
      obtain ⟨n, m, -, -, hperm⟩ := id hfields
      have hblock : validateBlockWindow asU64 entries = .ok (.block window) :=
        validateBlockWindow_eq_ok.mpr ⟨window, rfl, hfields, hordered⟩
      simp only [validateWindow, rejectUnknownWindowFields_pair hperm rfl rfl, bind_ok,
        containsKey_pair hperm]
      exact hblock
    | timestamp window =>
      have htimestamp : validateTimestampWindow entries = .ok (.timestamp window) :=
        validateTimestampWindow_eq_ok.mpr ⟨window, rfl, hfields, hordered⟩
      simp only [validateWindow, rejectUnknownWindowFields_pair hfields rfl rfl, bind_ok,
        containsKey_pair hfields]
      exact htimestamp
    | lookback window =>
      obtain ⟨n, -, hperm⟩ := id hfields
      have hlookback : validateLookbackWindow asU64 entries = .ok (.lookback window) :=
        validateLookbackWindow_eq_ok.mpr ⟨window, rfl, hfields, hordered⟩
      simp only [validateWindow, rejectUnknownWindowFields_pair hperm rfl rfl, bind_ok,
        containsKey_pair hperm]
      exact hlookback

end

/-! ### Windows in the domain -/

lemma newBlockWindow_eq_ok {fromBlock toBlock : ℕ} {window : BlockWindow} :
    newBlockWindow fromBlock toBlock = .ok window ↔
      window.fromBlock = fromBlock ∧ window.toBlock = toBlock := by
  unfold newBlockWindow
  constructor
  · intro h
    split_ifs at h
    cases h
    exact ⟨rfl, rfl⟩
  · rintro ⟨rfl, rfl⟩
    exact dif_neg (not_lt.mpr window.ordered)

lemma notLater_iff {fromTimestamp toTimestamp : String} :
    notLater fromTimestamp toTimestamp = true ↔
      ∃ left right, parseRfc3339 fromTimestamp = some left ∧
        parseRfc3339 toTimestamp = some right ∧ compareRfc3339 left right ≠ .gt := by
  unfold notLater
  constructor
  · intro h
    split at h
    · rename_i left right hleft hright
      exact ⟨left, right, hleft, hright, by simpa using h⟩
    · cases h
  · rintro ⟨left, right, hleft, hright, hle⟩
    rw [hleft, hright]
    simpa using hle

lemma newTimestampWindow_eq_ok {fromTimestamp toTimestamp : String} {window : TimestampWindow} :
    newTimestampWindow fromTimestamp toTimestamp = .ok window ↔
      window.fromTimestamp = fromTimestamp ∧ window.toTimestamp = toTimestamp := by
  unfold newTimestampWindow
  constructor
  · intro h
    split at h
    · cases h
    · split at h
      · cases h
      · split_ifs at h
        cases h
        exact ⟨rfl, rfl⟩
  · rintro ⟨rfl, rfl⟩
    obtain ⟨left, right, hleft, hright, hle⟩ := notLater_iff.mp window.ordered
    split
    · rename_i hnone
      rw [hleft] at hnone
      cases hnone
    · rename_i left' hsome
      split
      · rename_i hnone
        rw [hright] at hnone
        cases hnone
      · rename_i right' hsome'
        cases hleft.symm.trans hsome
        cases hright.symm.trans hsome'
        rw [dif_neg hle]

lemma latest_eq_ok {lookbackSeconds : ℕ} {window : LookbackWindow} :
    latest lookbackSeconds = .ok window ↔ window.lookbackSeconds = lookbackSeconds := by
  unfold latest
  constructor
  · intro h
    split_ifs at h
    cases h
    rfl
  · rintro rfl
    exact dif_neg (Nat.pos_iff_ne_zero.mp window.positive)

/-- The domain makes a window from the edge's exactly if it would be shown so. -/
lemma toWindow_eq_ok {dto : OnchainWindowDTO} {window : OnchainWindow} :
    dto.toWindow = .ok window ↔ OnchainWindowDTO.ofWindow window = dto := by
  unfold OnchainWindowDTO.toWindow
  cases dto with
  | block dto =>
    simp only [mapError_eq_ok, map_eq_ok, newBlockWindow_eq_ok]
    cases window <;> simp [OnchainWindowDTO.ofWindow, BlockWindowDTO.ext_iff]
  | timestamp dto =>
    simp only [mapError_eq_ok, map_eq_ok, newTimestampWindow_eq_ok]
    cases window <;> simp [OnchainWindowDTO.ofWindow, TimestampWindowDTO.ext_iff]
  | lookback dto =>
    simp only [mapError_eq_ok, map_eq_ok, latest_eq_ok]
    cases window <;> simp [OnchainWindowDTO.ofWindow, LookbackWindowDTO.ext_iff]

/-- The windows of the edge that are in order are those that the domain has. -/
lemma ordered_iff {dto : OnchainWindowDTO} :
    dto.Ordered ↔ ∃ window, OnchainWindowDTO.ofWindow window = dto := by
  constructor
  · intro h
    cases dto with
    | block dto => exact ⟨.block ⟨dto.fromBlock, dto.toBlock, h⟩, rfl⟩
    | timestamp dto =>
      obtain ⟨left, right, hleft, hright, hle⟩ := h
      have hordered := notLater_iff.mpr
        ⟨left, right, hleft, hright, (not_gt_iff ⟨_, hleft⟩ ⟨_, hright⟩).mpr hle⟩
      exact ⟨.timestamp ⟨dto.fromTimestamp, dto.toTimestamp, hordered⟩, rfl⟩
    | lookback dto => exact ⟨.lookback ⟨dto.lookbackSeconds, h⟩, rfl⟩
  · rintro ⟨window, rfl⟩
    cases window with
    | block window => exact window.ordered
    | timestamp window =>
      obtain ⟨left, right, hleft, hright, hle⟩ := notLater_iff.mp window.ordered
      exact ⟨left, right, hleft, hright, (not_gt_iff ⟨_, hleft⟩ ⟨_, hright⟩).mp hle⟩
    | lookback window => exact window.positive

lemma code_of_toWindow {dto : OnchainWindowDTO} {error : ApiError}
    (h : dto.toWindow = .error error) : error.code = "invalid_window" := by
  have hcode : ∀ error : InvalidOnchainWindowError,
      error.toApiError.code = "invalid_window" := by
    intro error
    cases error <;> rfl
  have hmap : ∀ {x : Except InvalidOnchainWindowError OnchainWindow},
      x.mapError InvalidOnchainWindowError.toApiError = .error error →
        error.code = "invalid_window" := by
    intro x hx
    cases x with
    | ok window => cases hx
    | error e =>
      cases hx
      exact hcode e
  cases dto <;> exact hmap h

/-! ### Agreement -/

lemma parse_text {timestamp : Timestamp} {seconds : ℤ} (h : timestamp.IsSeconds seconds) :
    parseRfc3339 (String.ofList timestamp.text) = some ⟨seconds, timestamp.time.fraction⟩ :=
  parseRfc3339_eq_some.mpr ⟨timestamp, String.toList_ofList, h, rfl⟩

/-- The offset of a timestamp and the zeros at its end do not count. -/
lemma compare_same {timestamp timestamp' : Timestamp} {seconds : ℤ} {digits : List Char} {n m : ℕ}
    {left right : ParsedRfc3339} (h : timestamp.IsSeconds seconds)
    (h' : timestamp'.IsSeconds seconds)
    (hdigits : timestamp.time.fraction = digits ++ List.replicate n '0')
    (hdigits' : timestamp'.time.fraction = digits ++ List.replicate m '0')
    (hleft : parseRfc3339 (String.ofList timestamp.text) = some left)
    (hright : parseRfc3339 (String.ofList timestamp'.text) = some right) :
    compareRfc3339 left right = .eq := by
  rw [compareRfc3339_eq ⟨_, hleft⟩ ⟨_, hright⟩, compare_eq_iff_eq]
  rw [parse_text h, Option.some.injEq] at hleft
  rw [parse_text h', Option.some.injEq] at hright
  subst hleft hright
  simp only [instant, hdigits, hdigits', fraction_append_zeros]

/-- The edge and the domain agree on what a window is. -/
structure EdgeAgrees {ν : Type} (asU64 : ν → Option ℕ) : Prop where
  order : ∀ {left right}, Parsed left → Parsed right →
    compareRfc3339 left right = compare (instant left) (instant right)
  total : ∀ {left right}, Parsed left → Parsed right →
    compareRfc3339 left right ≠ .gt ∨ compareRfc3339 right left ≠ .gt
  trans : ∀ {first second third}, Parsed first → Parsed second → Parsed third →
    compareRfc3339 first second ≠ .gt → compareRfc3339 second third ≠ .gt →
    compareRfc3339 first third ≠ .gt
  same : ∀ {timestamp timestamp' : Timestamp} {seconds : ℤ} {digits : List Char} {n m : ℕ}
    {left right : ParsedRfc3339}, timestamp.IsSeconds seconds → timestamp'.IsSeconds seconds →
    timestamp.time.fraction = digits ++ List.replicate n '0' →
    timestamp'.time.fraction = digits ++ List.replicate m '0' →
    parseRfc3339 (String.ofList timestamp.text) = some left →
    parseRfc3339 (String.ofList timestamp'.text) = some right → compareRfc3339 left right = .eq
  accepted : ∀ {value : Option (Value ν)} {dto : OnchainWindowDTO},
    validateWindow asU64 value = .ok dto ↔
      ∃ entries, value = some (.object entries) ∧ dto.Fields asU64 entries ∧ dto.Ordered
  kept : ∀ {value : Option (Value ν)} {dto : OnchainWindowDTO},
    validateWindow asU64 value = .ok dto →
    ∃ window, dto.toWindow = .ok window ∧ OnchainWindowDTO.ofWindow window = dto
  refused : ∀ {dto : OnchainWindowDTO}, ¬dto.Ordered →
    ∃ error, dto.toWindow = .error error ∧ error.code = "invalid_window"

/-- **The edge and the domain agree on windows**: timestamps are in the order of their instants, the
edge accepts the windows in order, and the domain takes those and no others. -/
theorem edge_agrees {ν : Type} (asU64 : ν → Option ℕ) : EdgeAgrees asU64 where
  order := compareRfc3339_eq
  total hleft hright := by
    rw [not_gt_iff hleft hright, not_gt_iff hright hleft]
    exact le_total _ _
  trans hfirst hsecond hthird := by
    rw [not_gt_iff hfirst hsecond, not_gt_iff hsecond hthird, not_gt_iff hfirst hthird]
    exact le_trans
  same := compare_same
  accepted := validateWindow_eq_ok
  kept h := by
    obtain ⟨-, -, -, hordered⟩ := validateWindow_eq_ok.mp h
    obtain ⟨window, hwindow⟩ := ordered_iff.mp hordered
    exact ⟨window, toWindow_eq_ok.mpr hwindow, hwindow⟩
  refused {dto} hnot := by
    cases h : dto.toWindow with
    | ok window => exact absurd (ordered_iff.mpr ⟨window, toWindow_eq_ok.mp h⟩) hnot
    | error error => exact ⟨error, rfl, code_of_toWindow h⟩

/-- The fields may stand in either order, and a field of another window is refused. -/
example : validateWindow some (some (.object [("to_block", .number 7), ("from_block", .number 5)]))
      = .ok (.block ⟨5, 7⟩) ∧
    validateWindow some (some (.object [("to_block", .number 7), ("lookback_seconds", .number 5)]))
      = .error .invalidWindow := by decide

end MotherApi.OnchainWindows
