import MotherApi.Lib.JsonTrees
import MotherApi.Lib.Numerals

/-!
The text that is hashed of a JSON value.

The portfolio simulation and the reports both write a value with the keys of every object in
order. The one sorts the keys and looks each up, the other sorts the entries. How numbers and
strings are written is that of the JSON library.
-/

namespace MotherApi.CanonicalJson

open MotherApi.Lib.JsonTrees MotherApi.Lib.Numerals

variable {ν : Type*}

/-- A JSON value: its objects are maps. -/
abbrev Json (ν : Type*) := { value : Value ν // DistinctKeys value }

section

variable (encoding : Encoding ν)

/-- A key that is looked up is one of the keys of the map, so the lookup does not panic. -/
def PortfolioSimulation.canonicalJson : Value ν → List Char
  | .object map =>
    let keys := (map.map Prod.fst).insertionSort (· ≤ ·)
    '{' :: ([','].intercalate (keys.map fun key => encoding.string key ++ ':' ::
      match _hkey : map.find? (·.1 == key) with
      | some entry => PortfolioSimulation.canonicalJson entry.2
      | none => []) ++ ['}'])
  | .array values =>
    '[' :: ([','].intercalate (values.map fun value => PortfolioSimulation.canonicalJson value) ++
      [']'])
  | value => print encoding value
termination_by value => sizeOf value
decreasing_by
  · exact sizeOf_lt_object (List.mem_of_find?_eq_some ‹_›)
  · exact sizeOf_lt_array ‹_›

def Reports.canonicalJson : Value ν → List Char
  | .object object =>
    '{' :: ([','].intercalate ((sortByKey object).attach.map fun ⟨entry, _⟩ =>
      encoding.string entry.1 ++ ':' :: Reports.canonicalJson entry.2) ++ ['}'])
  | .array values =>
    '[' :: ([','].intercalate (values.map fun value => Reports.canonicalJson value) ++ [']'])
  | value => print encoding value
termination_by value => sizeOf value
decreasing_by
  · exact sizeOf_lt_object ((sortByKey_perm _).mem_iff.mp ‹_›)
  · exact sizeOf_lt_array ‹_›

/-! ### Both are the text of the value in order -/

lemma Reports.canonicalJson_object (object : List (String × Value ν)) :
    Reports.canonicalJson encoding (.object object) =
      '{' :: ([','].intercalate ((sortByKey object).map fun entry => encoding.string entry.1 ++
        ':' :: Reports.canonicalJson encoding entry.2) ++ ['}']) := by
  rw [Reports.canonicalJson]
  exact congrArg (fun texts => '{' :: ([','].intercalate texts ++ ['}']))
    (List.attach_map_val (f := fun entry : String × Value ν => encoding.string entry.1 ++
      ':' :: Reports.canonicalJson encoding entry.2))

lemma Reports.canonicalJson_eq (v : Value ν) :
    Reports.canonicalJson encoding v = print encoding (inOrder v) := by
  induction v using Value.induct with
  | array values ih =>
    rw [inOrder_array, print_array, Reports.canonicalJson, List.map_map]
    rw [List.map_congr_left ih]
    rfl
  | object object ih =>
    rw [inOrder_object, print_object, Reports.canonicalJson_object, ← map_sortByKey, List.map_map]
    have htexts : ∀ entry ∈ sortByKey object, encoding.string entry.1 ++ ':' ::
        Reports.canonicalJson encoding entry.2 =
          printEntry encoding (entry.1, inOrder entry.2) := by
      intro entry hentry
      rw [ih entry ((sortByKey_perm object).mem_iff.mp hentry)]
      rfl
    rw [List.map_congr_left htexts]
    rfl
  | _ => rw [Reports.canonicalJson, inOrder] <;> simp

lemma find?_key {entries : List (String × Value ν)} (hnodup : (entries.map Prod.fst).Nodup)
    {entry : String × Value ν} (hentry : entry ∈ entries) :
    entries.find? (·.1 == entry.1) = some entry := by
  cases hfound : entries.find? (·.1 == entry.1) with
  | none => simpa using List.find?_eq_none.mp hfound entry hentry
  | some found =>
    have hkey : found.1 = entry.1 := by simpa using List.find?_some hfound
    rw [List.inj_on_of_nodup_map hnodup (List.mem_of_find?_eq_some hfound) hentry hkey]

lemma PortfolioSimulation.canonicalJson_eq {v : Value ν} (hv : DistinctKeys v) :
    PortfolioSimulation.canonicalJson encoding v = Reports.canonicalJson encoding v := by
  induction v using Value.induct with
  | array values ih =>
    rw [DistinctKeys] at hv
    rw [PortfolioSimulation.canonicalJson, Reports.canonicalJson]
    rw [List.map_congr_left fun value hvalue => ih value hvalue (hv value hvalue)]
  | object map ih =>
    rw [DistinctKeys] at hv
    rw [PortfolioSimulation.canonicalJson, Reports.canonicalJson_object, ← keys_sortByKey,
      List.map_map]
    refine congrArg (fun texts => '{' :: ([','].intercalate texts ++ ['}'])) ?_
    refine List.map_congr_left fun entry hentry => ?_
    have hmem := (sortByKey_perm map).mem_iff.mp hentry
    have hfound := find?_key hv.1 hmem
    simp only [Function.comp_apply]
    split
    · rename_i found hsome
      rw [hfound, Option.some.injEq] at hsome
      rw [← hsome, ih entry hmem (hv.2 entry hmem)]
    · rename_i hnone
      rw [hfound] at hnone
      cases hnone
  | _ => rw [PortfolioSimulation.canonicalJson, Reports.canonicalJson] <;> simp

end

lemma Reports.canonicalJson_eq_iff {encoding : Encoding ν} (hlawful : encoding.Lawful)
    {v w : Value ν} (hv : DistinctKeys v) (hw : DistinctKeys w) :
    Reports.canonicalJson encoding v = Reports.canonicalJson encoding w ↔ SameUpToOrder v w := by
  rw [Reports.canonicalJson_eq, Reports.canonicalJson_eq, (print_injective hlawful).eq_iff,
    inOrder_eq_iff hv hw]

/-- **The hashed text is faithful**: two values have one text exactly if they are the same up to
the order of keys at every depth, and both services write the same text. -/
theorem canonicalJson_faithful {encoding : Encoding ν} (hlawful : encoding.Lawful) (v w : Json ν) :
    (Reports.canonicalJson encoding v.1 = Reports.canonicalJson encoding w.1 ↔
      SameUpToOrder v.1 w.1) ∧
    (PortfolioSimulation.canonicalJson encoding v.1 =
        PortfolioSimulation.canonicalJson encoding w.1 ↔ SameUpToOrder v.1 w.1) ∧
    PortfolioSimulation.canonicalJson encoding v.1 = Reports.canonicalJson encoding v.1 := by
  have hsame := Reports.canonicalJson_eq_iff hlawful v.2 w.2
  refine ⟨hsame, ?_, PortfolioSimulation.canonicalJson_eq encoding v.2⟩
  rw [PortfolioSimulation.canonicalJson_eq encoding v.2,
    PortfolioSimulation.canonicalJson_eq encoding w.2, hsame]

/-! ### Whole numbers, and strings without control characters -/

def numberText (n : ℕ) : List Char :=
  ((if n = 0 then [0] else Nat.digits 10 n).reverse).map digitChar

def escapeChar (c : Char) : List Char := if c = '"' ∨ c = '\\' then ['\\', c] else [c]

/-- Whole numbers in decimal, strings with their quotes and backslashes escaped. -/
def plainEncoding : Encoding ℕ where
  number := numberText
  string s := '"' :: (s.toList.flatMap escapeChar ++ ['"'])

lemma numberText_digits (n : ℕ) : numberText n ≠ [] ∧ AllDigits (numberText n) ∧
    number (numberText n) = n := by
  have hdigits : ∀ d ∈ (if n = 0 then [0] else Nat.digits 10 n), d < 10 := by
    intro d hd
    split at hd
    · rw [List.mem_singleton.mp hd]
      decide
    · exact Nat.digits_lt_base (by decide) hd
  refine ⟨?_, allDigits_map_digitChar fun d hd => hdigits d (List.mem_reverse.mp hd), ?_⟩
  · have hne : (if n = 0 then [0] else Nat.digits 10 n) ≠ [] := by
      split
      · decide
      · rename_i hn
        exact Nat.digits_ne_nil_iff_ne_zero.mpr hn
    simpa [numberText] using hne
  · rw [numberText, number_reverse_map_digitChar hdigits]
    split
    · rename_i hn
      rw [hn]
      rfl
    · exact Nat.ofDigits_digits 10 n

lemma isStructural_of_isDigit {c : Char} (h : c.isDigit = true) : isStructural c = false := by
  by_contra hc
  simp only [isStructural, Bool.not_eq_false, List.contains_eq_mem, List.mem_cons,
    List.not_mem_nil, or_false, decide_eq_true_eq] at hc
  rcases hc with rfl | rfl | rfl | rfl | rfl | rfl | rfl <;> exact absurd h (by decide)

lemma escaped_flatMap (cs : List Char) : Escaped (cs.flatMap escapeChar) := by
  induction cs with
  | nil => exact .nil
  | cons c cs ih =>
    rw [List.flatMap_cons, escapeChar]
    split
    · exact .escape c ih
    · rename_i hc
      exact .plain (fun h => hc (Or.inl h)) (fun h => hc (Or.inr h)) ih

lemma escapeChar_append_inj {c c' : Char} {rest rest' : List Char}
    (heq : escapeChar c ++ rest = escapeChar c' ++ rest') : c = c' ∧ rest = rest' := by
  unfold escapeChar at heq
  split at heq <;> split at heq
  · simpa using heq
  · rename_i hc'
    simp only [List.cons_append, List.cons.injEq] at heq
    exact absurd (Or.inr heq.1.symm) hc'
  · rename_i hc _
    simp only [List.cons_append, List.cons.injEq] at heq
    exact absurd (Or.inr heq.1) hc
  · simpa using heq

lemma flatMap_escapeChar_injective : Function.Injective (List.flatMap escapeChar) := by
  have hne : ∀ c, escapeChar c ≠ [] := by
    intro c
    unfold escapeChar
    split <;> simp
  intro cs cs' heq
  induction cs generalizing cs' with
  | nil =>
    cases cs' with
    | nil => rfl
    | cons c cs' => simp [hne] at heq
  | cons c cs ih =>
    cases cs' with
    | nil => simp [hne] at heq
    | cons c' cs' =>
      rw [List.flatMap_cons, List.flatMap_cons] at heq
      obtain ⟨rfl, hrest⟩ := escapeChar_append_inj heq
      rw [ih hrest]

lemma plainEncoding_lawful : plainEncoding.Lawful where
  number_injective n n' heq := by
    rw [← (numberText_digits n).2.2, ← (numberText_digits n').2.2]
    exact congrArg number heq
  number_plain n :=
    ⟨(numberText_digits n).1, fun c hc => isStructural_of_isDigit ((numberText_digits n).2.1 c hc)⟩
  number_ne_literal n := by
    have hdigits : AllDigits (plainEncoding.number n) := (numberText_digits n).2.1
    refine ⟨?_, ?_, ?_⟩ <;> intro heq <;> rw [heq] at hdigits
    · exact absurd (hdigits 'n' (by decide)) (by decide)
    · exact absurd (hdigits 't' (by decide)) (by decide)
    · exact absurd (hdigits 'f' (by decide)) (by decide)
  string_injective s s' heq := by
    have hbody : s.toList.flatMap escapeChar = s'.toList.flatMap escapeChar := by
      simpa [plainEncoding] using heq
    exact String.toList_inj.mp (flatMap_escapeChar_injective hbody)
  string_quoted s := ⟨_, escaped_flatMap s.toList, rfl⟩

/-- An object and the same object in another order. -/
def sampleObject : Value ℕ :=
  .object [("version", .number 1), ("input", .array [.null, .string "a\"b"])]

def reorderedObject : Value ℕ :=
  .object [("input", .array [.null, .string "a\"b"]), ("version", .number 1)]

theorem canonicalJson_faithful_sample :
    Reports.canonicalJson plainEncoding sampleObject =
      PortfolioSimulation.canonicalJson plainEncoding reorderedObject := by
  have hv : DistinctKeys sampleObject := by simp [sampleObject, DistinctKeys]
  have hw : DistinctKeys reorderedObject := by simp [reorderedObject, DistinctKeys]
  have hsame : SameUpToOrder sampleObject reorderedObject :=
    sameUpToOrder_of_perm hv (List.Perm.swap _ _ _)
  obtain ⟨hreports, -, -⟩ := canonicalJson_faithful plainEncoding_lawful ⟨_, hv⟩ ⟨_, hw⟩
  obtain ⟨-, -, hboth⟩ := canonicalJson_faithful plainEncoding_lawful ⟨_, hw⟩ ⟨_, hw⟩
  exact (hreports.mpr hsame).trans hboth.symm

end MotherApi.CanonicalJson
