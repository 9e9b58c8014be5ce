import Mathlib.Data.String.Basic
import Mathlib.Data.List.Basic

/-!
Text as the service handles it: ASCII case, digits, whitespace, and the two shapes of
identifier it checks by hand.

A Rust string is valid UTF-8 and a Lean string is too. Tests on its bytes that ask for an
ASCII class are tests on its characters, since every byte of a longer character is outside
ASCII.
-/

namespace MotherApi.Strings

def toAsciiLowercase (value : String) : String := String.ofList (value.toList.map Char.toLower)

def toAsciiUppercase (value : String) : String := String.ofList (value.toList.map Char.toUpper)

def eqIgnoreAsciiCase (left right : String) : Bool :=
  toAsciiLowercase left == toAsciiLowercase right

def isAsciiDigit (c : Char) : Bool := c.isDigit

def isAsciiHexdigit (c : Char) : Bool :=
  c.isDigit || (decide ('a' ≤ c) && decide (c ≤ 'f')) || (decide ('A' ≤ c) && decide (c ≤ 'F'))

/-- The characters with the property `White_Space`, which `trim` removes. -/
def isWhitespace (c : Char) : Bool :=
  (9 ≤ c.toNat && c.toNat ≤ 13) || c.toNat == 0x20 || c.toNat == 0x85 || c.toNat == 0xA0 ||
    c.toNat == 0x1680 || (0x2000 ≤ c.toNat && c.toNat ≤ 0x200A) || c.toNat == 0x2028 ||
    c.toNat == 0x2029 || c.toNat == 0x202F || c.toNat == 0x205F || c.toNat == 0x3000

def trim (value : String) : String :=
  String.ofList ((value.toList.dropWhile isWhitespace).reverse.dropWhile isWhitespace).reverse

/-- Two hyphens in a row. -/
def containsDoubleHyphen : List Char → Bool
  | a :: b :: rest => (a == '-' && b == '-') || containsDoubleHyphen (b :: rest)
  | _ => false

def isAssetSlug (assetSlug : String) : Bool :=
  let characters := assetSlug.toList
  if characters.isEmpty || characters.head? == some '-' || characters.getLast? == some '-'
      || containsDoubleHyphen characters then false
  else characters.all fun character => character.isLower || character.isDigit || character == '-'

def isEvmAddress (address : String) : Bool :=
  let characters := address.toList
  characters.length == 42 && characters.take 2 == ['0', 'x']
    && (characters.drop 2).all isAsciiHexdigit

/-! ### Lower case -/

lemma toLower_toLower (c : Char) : c.toLower.toLower = c.toLower := by
  unfold Char.toLower
  grind

@[simp] lemma toAsciiLowercase_idem (value : String) :
    toAsciiLowercase (toAsciiLowercase value) = toAsciiLowercase value := by
  simp only [toAsciiLowercase, String.toList_ofList, List.map_map, Function.comp_def,
    toLower_toLower]

lemma toLower_toUpper (c : Char) : c.toUpper.toLower = c.toLower := by
  by_cases h : 97 ≤ c.toNat ∧ c.toNat ≤ 122
  · have hletters : ∀ n < 123, 97 ≤ n →
        (Char.ofNat n).toUpper.toLower = (Char.ofNat n).toLower := by
      decide
    have := hletters c.toNat (by omega) h.1
    rwa [Char.ofNat_toNat] at this
  · have hupper : c.toUpper = c := dif_neg h
    rw [hupper]

lemma toAsciiLowercase_toAsciiUppercase (value : String) :
    toAsciiLowercase (toAsciiUppercase value) = toAsciiLowercase value := by
  simp only [toAsciiLowercase, toAsciiUppercase, String.toList_ofList, List.map_map,
    Function.comp_def, toLower_toUpper]

lemma toLower_of_slug {c : Char} (h : (c.isLower || c.isDigit || c == '-') = true) :
    c.toLower = c := by
  simp only [Bool.or_eq_true, beq_iff_eq] at h
  unfold Char.toLower
  rcases h with (h | h) | rfl
  · unfold Char.isLower at h
    grind
  · unfold Char.isDigit at h
    grind
  · rfl

lemma isAssetSlug_all {slug : String} (h : isAssetSlug slug = true) :
    ∀ c ∈ slug.toList, (c.isLower || c.isDigit || c == '-') = true := by
  unfold isAssetSlug at h
  simp only at h
  split at h
  · cases h
  · exact List.all_eq_true.mp h

lemma toAsciiLowercase_of_slug {slug : String} (h : isAssetSlug slug = true) :
    toAsciiLowercase slug = slug := by
  have hmap : slug.toList.map Char.toLower = slug.toList.map id :=
    List.map_congr_left fun c hc => toLower_of_slug (isAssetSlug_all h c hc)
  rw [toAsciiLowercase, hmap, List.map_id, String.ofList_toList]

/-! ### Whitespace -/

lemma toLower_of_whitespace {c : Char} (h : isWhitespace c = true) : c.toLower = c := by
  unfold Char.toLower
  rw [dif_neg]
  rintro ⟨h1, h2⟩
  have h1 : 65 ≤ c.toNat := h1
  have h2 : c.toNat ≤ 90 := h2
  simp only [isWhitespace, Bool.or_eq_true, Bool.and_eq_true, decide_eq_true_eq, beq_iff_eq] at h
  omega

lemma trim_of_no_whitespace {value : String} (h : ∀ c ∈ value.toList, isWhitespace c = false) :
    trim value = value := by
  have hdrop (l : List Char) (hl : ∀ c ∈ l, isWhitespace c = false) :
      l.dropWhile isWhitespace = l := by
    cases l with
    | nil => rfl
    | cons c l => simp [hl c List.mem_cons_self]
  rw [trim, hdrop _ h, hdrop _ (by simpa using h), List.reverse_reverse, String.ofList_toList]

end MotherApi.Strings
