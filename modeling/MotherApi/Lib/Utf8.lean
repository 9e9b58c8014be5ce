import Mathlib.Data.List.Basic
import Mathlib.Data.Char

/-!
The bytes of a text in UTF-8.

A byte is written as the character of its code. A text of ASCII characters is its own bytes, and
any other text has a byte that is no ASCII character. So a function that has a value on ASCII
texts only has the same value on a text and on its bytes.
-/

namespace MotherApi.Lib.Utf8

universe u

def charBytes (c : Char) : List Char := (String.utf8EncodeChar c).map fun b => Char.ofNat b.toNat

def bytes (text : List Char) : List Char := text.flatMap charBytes

def Ascii (text : List Char) : Prop := ∀ c ∈ text, c.toNat < 128

@[simp] lemma bytes_nil : bytes [] = [] := rfl

lemma bytes_cons (c : Char) (text : List Char) : bytes (c :: text) = charBytes c ++ bytes text :=
  List.flatMap_cons

lemma bytes_append (a b : List Char) : bytes (a ++ b) = bytes a ++ bytes b := List.flatMap_append

lemma length_charBytes (c : Char) : (charBytes c).length = c.utf8Size := by
  rw [charBytes, List.length_map, String.length_utf8EncodeChar]

lemma toNat_byte (n : ℕ) : (Char.ofNat (UInt8.ofNat n).toNat).toNat = n % 256 := by
  have hlt : (UInt8.ofNat n).toNat < 2 ^ 8 := UInt8.toNat_lt _
  rw [Char.ofNat, dif_pos (Or.inl (by omega))]
  exact UInt8.toNat_ofNat'

lemma charBytes_ascii {c : Char} (h : c.toNat < 128) : charBytes c = [c] := by
  have hvalue : c.val.toNat = c.toNat := rfl
  have hbyte : Char.ofNat (UInt8.ofNat c.toNat).toNat = c := by
    apply Char.ext
    apply UInt32.toNat_inj.mp
    have hcode := toNat_byte c.toNat
    rw [Nat.mod_eq_of_lt (by omega)] at hcode
    exact hcode
  unfold charBytes String.utf8EncodeChar
  simp only [hvalue, if_pos (show c.toNat ≤ 127 by omega), List.map_cons, List.map_nil, hbyte]

/-- The bytes of any other character are no ASCII characters. -/
lemma le_charBytes {c : Char} (h : 128 ≤ c.toNat) : ∀ b ∈ charBytes c, 128 ≤ b.toNat := by
  have hvalue : c.val.toNat = c.toNat := rfl
  intro b hb
  unfold charBytes String.utf8EncodeChar at hb
  simp only [hvalue, if_neg (show ¬c.toNat ≤ 127 by omega)] at hb
  split_ifs at hb
  all_goals
    simp only [List.map_cons, List.map_nil, List.mem_cons, List.not_mem_nil, or_false] at hb
    rcases hb with rfl | rfl | rfl | rfl <;> rw [toNat_byte] <;> omega

lemma bytes_of_ascii {text : List Char} (h : Ascii text) : bytes text = text := by
  induction text with
  | nil => rfl
  | cons c text ih =>
    rw [bytes_cons, charBytes_ascii (h c List.mem_cons_self),
      ih fun d hd => h d (List.mem_cons_of_mem _ hd), List.singleton_append]

lemma ascii_of_bytes {text : List Char} (h : Ascii (bytes text)) : Ascii text := by
  intro c hc
  by_contra hhigh
  have hne : charBytes c ≠ [] := by
    rw [← List.length_pos_iff, length_charBytes]
    exact c.utf8Size_pos
  obtain ⟨b, hb⟩ := List.exists_mem_of_ne_nil _ hne
  have hlow := h b (List.mem_flatMap.mpr ⟨c, hc, hb⟩)
  have hle := le_charBytes (by omega) b hb
  omega

/-- A function with values on ASCII texts only cannot tell a text from its bytes. -/
lemma eq_of_ascii {β : Type u} {f : List Char → Option β}
    (h : ∀ text b, f text = some b → Ascii text) (text : List Char) : f (bytes text) = f text := by
  by_cases hascii : Ascii text
  · rw [bytes_of_ascii hascii]
  · have hnone : f text = none := by
      rw [Option.eq_none_iff_forall_ne_some]
      exact fun b hb => hascii (h text b hb)
    have hnone' : f (bytes text) = none := by
      rw [Option.eq_none_iff_forall_ne_some]
      exact fun b hb => hascii (ascii_of_bytes (h _ b hb))
    rw [hnone, hnone']

/-- A byte that is an ASCII character is that character of the text. -/
lemma exists_split_of_byte {text : List Char} {i : ℕ} {mark : Char} (hmark : mark.toNat < 128)
    (h : (bytes text)[i]? = some mark) :
    ∃ front rest, text = front ++ mark :: rest ∧ (bytes front).length = i := by
  induction text generalizing i with
  | nil => simp at h
  | cons c text ih =>
    rw [bytes_cons] at h
    by_cases hlt : i < (charBytes c).length
    · rw [List.getElem?_append_left hlt] at h
      by_cases hc : c.toNat < 128
      · rw [charBytes_ascii hc] at h hlt
        have hzero : i = 0 := by simpa using hlt
        subst hzero
        simp only [List.getElem?_cons_zero, Option.some.injEq] at h
        exact ⟨[], text, by rw [h, List.nil_append], rfl⟩
      · have := le_charBytes (by omega) mark (List.mem_of_getElem? h)
        omega
    · rw [List.getElem?_append_right (by omega)] at h
      obtain ⟨front, rest, rfl, hlen⟩ := ih h
      refine ⟨c :: front, rest, rfl, ?_⟩
      rw [bytes_cons, List.length_append]
      omega

end MotherApi.Lib.Utf8
