import MotherApi.Lib.Fallible
import Mathlib.Algebra.Field.Defs
import Mathlib.Algebra.Order.Ring.Int

/-!
Indexing and arithmetic that panic where they leave their range.

An index out of range and a division by zero panic in every build, and a sum or a difference that
does not fit panics in a build with overflow checks. A function that is written with these returns
a value exactly if none of its operations is out of range.
-/

namespace MotherApi.Lib.Checked

open MotherApi.Lib.Fallible

universe u v

variable {ε : Type v} {α : Type u}

/-- `list[i]`. -/
def getAt (l : List α) (i : ℕ) : Except (Halt ε) α := expect l[i]?

/-- `list[start..stop]`. -/
def slice (l : List α) (start stop : ℕ) : Except (Halt ε) (List α) :=
  if start ≤ stop ∧ stop ≤ l.length then .ok ((l.drop start).take (stop - start))
  else .error .panic

/-- `a - b` of an unsigned type. -/
def sub (a b : ℕ) : Except (Halt ε) ℕ := if b ≤ a then .ok (a - b) else .error .panic

/-- `a + b` in `bits` bits. -/
def add (bits a b : ℕ) : Except (Halt ε) ℕ :=
  if a + b < 2 ^ bits then .ok (a + b) else .error .panic

/-- The result of an operation of a signed type of `bits` bits. -/
def signed (bits : ℕ) (n : ℤ) : Except (Halt ε) ℤ :=
  if -2 ^ (bits - 1) ≤ n ∧ n < 2 ^ (bits - 1) then .ok n else .error .panic

/-- The result of an operation of an unsigned type of `bits` bits, or of a conversion to it. -/
def unsigned (bits n : ℕ) : Except (Halt ε) ℕ := if n < 2 ^ bits then .ok n else .error .panic

/-- `n.clamp(low, high)`, which panics if the bounds are in the wrong order. -/
def clamp {K : Type*} [LinearOrder K] (n low high : K) : Except (Halt ε) K :=
  if low ≤ high then .ok (max low (min n high)) else .error .panic

/-- `a / b` of exact numbers. -/
def div {K : Type*} [Field K] [DecidableEq K] (a b : K) : Except (Halt ε) K :=
  if b = 0 then .error .panic else .ok (a / b)

lemma getAt_of_lt {l : List α} {i : ℕ} (h : i < l.length) :
    (getAt l i : Except (Halt ε) α) = .ok l[i] := by
  rw [getAt, List.getElem?_eq_getElem h]
  rfl

lemma slice_of_le {l : List α} {start stop : ℕ} (h : start ≤ stop) (h' : stop ≤ l.length) :
    (slice l start stop : Except (Halt ε) (List α)) = .ok ((l.drop start).take (stop - start)) :=
  if_pos ⟨h, h'⟩

lemma sub_of_le {a b : ℕ} (h : b ≤ a) : (sub a b : Except (Halt ε) ℕ) = .ok (a - b) := if_pos h

lemma add_of_lt {bits a b : ℕ} (h : a + b < 2 ^ bits) :
    (add bits a b : Except (Halt ε) ℕ) = .ok (a + b) := if_pos h

lemma signed_of_mem {bits : ℕ} {n : ℤ} (h : -2 ^ (bits - 1) ≤ n ∧ n < 2 ^ (bits - 1)) :
    (signed bits n : Except (Halt ε) ℤ) = .ok n := if_pos h

lemma unsigned_of_lt {bits n : ℕ} (h : n < 2 ^ bits) :
    (unsigned bits n : Except (Halt ε) ℕ) = .ok n := if_pos h

lemma clamp_of_le {K : Type*} [LinearOrder K] {n low high : K} (h : low ≤ high) :
    (clamp n low high : Except (Halt ε) K) = .ok (max low (min n high)) := if_pos h

lemma signed_of_not_mem {bits : ℕ} {n : ℤ} (h : ¬(-2 ^ (bits - 1) ≤ n ∧ n < 2 ^ (bits - 1))) :
    (signed bits n : Except (Halt ε) ℤ) = .error .panic := if_neg h

lemma signed_bind {β : Type} {bits : ℕ} {n : ℤ} {f : ℤ → Except (Halt ε) β}
    (h : -2 ^ (bits - 1) ≤ n ∧ n < 2 ^ (bits - 1)) : (signed bits n >>= f) = f n := by
  rw [signed_of_mem h]
  rfl

lemma div_of_ne {K : Type*} [Field K] [DecidableEq K] {a b : K} (h : b ≠ 0) :
    (div a b : Except (Halt ε) K) = .ok (a / b) := if_neg h

lemma add_eq_ok {bits a b c : ℕ} (h : (add bits a b : Except (Halt ε) ℕ) = .ok c) :
    c = a + b ∧ c < 2 ^ bits := by
  unfold add at h
  split at h
  · rename_i hlt
    cases h
    exact ⟨rfl, hlt⟩
  · cases h

end MotherApi.Lib.Checked
