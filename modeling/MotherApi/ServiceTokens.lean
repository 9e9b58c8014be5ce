import MotherApi.AsyncReports
import MotherApi.OnchainWindows
import Mathlib.Data.Nat.Bitwise

/-!
The token that Bigwig presents when it delivers the outcome of a report.

It is compared with the configured one over the length of the longer of the two, with zeros in
place of what the shorter does not have, so that the time does not tell how much of it was right.
The lengths are compared too, and the zeros make no difference: two tokens pass exactly if they
are the same.
-/

namespace MotherApi.ServiceTokens

open MotherApi.OnchainWindows MotherApi.AsyncReports

/-! ### The code -/

def internalUnauthorized : OnchainWindows.ApiError :=
  ⟨401, "unauthorized", "The request lacks valid internal credentials."⟩

/-- The step of the loop. `difference` is a `usize`. -/
def differAt (expected presented : List UInt8) (difference index : ℕ) : ℕ :=
  difference ||| (expected.getD index 0 ^^^ presented.getD index 0).toNat

def constantTimeEq (expected presented : List UInt8) : Bool :=
  let maxLen := max expected.length presented.length
  (List.range maxLen).foldl (differAt expected presented)
    (expected.length ^^^ presented.length) == 0

/-- `value.strip_prefix("Bearer ")`. -/
def stripBearer (value : String) : Option String :=
  if "Bearer ".toList <+: value.toList then some (String.ofList (value.toList.drop 7)) else none

def bearerToken : Header → Option String
  | .text value => (stripBearer value).filter fun token => !token.isEmpty
  | _ => none

def asBytes (text : String) : List UInt8 := text.toByteArray.data.toList

/-- The handler runs on a valid token only. -/
def requireBigwigReportOutcomeToken {ρ : Type} (configured : Option String)
    (authorization : Header) (next : Unit → ρ) : Except OnchainWindows.ApiError ρ :=
  let valid := match configured, bearerToken authorization with
    | some expected, some presented => constantTimeEq (asBytes expected) (asBytes presented)
    | _, _ => false
  if !valid then .error internalUnauthorized else .ok (next ())

/-! ### The comparison -/

lemma toNat_xor_eq_zero {a b : UInt8} : (a ^^^ b).toNat = 0 ↔ a = b := by
  rw [← UInt8.toNat_zero, UInt8.toNat_inj, UInt8.xor_eq_zero_iff]

lemma foldl_differAt (expected presented : List UInt8) (indexes : List ℕ) (difference : ℕ) :
    indexes.foldl (differAt expected presented) difference = 0 ↔
      difference = 0 ∧ ∀ index ∈ indexes, expected.getD index 0 = presented.getD index 0 := by
  induction indexes generalizing difference with
  | nil => simp
  | cons index indexes ih =>
    rw [List.foldl_cons, ih, differAt, Nat.or_eq_zero_iff, toNat_xor_eq_zero, List.forall_mem_cons,
      and_assoc]

lemma constantTimeEq_iff {expected presented : List UInt8} :
    constantTimeEq expected presented = true ↔ expected = presented := by
  unfold constantTimeEq
  rw [beq_iff_eq, foldl_differAt, Nat.xor_eq_zero_iff]
  constructor
  · rintro ⟨hlength, hbytes⟩
    refine List.ext_getElem hlength fun index hlt hlt' => ?_
    have hbyte := hbytes index (List.mem_range.mpr (lt_max_of_lt_left hlt))
    rwa [List.getD_eq_getElem _ _ hlt, List.getD_eq_getElem _ _ hlt'] at hbyte
  · rintro rfl
    exact ⟨rfl, fun _ _ => rfl⟩

/-- One byte more is enough to tell two tokens apart, also if it is the zero of the padding. -/
lemma constantTimeEq_append (token : List UInt8) (byte : UInt8) (more : List UInt8) :
    constantTimeEq token (token ++ byte :: more) = false ∧
      constantTimeEq (token ++ byte :: more) token = false := by
  refine ⟨Bool.eq_false_iff.mpr fun h => ?_, Bool.eq_false_iff.mpr fun h => ?_⟩
  · have hlength := congrArg List.length (constantTimeEq_iff.mp h)
    simp at hlength
  · have hlength := congrArg List.length (constantTimeEq_iff.mp h)
    simp at hlength

/-! ### The door -/

lemma asBytes_inj {a b : String} : asBytes a = asBytes b ↔ a = b := by
  unfold asBytes
  rw [Array.toList_inj, ← String.toByteArray_inj]
  exact ⟨ByteArray.ext, fun h => h ▸ rfl⟩

lemma requireBigwigReportOutcomeToken_eq_ok {ρ : Type} {configured : Option String}
    {authorization : Header} {next : Unit → ρ} {answer : ρ} :
    requireBigwigReportOutcomeToken configured authorization next = .ok answer ↔
      answer = next () ∧
        ∃ token, configured = some token ∧ bearerToken authorization = some token := by
  unfold requireBigwigReportOutcomeToken
  rcases configured with _ | expected
  · simp
  rcases bearerToken authorization with _ | presented
  · simp
  by_cases h : expected = presented
  · subst h
    have hsame : constantTimeEq (asBytes expected) (asBytes expected) = true :=
      constantTimeEq_iff.mpr rfl
    simp [hsame, eq_comm]
  · have hne : constantTimeEq (asBytes expected) (asBytes presented) = false := by
      rw [Bool.eq_false_iff]
      exact fun he => h (asBytes_inj.mp (constantTimeEq_iff.mp he))
    simp [hne, Ne.symm h]

/-- **Two tokens pass the comparison exactly if they are the same bytes**, so that a token with more
or fewer bytes at its end does not, and the outcome of a report is taken exactly if the bearer's
token is the configured one. -/
theorem requireBigwigReportOutcomeToken_exact :
    (∀ expected presented : List UInt8,
      constantTimeEq expected presented = true ↔ expected = presented) ∧
    (∀ (token : List UInt8) (byte : UInt8) (more : List UInt8),
      constantTimeEq token (token ++ byte :: more) = false ∧
        constantTimeEq (token ++ byte :: more) token = false) ∧
    ∀ {ρ : Type} (configured : Option String) (authorization : Header) (next : Unit → ρ)
      (answer : ρ),
      requireBigwigReportOutcomeToken configured authorization next = .ok answer ↔
        answer = next () ∧
          ∃ token, configured = some token ∧ bearerToken authorization = some token :=
  ⟨fun _ _ => constantTimeEq_iff, constantTimeEq_append,
    fun _ _ _ _ => requireBigwigReportOutcomeToken_eq_ok⟩

example : (requireBigwigReportOutcomeToken (some "secret") (.text "Bearer secret") fun _ => 7) =
    .ok 7 := by
  decide +kernel

end MotherApi.ServiceTokens
