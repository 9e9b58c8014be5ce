import MotherApi.BlockResolver
import MotherApi.Lib.Checked
import MotherApi.SimulationWindows

/-!
How far the blocks of a provider can be trusted with machine integers.

The seconds of a block are read as an unsigned number and kept as a signed one, and they are also
written out as a date. Both keep the number exactly up to the last second of the year 9999. The
interpolation between two blocks then stays in range, unless the target is so far back that its
distance from the lower block is not a signed number of 64 bits.
-/

namespace MotherApi.BlockSafety

open MotherApi.Lib MotherApi.Lib.Fallible MotherApi.SimulationTime MotherApi.CivilDays
open MotherApi.SimulationTexts MotherApi.SimulationDates MotherApi.SimulationWindows
open MotherApi.BlockResolver

/-! ### Evidence -/

/-- The last second of the year 9999. -/
def lastSecond : ℤ := 253402300799

/-- The evidence has the number that was read, and its timestamp is read as that number. -/
def Evidences (b : BlockEvidence) (raw : ℕ) : Prop :=
  b.epochSeconds = raw ∧ parseRfc3339Epoch b.timestamp = some (raw : ℤ)

/-- A text has four characters for its year, so there is a last instant that can be read. -/
lemma parseRfc3339Epoch_le {text : String} {n : ℤ} (h : parseRfc3339Epoch text = some n) :
    n ≤ lastSecond := by
  unfold parseRfc3339Epoch at h
  simp only [Option.bind_eq_bind, Option.bind_eq_some_iff] at h
  obtain ⟨dateText, -, time, -, h⟩ := h
  split_ifs at h
  simp only [Option.bind_eq_some_iff] at h
  obtain ⟨_, -, hours, -, _, -, minutes, -, _, -, seconds, -, h⟩ := h
  split_ifs at h with hclock
  obtain ⟨day, hday, rfl⟩ := Option.map_eq_some_iff.mp h
  obtain ⟨date, a, b, c, -, hyear, -, -, rfl⟩ := parseDate_eq_some.mp hday
  have hle := (days_mem_of_yearFits (yearFits_of_spells hyear)).2
  unfold lastSecond
  omega

/-- The block that is made of what was read. -/
def blockOf (number raw : ℕ) (hash : String) : BlockEvidence :=
  ⟨number, hash, timestampForEpoch (wrapI64 raw), wrapI64 raw⟩

/-- The number survives exactly if it is not after the last second. -/
lemma evidences_blockOf {number raw : ℕ} {hash : String} :
    Evidences (blockOf number raw hash) raw ↔ (raw : ℤ) ≤ lastSecond := by
  simp only [Evidences, blockOf]
  refine ⟨fun h => parseRfc3339Epoch_le h.2, fun h => ?_⟩
  have hwrap : wrapI64 raw = raw := wrapI64_of_lt (by unfold lastSecond at h; omega)
  have hfirstDay : daysFromCivil 1970 1 1 = 0 := by decide
  have hlastDay : daysFromCivil 10000 1 1 = 2932897 := by decide
  unfold lastSecond at h
  obtain ⟨date, hlow, hhigh, hcivil, hdays⟩ := @exists_date ((raw : ℤ) / 86400) 1970 10000
    (dayInRange_iff.mpr (by omega)) (by omega) (by omega)
  refine ⟨hwrap, ?_⟩
  rw [hwrap]
  exact parse_timestampForEpoch ⟨by omega, by omega⟩ hcivil hdays

lemma block_asked {env : Env} {number : ℕ} {r : Resolver} {value : RpcValue}
    (hcache : r.cache.find? (fun block => block.number = number) = none)
    (hanswer : env.archiveRpc r.calls.length (.getBlockByNumber number) = some value)
    (b : BlockEvidence) :
    (∃ r', block env number r = (some b, r')) ↔ readBlock number (some value) = some b := by
  unfold block
  rw [hcache]
  simp only [hanswer]
  cases readBlock number (some value) with
  | none => simp
  | some block => simp

lemma evidences_iff {env : Env} {number raw : ℕ} {r : Resolver} {value : RpcValue}
    (hcache : r.cache.find? (fun block => block.number = number) = none)
    (hanswer : env.archiveRpc r.calls.length (.getBlockByNumber number) = some value)
    (hraw : parseHex value.timestamp = some raw) :
    (∀ b r', block env number r = (some b, r') → Evidences b raw) ↔
      (raw : ℤ) ≤ lastSecond ∨ ∀ hash ∈ value.hash, hash.toList.take 2 ≠ ['0', 'x'] := by
  have hread : ∀ b, readBlock number (some value) = some b ↔
      ∃ hash ∈ value.hash, hash.toList.take 2 = ['0', 'x'] ∧ blockOf number raw hash = b := by
    intro b
    simp only [readBlock, hraw, Option.pure_def, Option.bind_eq_bind, Option.bind_some,
      Option.bind_eq_some_iff, Option.some.injEq, Option.filter_eq_some_iff, Option.mem_def,
      decide_eq_true_eq, and_assoc, blockOf]
  constructor
  · intro hall
    rw [or_iff_not_imp_right]
    intro hhash
    push Not at hhash
    obtain ⟨hash, hmem, hprefix⟩ := hhash
    obtain ⟨r', hblock⟩ := (block_asked hcache hanswer _).mpr
      ((hread _).mpr ⟨hash, hmem, hprefix, rfl⟩)
    exact evidences_blockOf.mp (hall _ r' hblock)
  · intro h b r' hblock
    obtain ⟨hash, hmem, hprefix, rfl⟩ :=
      (hread b).mp ((block_asked hcache hanswer b).mp ⟨r', hblock⟩)
    exact evidences_blockOf.mpr (h.resolve_right fun hnot => hnot hash hmem hprefix)

/-! ### Interpolation -/

/-- `interpolated_block_number` in a build that checks every operation and every conversion. -/
def checkedBlockNumber (target : ℤ) (low high : BlockEvidence) : Except (Halt Empty) ℕ := do
  let blockSpan ← Checked.sub high.number low.number
  let timeSpan ← Checked.signed 64 (high.epochSeconds - low.epochSeconds)
  if timeSpan ≤ 0 then Checked.add 64 low.number (blockSpan / 2)
  else
    let offset ← Checked.signed 64 (target - low.epochSeconds)
    let targetOffset ← Checked.clamp offset 0 timeSpan
    let product ← Checked.unsigned 128 (targetOffset.toNat * blockSpan)
    let estimatedOffset ← Checked.unsigned 64 (product / timeSpan.toNat)
    let estimate ← Checked.add 64 low.number estimatedOffset
    let first ← Checked.add 64 low.number 1
    let last ← Checked.sub high.number 1
    Checked.clamp estimate first last

/-- The number fits an `i64`. -/
def Fits (n : ℤ) : Prop := -2 ^ 63 ≤ n ∧ n < 2 ^ 63

lemma wrapI64_of_fits {n : ℤ} (h : Fits n) : wrapI64 n = n := by
  unfold wrapI64
  exact Int.bmod_eq_of_le (by unfold Fits at h; omega) (by unfold Fits at h; omega)

lemma signed_of_fits {n : ℤ} (h : Fits n) :
    (Checked.signed 64 n : Except (Halt Empty) ℤ) = .ok n :=
  Checked.signed_of_mem (by unfold Fits at h; omega)

lemma signed_of_not_fits {n : ℤ} (h : ¬Fits n) :
    (Checked.signed 64 n : Except (Halt Empty) ℤ) = .error .panic :=
  Checked.signed_of_not_mem (by unfold Fits at h; omega)

variable {target : ℤ} {low high : BlockEvidence}

/-- The distances are the only operations that can leave their range. -/
lemma checkedBlockNumber_eq (hnumber : high.number < 2 ^ 64)
    (hinside : low.number + 2 ≤ high.number)
    (htime : Fits (high.epochSeconds - low.epochSeconds))
    (htarget : high.epochSeconds ≤ low.epochSeconds ∨ Fits (target - low.epochSeconds)) :
    checkedBlockNumber target low high = .ok (interpolatedBlockNumber target low high) := by
  unfold checkedBlockNumber interpolatedBlockNumber
  rw [Checked.sub_of_le (by omega), bind_ok, signed_of_fits htime, bind_ok,
    wrapI64_of_fits htime]
  simp only
  by_cases hspan : high.epochSeconds - low.epochSeconds ≤ 0
  · rw [if_pos hspan, if_pos hspan, Checked.add_of_lt (by omega)]
  · have htarget := htarget.resolve_left (by omega)
    obtain ⟨blockSpan, hblocks⟩ : ∃ n, high.number - low.number = n := ⟨_, rfl⟩
    obtain ⟨timeSpan, htimes⟩ : ∃ n : ℕ, high.epochSeconds - low.epochSeconds = n :=
      ⟨(high.epochSeconds - low.epochSeconds).toNat, by omega⟩
    obtain ⟨offset, hoffset⟩ : ∃ n : ℕ,
        max 0 (min (target - low.epochSeconds) (high.epochSeconds - low.epochSeconds)) = n :=
      ⟨(max 0 (min (target - low.epochSeconds) (high.epochSeconds - low.epochSeconds))).toNat,
        by omega⟩
    have hoffsetLe : offset ≤ timeSpan := by omega
    have htimeLt : timeSpan < 2 ^ 63 := by
      have := htime.2
      omega
    have hproduct : offset * blockSpan < 2 ^ 128 := by
      calc offset * blockSpan ≤ 2 ^ 63 * 2 ^ 64 := Nat.mul_le_mul (by omega) (by omega)
        _ < 2 ^ 128 := by norm_num
    -- the estimate does not go further than the span of the blocks
    have hestimate : offset * blockSpan / timeSpan ≤ blockSpan :=
      Nat.div_le_of_le_mul (Nat.mul_le_mul_right _ hoffsetLe)
    rw [if_neg hspan, if_neg hspan, signed_of_fits htarget, bind_ok,
      Checked.clamp_of_le (by omega), bind_ok, wrapI64_of_fits htarget, hoffset, htimes, hblocks,
      Int.toNat_natCast, Int.toNat_natCast, Checked.unsigned_of_lt hproduct, bind_ok,
      Nat.mod_eq_of_lt (by omega), Checked.unsigned_of_lt (by omega), bind_ok,
      Checked.add_of_lt (by omega), bind_ok, Checked.add_of_lt (by omega), bind_ok,
      Checked.sub_of_le (by omega), bind_ok, Checked.clamp_of_le (by omega)]

lemma checkedBlockNumber_panics (hinside : low.number + 2 ≤ high.number)
    (h : ¬(Fits (high.epochSeconds - low.epochSeconds) ∧
      (high.epochSeconds ≤ low.epochSeconds ∨ Fits (target - low.epochSeconds)))) :
    checkedBlockNumber target low high = .error .panic := by
  unfold checkedBlockNumber
  rw [Checked.sub_of_le (by omega), bind_ok]
  by_cases htime : Fits (high.epochSeconds - low.epochSeconds)
  · obtain ⟨hspan, htarget⟩ := not_or.mp ((not_and.mp h) htime)
    rw [signed_of_fits htime, bind_ok, if_neg (by omega), signed_of_not_fits htarget]
    rfl
  · rw [signed_of_not_fits htime]
    rfl

/-- Nothing leaves its range, and the number is strictly between those of the blocks. -/
def InterpolatesSafely (target : ℤ) (low high : BlockEvidence) : Prop :=
  ∃ middle, checkedBlockNumber target low high = .ok middle ∧
    interpolatedBlockNumber target low high = middle ∧
      low.number < middle ∧ middle < high.number

lemma interpolatesSafely_iff (hnumber : high.number < 2 ^ 64)
    (hinside : low.number + 2 ≤ high.number) :
    InterpolatesSafely target low high ↔ Fits (high.epochSeconds - low.epochSeconds) ∧
      (high.epochSeconds ≤ low.epochSeconds ∨ Fits (target - low.epochSeconds)) := by
  constructor
  · rintro ⟨middle, hmiddle, -⟩
    by_contra hnot
    rw [checkedBlockNumber_panics hinside hnot] at hmiddle
    cases hmiddle
  · rintro ⟨htime, htarget⟩
    obtain ⟨hlow, hhigh⟩ := interpolated_inside target (show low.number + 1 < high.number by omega)
    exact ⟨_, checkedBlockNumber_eq hnumber hinside htime htarget, rfl, hlow, hhigh⟩

/-- **A block has the seconds that the provider gave exactly if they are not after the last second
of the year 9999**, or if it is not a block for another reason; and between two blocks the
interpolation is safe exactly if the times between them, and from the lower to the target, are
numbers of an `i64`. -/
theorem block_evidences_and_interpolates_iff {env : Env} {number raw : ℕ} {r : Resolver}
    {value : RpcValue} (hcache : r.cache.find? (fun block => block.number = number) = none)
    (hanswer : env.archiveRpc r.calls.length (.getBlockByNumber number) = some value)
    (hraw : parseHex value.timestamp = some raw) {target : ℤ} {low high : BlockEvidence}
    (hnumber : high.number < 2 ^ 64) (hinside : low.number + 2 ≤ high.number) :
    ((∀ b r', block env number r = (some b, r') → Evidences b raw) ↔
      (raw : ℤ) ≤ lastSecond ∨ ∀ hash ∈ value.hash, hash.toList.take 2 ≠ ['0', 'x']) ∧
    (InterpolatesSafely target low high ↔
      Fits (high.epochSeconds - low.epochSeconds) ∧
        (high.epochSeconds ≤ low.epochSeconds ∨ Fits (target - low.epochSeconds))) :=
  ⟨evidences_iff hcache hanswer hraw, interpolatesSafely_iff hnumber hinside⟩

/-- A provider whose blocks all have the same time. -/
def fixedTime (timestamp : String) : Env where
  archiveRpc _ _ := some { timestamp := some timestamp, hash := some "0x1" }
  values _ cache := cache
  values_perm _ _ := .refl _

/-- A block of November 2023, and an interpolation between two blocks of 1970. -/
theorem block_evidences_and_interpolates_2023 :
    (∀ b r', block (fixedTime "0x6553f100") 7 {} = (some b, r') → Evidences b 1700000000) ∧
      InterpolatesSafely 2 ⟨0, "0x0", "1970-01-01T00:00:01Z", 1⟩
        ⟨2, "0x2", "1970-01-01T00:00:03Z", 3⟩ := by
  obtain ⟨hblock, hinterpolation⟩ := @block_evidences_and_interpolates_iff
    (fixedTime "0x6553f100") 7 1700000000 {} _ rfl rfl (by decide +kernel) 2
    ⟨0, "0x0", "1970-01-01T00:00:01Z", 1⟩ ⟨2, "0x2", "1970-01-01T00:00:03Z", 3⟩ (by decide)
    (by decide)
  refine ⟨hblock.mpr (Or.inl (by decide)), hinterpolation.mpr ?_⟩
  unfold Fits
  decide

/-- From `2 ^ 63` on the seconds are kept as a negative number, and the distance from a target far
back is not an `i64`. -/
theorem block_seconds_wrap :
    parseHex (some "0x8000000000000000") = some (2 ^ 63) ∧
      (∃ b r', block (fixedTime "0x8000000000000000") 7 {} = (some b, r') ∧
        b.epochSeconds = -2 ^ 63 ∧ ¬Evidences b (2 ^ 63)) ∧
      ¬InterpolatesSafely (-2 ^ 63) ⟨0, "0x0", "1970-01-01T00:00:01Z", 1⟩
        ⟨2, "0x2", "1970-01-01T00:00:03Z", 3⟩ := by
  obtain ⟨r', hblock⟩ := (@block_asked (fixedTime "0x8000000000000000") 7 {} _ rfl rfl _).mpr
    (show readBlock 7 _ = some (blockOf 7 (2 ^ 63) "0x1") by decide +kernel)
  refine ⟨by decide +kernel, ⟨_, r', hblock, by decide +kernel, ?_⟩, ?_⟩
  · rw [evidences_blockOf]
    decide
  · rw [interpolatesSafely_iff (by decide) (by decide)]
    unfold Fits
    decide

end MotherApi.BlockSafety
