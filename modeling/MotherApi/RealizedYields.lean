import MotherApi.AaveYields
import MotherApi.Lib.Hex
import MotherApi.SimulationTexts
import MotherApi.VerifiedProtocols

/-!
The realized yield of a reserve between two blocks.

The service looks the protocol up and asks an archive node about the two blocks: first for the head,
then for the two indexes side by side, and where it is wanted for the two timestamps side by side.
The node may answer anything to anything. What is returned is the report of two words that are not
zero, which the declared pool gave for the declared token at blocks that are deep enough.
-/

namespace MotherApi.RealizedYields

open MotherApi.Lib.Fallible MotherApi.Lib.Hex MotherApi.Strings
open MotherApi.SimulationTime (parseHex)
open MotherApi.BlockResolver (RpcValue readHead)
open MotherApi.AaveYields (D512 ratioMinusOne annualizedApy)
open MotherApi.SimulationEvidence (AaveError EthCall IncomeIndexObservation RealizedYieldReserve
  incomeIndexAt)
open MotherApi.Registry (Catalog CanonicalRegistry)
open MotherApi.RegistryAnswers (BuiltFrom fromCatalog_builtFrom)
open MotherApi.VerifiedProtocols (ProtocolDeclaration ProtocolCatalog RealizedYieldProtocol
  VerifiedProtocolRegistry realizedYieldProtocol Declares registered_of_fromCatalog
  aaveDeclaration aaveProtocol aaveRegistry fromCatalog_aave)
open MotherApi.TokenSelectors (tokenCatalog tokenRegistry)

/-! ### The code -/

inductive Error
  | protocolUnavailable | operationUnsupported | unsupportedAsset | invalidBlockRange
  | blockNotFinal | provider | invalidResponse | invalidIncomeIndex | calculation
  deriving DecidableEq

/-- The errors of the primitive among those of the adapter. -/
def ofAave : AaveError → Error
  | .unsupportedAsset => .unsupportedAsset
  | .invalidBlockRange => .invalidBlockRange
  | .provider => .provider
  | .invalidResponse => .invalidResponse
  | .invalidIncomeIndex => .invalidIncomeIndex

def ofYields : Halt AaveYields.Error → Halt Error
  | .panic => .panic
  | .error .calculation => .error .calculation

structure Command where
  protocolSlug : String
  assetSlug : String
  fromBlock : ℕ
  toBlock : ℕ
  includeAnnualizedApyEstimate : Bool

/-- `Result` of the adapter. -/
structure YieldResult where
  assetSymbol : String
  underlyingAssetAddress : String
  fromIndex : String
  toIndex : String
  realizedYield : List Char
  fromTimestamp : Option ℕ
  toTimestamp : Option ℕ
  annualizedApyEstimate : Option (List Char)
  warnings : List String
  deriving DecidableEq

inductive RpcCall
  | blockNumber
  | ethCall (call : EthCall)
  | getBlockByNumber (number : ℕ)
  deriving DecidableEq

/-- `archive_rpc`. No call is made twice, so an answer goes by its call. -/
abbrev ArchiveRpc := RpcCall → Option RpcValue

/-- `BigUint::parse_bytes(text, 10)`: a plus sign may stand first, and underscores after a digit. -/
def parseBytes (text : String) : Option ℕ :=
  let digits := match text.toList with
    | '+' :: rest => if rest.head? = some '+' then '+' :: rest else rest
    | digits => digits
  if digits = [] ∨ digits.head? = some '_' then none
  else
    let digits := digits.filter (· != '_')
    if digits.all isAsciiDigit then some (Lib.Numerals.number digits) else none

/-- `try_join!`: where both fail, the error is that of the one that failed first. -/
def tryJoin {ε α : Type} (secondFirst : Bool) : Except ε α → Except ε α → Except ε (α × α)
  | .ok a, .ok b => .ok (a, b)
  | .ok _, .error e => .error e
  | .error e, .ok _ => .error e
  | .error e, .error e' => .error (if secondFirst then e' else e)

/-- `block_timestamp` of the answer. -/
def blockTimestamp (value : Option RpcValue) : Option ℕ :=
  value.bind fun value => parseHex value.timestamp

section

variable {δ : Type} (D : D512 δ) (archiveRpc : ArchiveRpc)

/-- The two timestamps, the estimate between them and the warning about them. -/
def annualize (command : Command) (fromIndex toIndex : ℕ) :
    Except (Halt Error) (Option ℕ × Option ℕ × Option (List Char) × List String) :=
  if command.includeAnnualizedApyEstimate then
    let unavailable := (none, none, none, ["timestamp_lookup_failed"])
    match blockTimestamp (archiveRpc (.getBlockByNumber command.fromBlock)),
      blockTimestamp (archiveRpc (.getBlockByNumber command.toBlock)) with
    | some fromTimestamp, some toTimestamp =>
      if fromTimestamp < toTimestamp then do
        let apy ← (annualizedApy D toIndex fromIndex (toTimestamp - fromTimestamp)).mapError
          ofYields
        return (some fromTimestamp, some toTimestamp, some apy, [])
      else .ok unavailable
    | _, _ => .ok unavailable
  else .ok (none, none, none, [])

/-- `resolve` of the adapter. -/
def resolveYield (protocol : RealizedYieldProtocol) (command : Command) (minConfirmations : ℕ)
    (secondFirst : Bool) : Except (Halt Error) YieldResult := do
  if command.fromBlock = 0 ∨ command.toBlock = 0 ∨ command.toBlock ≤ command.fromBlock then
    fail .invalidBlockRange
  else
    let head ← lift (okOr (archiveRpc .blockNumber) .provider)
    let head ← lift (okOr (parseHex head.asStr) .invalidResponse)
    if head - minConfirmations < command.toBlock then fail .blockNotFinal
    else
      let indexAt := fun blockNumber =>
        (incomeIndexAt protocol.toRealizedYieldProtocol command.assetSlug blockNumber fun call =>
          archiveRpc (.ethCall call)).mapError ofAave
      let (first, last) ← lift (tryJoin secondFirst (indexAt command.fromBlock)
        (indexAt command.toBlock))
      let fromIndex ← lift (okOr (parseBytes first.incomeIndex) .invalidIncomeIndex)
      let toIndex ← lift (okOr (parseBytes last.incomeIndex) .invalidIncomeIndex)
      let decreasing := if toIndex < fromIndex then ["decreasing_income_index"] else []
      let realizedYield ← (ratioMinusOne D toIndex fromIndex).mapError ofYields
      let (fromTimestamp, toTimestamp, apy, failed) ←
        annualize D archiveRpc command fromIndex toIndex
      return {
        assetSymbol := first.assetSymbol
        underlyingAssetAddress := first.underlyingAssetAddress
        fromIndex := Nat.repr fromIndex
        toIndex := Nat.repr toIndex
        realizedYield, fromTimestamp, toTimestamp
        annualizedApyEstimate := apy
        warnings := decreasing ++ failed }

/-- `resolve` of the service. -/
def resolve (protocols : VerifiedProtocolRegistry) (minConfirmations : ℕ) (command : Command)
    (secondFirst : Bool) : Except (Halt Error) (RealizedYieldProtocol × YieldResult) := do
  let protocol ← lift (okOr (realizedYieldProtocol protocols command.protocolSlug)
    .protocolUnavailable)
  if protocol.adapterKind ≠ "aave_v3_realized_yield" then fail .operationUnsupported
  else
    let resolved ← resolveYield D archiveRpc protocol command minConfirmations secondFirst
    return (protocol, resolved)

end

/-! ### Words -/

lemma toNat_of_hexdigit {c : Char} (h : isAsciiHexdigit c = true) : c.toNat < 128 := by
  have hle : ∀ {c d : Char}, c ≤ d → c.toNat ≤ d.toNat := fun h => h
  simp only [isAsciiHexdigit, Bool.or_eq_true, Bool.and_eq_true, decide_eq_true_eq] at h
  rcases h with (h | h) | h
  · exact (Lib.Numerals.isDigit_iff.mp h).2.trans_lt (by decide)
  · exact (hle h.2).trans_lt (by decide)
  · exact (hle h.2).trans_lt (by decide)

lemma toLower_of_large {c : Char} (h : ¬c.toNat < 128) : c.toLower = c := by
  unfold Char.toLower
  rw [dif_neg]
  rintro ⟨-, hle⟩
  have hle : c.toNat ≤ 90 := hle
  omega

lemma hexdigit_ascii : ∀ n < 128,
    isAsciiHexdigit (Char.ofNat n) = isLowerHex (Char.ofNat n).toLower ∧
      (isAsciiHexdigit (Char.ofNat n) = true →
        SimulationTime.hexValue (Char.ofNat n) = hexValue (Char.ofNat n).toLower) := by
  decide

lemma isAsciiHexdigit_iff {c : Char} : isAsciiHexdigit c = true ↔ isLowerHex c.toLower = true := by
  by_cases hsmall : c.toNat < 128
  · rw [← Char.ofNat_toNat c, (hexdigit_ascii _ hsmall).1]
  · rw [toLower_of_large hsmall, isLowerHex_iff]
    refine ⟨fun h => absurd (toNat_of_hexdigit h) hsmall, fun h => ?_⟩
    omega

lemma hexValue_toLower {c : Char} (h : isAsciiHexdigit c = true) :
    SimulationTime.hexValue c = hexValue c.toLower := by
  rw [← Char.ofNat_toNat c] at h ⊢
  exact (hexdigit_ascii _ (toNat_of_hexdigit (Char.ofNat_toNat c ▸ h))).2 h

lemma foldl_hexValue {hex : List Char} (h : ∀ c ∈ hex, isAsciiHexdigit c = true) :
    hex.foldl (fun value c => value * 16 + SimulationTime.hexValue c) 0 =
      number (hex.map Char.toLower) := by
  induction hex using List.reverseRecOn with
  | nil => rfl
  | append_singleton hex c ih =>
    rw [List.foldl_append, ih fun c hc => h c (List.mem_append_left _ hc), List.map_append,
      List.map_singleton, number_concat, ← hexValue_toLower (h c (by simp))]
    rfl

/-- The text of a word, in any case. -/
def IsWord (text : String) (n : ℕ) : Prop :=
  n < 16 ^ 64 ∧ ∃ hex, text.toList = '0' :: 'x' :: hex ∧ hex.map Char.toLower = word 64 n

lemma isLowerHex_map {hex : List Char} (h : ∀ c ∈ hex, isAsciiHexdigit c = true) :
    ∀ c ∈ hex.map Char.toLower, isLowerHex c = true := by
  intro c hc
  obtain ⟨d, hd, rfl⟩ := List.mem_map.mp hc
  exact isAsciiHexdigit_iff.mp (h d hd)

lemma strip0x_eq_some {text rest : List Char} :
    SimulationEvidence.strip0x text = some rest ↔ text = '0' :: 'x' :: rest := by
  unfold SimulationEvidence.strip0x
  split
  · simp
  · rename_i hother
    simp only [reduceCtorEq, false_iff]
    exact fun htext => hother rest htext

/-- The texts that are read are those of words, each as its number. -/
lemma decodeUint256_eq_ok {value : RpcValue} {n : ℕ} :
    SimulationEvidence.decodeUint256 value = .ok n ↔
      ∃ text, value.asStr = some text ∧ IsWord text n := by
  unfold SimulationEvidence.decodeUint256
  cases htext : value.asStr with
  | none => simp
  | some text =>
    simp only [Option.bind_some, Option.some.injEq, exists_eq_left']
    constructor
    · intro h
      split at h
      · cases h
      rename_i hex hstrip
      split_ifs at h with hword
      rw [not_or, not_not, not_not, List.all_eq_true] at hword
      obtain ⟨hlength, hdigits⟩ := hword
      rw [foldl_hexValue hdigits, Except.ok.injEq] at h
      have hlower := isLowerHex_map hdigits
      have hback := word_number hlower
      have hlt := number_lt hlower
      rw [List.length_map, hlength, h] at hback hlt
      exact ⟨hlt, hex, strip0x_eq_some.mp hstrip, hback.symm⟩
    · rintro ⟨hlt, hex, htext, hlower⟩
      have hdigits : ∀ c ∈ hex, isAsciiHexdigit c = true := by
        intro c hc
        refine isAsciiHexdigit_iff.mpr (isLowerHex_word 64 n _ ?_)
        rw [← hlower]
        exact List.mem_map_of_mem hc
      have hlength : hex.length = 64 := by
        rw [← List.length_map, hlower, length_word]
      rw [strip0x_eq_some.mpr htext]
      simp only
      rw [if_neg (by simp [hlength, List.all_eq_true.mpr hdigits]), foldl_hexValue hdigits, hlower,
        number_word hlt]

/-- The address of a token, as the number of its digits, and the call about it. -/
def addressText (token : ℕ) : String := String.ofList ("0x".toList ++ word 40 token)

lemma addressText_injective {token token' : ℕ} (h : token < 16 ^ 40) (h' : token' < 16 ^ 40)
    (heq : addressText token = addressText token') : token = token' := by
  rw [addressText, addressText, String.ofList_inj] at heq
  rw [← number_word h, ← number_word h', List.append_cancel_left heq]

def calldata (token : ℕ) : String := String.ofList ("0xd15e0053".toList ++ word 64 token)

lemma exists_token {address : String}
    (h : VerifiedProtocols.isLowercaseEvmAddress address = true) :
    ∃ token, token < 16 ^ 40 ∧ address = addressText token := by
  simp only [VerifiedProtocols.isLowercaseEvmAddress, isEvmAddress, Bool.and_eq_true, beq_iff_eq,
    List.all_eq_true] at h
  obtain ⟨⟨⟨hlength, hstart⟩, hdigits⟩, hlower⟩ := h
  have hsame : (address.toList.drop 2).map Char.toLower = address.toList.drop 2 := by
    have hmap := congrArg String.toList hlower
    rw [toAsciiLowercase, String.toList_ofList] at hmap
    rw [List.map_drop, ← hmap]
  have hhex := isLowerHex_map hdigits
  rw [hsame] at hhex
  have hforty : (address.toList.drop 2).length = 40 := by
    rw [List.length_drop, hlength]
  refine ⟨number (address.toList.drop 2), hforty ▸ number_lt hhex, ?_⟩
  have hback := word_number hhex
  rw [hforty] at hback
  have hsplit : address.toList = "0x".toList ++ address.toList.drop 2 := by
    conv_lhs => rw [← List.take_append_drop 2 address.toList, hstart]
    rfl
  rw [addressText, hback, ← hsplit, String.ofList_toList]

lemma toLower_word (width n : ℕ) : (word width n).map Char.toLower = word width n := by
  refine (List.map_congr_left fun c hc => ?_).trans (List.map_id _)
  have hhex := isLowerHex_iff.mp (isLowerHex_word width n c hc)
  unfold Char.toLower
  rw [dif_neg]
  · rfl
  · rintro ⟨hge, hle⟩
    have hge : 65 ≤ c.toNat := hge
    have hle : c.toNat ≤ 90 := hle
    omega

lemma isAsciiHexdigit_word (width n : ℕ) : (word width n).all isAsciiHexdigit = true := by
  rw [List.all_eq_true]
  intro c hc
  rw [isAsciiHexdigit_iff]
  refine isLowerHex_word width n _ ?_
  rw [← toLower_word]
  exact List.mem_map_of_mem hc

lemma encode_addressText {token : ℕ} (h : token < 16 ^ 40) :
    SimulationEvidence.encodeGetReserveNormalizedIncome (addressText token) =
      .ok (calldata token) := by
  have hstrip : SimulationEvidence.strip0x (addressText token).toList = some (word 40 token) := by
    have hmarker : "0x".toList = ['0', 'x'] := rfl
    rw [strip0x_eq_some, addressText, String.toList_ofList, hmarker, List.cons_append,
      List.cons_append, List.nil_append]
  have hword : word (24 + 40) token = List.replicate 24 '0' ++ word 40 token := word_add 24 h
  unfold SimulationEvidence.encodeGetReserveNormalizedIncome
  rw [hstrip]
  simp only [Option.getD_some, length_word, isAsciiHexdigit_word, toLower_word, not_true_eq_false,
    or_self, ne_eq, if_false]
  refine congrArg (Except.ok ∘ String.ofList) ?_
  rw [List.append_assoc]
  exact congrArg ("0xd15e0053".toList ++ ·) hword.symm

lemma parseBytes_repr (n : ℕ) : parseBytes (Nat.repr n) = some n := by
  have hdigits := SimulationTexts.allDigits_repr n
  have hnumber := SimulationTexts.number_repr n
  obtain ⟨c, rest, htext⟩ : ∃ c rest, (Nat.repr n).toList = c :: rest := by
    rw [Nat.toList_repr]
    exact List.exists_cons_of_ne_nil Nat.toDigits_ne_nil
  rw [htext] at hdigits hnumber
  have hdigit : ∀ d ∈ c :: rest, d ≠ '_' ∧ d ≠ '+' := by
    intro d hd
    refine ⟨?_, ?_⟩
    all_goals
      rintro rfl
      exact absurd (hdigits _ hd) (by decide)
  have hplain : (c :: rest).filter (· != '_') = c :: rest :=
    List.filter_eq_self.mpr fun d hd => bne_iff_ne.mpr (hdigit d hd).1
  have hall : (c :: rest).all isAsciiDigit = true := List.all_eq_true.mpr hdigits
  obtain ⟨hblank, hsign⟩ := hdigit c List.mem_cons_self
  unfold parseBytes
  rw [htext]
  split
  · rename_i heq
    exact absurd (List.cons.inj heq).1 hsign
  · rw [if_neg (by simp [hblank])]
    simp only [hplain, hall, if_true, hnumber]

/-! ### What is reported -/

def IsTokenOf (reserve : RealizedYieldReserve) (token : ℕ) : Prop :=
  token < 16 ^ 40 ∧ reserve.underlyingAssetAddress = addressText token

lemma IsTokenOf.unique {reserve : RealizedYieldReserve} {token token' : ℕ}
    (h : IsTokenOf reserve token) (h' : IsTokenOf reserve token') : token = token' :=
  addressText_injective h.1 h'.1 (h.2.symm.trans h'.2)

section

variable {δ : Type} (D : D512 δ) (archiveRpc : ArchiveRpc) (protocol : RealizedYieldProtocol)
  (command : Command)

/-- The pool gave the word of the index for the token at the block. -/
def IndexRead (token blockNumber index : ℕ) : Prop :=
  0 < index ∧ ∃ value text,
    archiveRpc (.ethCall ⟨protocol.poolAddress, calldata token, blockNumber⟩) = some value ∧
      value.asStr = some text ∧ IsWord text index

/-- What the report is of: the head is deep enough, and the pool has both indexes of the token. -/
structure Evidence (minConfirmations : ℕ) (reserve : RealizedYieldReserve)
    (token fromIndex toIndex : ℕ) : Prop where
  range : 0 < command.fromBlock ∧ command.fromBlock < command.toBlock
  deep : ∃ head, readHead (archiveRpc .blockNumber) = some head ∧
    command.toBlock + minConfirmations ≤ head
  listed : reserve ∈ protocol.reserves ∧ reserve.assetSlug = command.assetSlug
  tokenOf : IsTokenOf reserve token
  first : IndexRead archiveRpc protocol token command.fromBlock fromIndex
  last : IndexRead archiveRpc protocol token command.toBlock toIndex

/-- The timestamps of the two blocks, of which the second is later. -/
def Later (fromTimestamp toTimestamp : ℕ) : Prop :=
  blockTimestamp (archiveRpc (.getBlockByNumber command.fromBlock)) = some fromTimestamp ∧
    blockTimestamp (archiveRpc (.getBlockByNumber command.toBlock)) = some toTimestamp ∧
    fromTimestamp < toTimestamp

/-- There is an estimate if it is wanted and the timestamps can be read in order. -/
inductive Annualized (fromIndex toIndex : ℕ) :
    Option ℕ × Option ℕ × Option (List Char) × List String → Prop
  | unasked (h : command.includeAnnualizedApyEstimate = false) :
    Annualized fromIndex toIndex (none, none, none, [])
  | estimated {fromTimestamp toTimestamp : ℕ} {apy : List Char}
    (h : command.includeAnnualizedApyEstimate = true)
    (hlater : Later archiveRpc command fromTimestamp toTimestamp)
    (hapy : annualizedApy D toIndex fromIndex (toTimestamp - fromTimestamp) = .ok apy) :
    Annualized fromIndex toIndex (some fromTimestamp, some toTimestamp, some apy, [])
  | unavailable (h : command.includeAnnualizedApyEstimate = true)
    (hnot : ∀ fromTimestamp toTimestamp, ¬Later archiveRpc command fromTimestamp toTimestamp) :
    Annualized fromIndex toIndex (none, none, none, ["timestamp_lookup_failed"])

structure Reported (reserve : RealizedYieldReserve) (fromIndex toIndex : ℕ) (result : YieldResult) :
    Prop where
  assetSymbol : result.assetSymbol = reserve.assetSymbol
  address : result.underlyingAssetAddress = reserve.underlyingAssetAddress
  first : result.fromIndex = Nat.repr fromIndex
  last : result.toIndex = Nat.repr toIndex
  realizedYield : ratioMinusOne D toIndex fromIndex = .ok result.realizedYield
  annualized : ∃ failed, Annualized D archiveRpc command fromIndex toIndex
      (result.fromTimestamp, result.toTimestamp, result.annualizedApyEstimate, failed) ∧
    result.warnings = (if toIndex < fromIndex then ["decreasing_income_index"] else []) ++ failed

/-- The result is the report of evidence about the protocol. -/
def Reports (minConfirmations : ℕ) (result : YieldResult) : Prop :=
  ∃ reserve token fromIndex toIndex,
    Evidence archiveRpc protocol command minConfirmations reserve token fromIndex toIndex ∧
      Reported D archiveRpc command reserve fromIndex toIndex result

/-- What the node is asked: for the head, about the token, and for timestamps that are wanted. -/
inductive Asked : RpcCall → Prop
  | head (hrange : 0 < command.fromBlock ∧ command.fromBlock < command.toBlock) : Asked .blockNumber
  | index {reserve : RealizedYieldReserve} {token blockNumber : ℕ}
    (hrange : 0 < command.fromBlock ∧ command.fromBlock < command.toBlock)
    (hreserve : reserve ∈ protocol.reserves) (hslug : reserve.assetSlug = command.assetSlug)
    (htoken : IsTokenOf reserve token)
    (hblock : blockNumber = command.fromBlock ∨ blockNumber = command.toBlock) :
    Asked (.ethCall ⟨protocol.poolAddress, calldata token, blockNumber⟩)
  | timestamp {number : ℕ} (h : command.includeAnnualizedApyEstimate = true)
    (hblock : number = command.fromBlock ∨ number = command.toBlock) :
    Asked (.getBlockByNumber number)

end

/-! ### The adapter -/

section

variable {δ : Type} {D : D512 δ} {archiveRpc archiveRpc' : ArchiveRpc}
  {protocol : RealizedYieldProtocol} {command : Command} {minConfirmations : ℕ}

lemma annualize_eq_ok {fromIndex toIndex : ℕ}
    {estimate : Option ℕ × Option ℕ × Option (List Char) × List String} :
    annualize D archiveRpc command fromIndex toIndex = .ok estimate ↔
      Annualized D archiveRpc command fromIndex toIndex estimate := by
  unfold annualize
  split_ifs with hwanted
  swap
  · rw [Bool.not_eq_true] at hwanted
    constructor
    · intro h
      cases h
      exact .unasked hwanted
    · rintro (- | ⟨h, -⟩ | ⟨h, -⟩)
      · rfl
      · simp [hwanted] at h
      · simp [hwanted] at h
  have hunavailable (hnot : ∀ fromTimestamp toTimestamp,
      ¬Later archiveRpc command fromTimestamp toTimestamp) :
      (Except.ok (none, none, none, ["timestamp_lookup_failed"]) : Except (Halt Error) _) =
          .ok estimate ↔ Annualized D archiveRpc command fromIndex toIndex estimate := by
    constructor
    · intro h
      cases h
      exact .unavailable hwanted hnot
    · rintro (h | ⟨-, hlater, -⟩ | -)
      · simp [hwanted] at h
      · exact absurd hlater (hnot _ _)
      · rfl
  split
  · rename_i fromTimestamp toTimestamp hfrom hto
    split_ifs with hlt
    · simp only [bind_eq_ok, mapError_eq_ok, pure, Except.pure, Except.ok.injEq]
      constructor
      · rintro ⟨apy, hapy, rfl⟩
        exact .estimated hwanted ⟨hfrom, hto, hlt⟩ hapy
      · rintro (h | ⟨-, ⟨hfrom', hto', -⟩, hapy⟩ | ⟨-, hnot⟩)
        · simp [hwanted] at h
        · rw [hfrom, Option.some.injEq] at hfrom'
          rw [hto, Option.some.injEq] at hto'
          subst hfrom' hto'
          exact ⟨_, hapy, rfl⟩
        · exact absurd ⟨hfrom, hto, hlt⟩ (hnot _ _)
    · refine hunavailable ?_
      rintro fromTimestamp' toTimestamp' ⟨hfrom', hto', hlt'⟩
      rw [hfrom, Option.some.injEq] at hfrom'
      rw [hto, Option.some.injEq] at hto'
      subst hfrom' hto'
      exact hlt hlt'
  · rename_i hnot
    exact hunavailable fun fromTimestamp toTimestamp ⟨hfrom, hto, _⟩ => hnot _ _ hfrom hto

/-- What the calls of the adapter rest on. -/
structure Listed (protocol : RealizedYieldProtocol) : Prop where
  slugs : (protocol.reserves.map (·.assetSlug)).Nodup
  addresses : ∀ reserve ∈ protocol.reserves, ∃ token, IsTokenOf reserve token

lemma decode_eq_ok {value : RpcValue} {observation : IncomeIndexObservation}
    {reserve : RealizedYieldReserve} :
    (do
      let incomeIndex ← SimulationEvidence.decodeUint256 value
      if incomeIndex = 0 then .error .invalidIncomeIndex
      else .ok ⟨reserve.assetSymbol, reserve.underlyingAssetAddress, Nat.repr incomeIndex⟩) =
        (.ok observation : Except AaveError _) ↔
      ∃ index, 0 < index ∧ (∃ text, value.asStr = some text ∧ IsWord text index) ∧
        observation = ⟨reserve.assetSymbol, reserve.underlyingAssetAddress, Nat.repr index⟩ := by
  rw [bind_eq_ok]
  refine exists_congr fun index => ?_
  rw [decodeUint256_eq_ok]
  split_ifs with hzero
  · simp [hzero]
  · rw [Except.ok.injEq, eq_comm (b := observation)]
    have hpos := Nat.pos_of_ne_zero hzero
    tauto

lemma tryJoin_eq_ok {ε α : Type} {secondFirst : Bool} {x y : Except ε α} {a b : α} :
    tryJoin secondFirst x y = .ok (a, b) ↔ x = .ok a ∧ y = .ok b := by
  cases x <;> cases y <;> simp [tryJoin]

variable (hlisted : Listed protocol)

include hlisted

lemma find_reserve {assetSlug : String} {reserve : RealizedYieldReserve} :
    protocol.reserves.find? (·.assetSlug == assetSlug) = some reserve ↔
      reserve ∈ protocol.reserves ∧ reserve.assetSlug = assetSlug := by
  constructor
  · intro h
    exact ⟨List.mem_of_find?_eq_some h, by simpa using List.find?_some h⟩
  · rintro ⟨hmem, rfl⟩
    cases hfound : protocol.reserves.find? (·.assetSlug == reserve.assetSlug) with
    | none => simpa using List.find?_eq_none.mp hfound reserve hmem
    | some other =>
      have hslug : other.assetSlug = reserve.assetSlug := by simpa using List.find?_some hfound
      rw [List.inj_on_of_nodup_map hlisted.slugs (List.mem_of_find?_eq_some hfound) hmem hslug]

/-- The index of a listed token is read with the call about it. -/
lemma incomeIndexAt_eq_ok {assetSlug : String} {blockNumber : ℕ}
    {observation : IncomeIndexObservation} :
    incomeIndexAt protocol.toRealizedYieldProtocol assetSlug blockNumber
        (fun call => archiveRpc (.ethCall call)) = .ok observation ↔
      0 < blockNumber ∧ ∃ reserve token index, reserve ∈ protocol.reserves ∧
        reserve.assetSlug = assetSlug ∧ IsTokenOf reserve token ∧
        IndexRead archiveRpc protocol token blockNumber index ∧
        observation = ⟨reserve.assetSymbol, reserve.underlyingAssetAddress, Nat.repr index⟩ := by
  unfold incomeIndexAt
  split_ifs with hzero
  · simp [hzero]
  have hpos := Nat.pos_of_ne_zero hzero
  constructor
  · intro h
    split at h
    · cases h
    rename_i reserve hfound
    obtain ⟨hmem, hslug⟩ := (find_reserve hlisted).mp hfound
    obtain ⟨token, htoken⟩ := hlisted.addresses reserve hmem
    rw [htoken.2, encode_addressText htoken.1, bind_ok, ← htoken.2] at h
    split at h
    · cases h
    rename_i value hvalue
    obtain ⟨index, hindex, ⟨text, htext, hword⟩, hobservation⟩ := decode_eq_ok.mp h
    exact ⟨hpos, reserve, token, index, hmem, hslug, htoken,
      ⟨hindex, value, text, hvalue, htext, hword⟩, hobservation⟩
  · rintro ⟨-, reserve, token, index, hmem, hslug, htoken,
      ⟨hindex, value, text, hvalue, htext, hword⟩, hobservation⟩
    rw [(find_reserve hlisted).mpr ⟨hmem, hslug⟩]
    simp only
    rw [htoken.2, encode_addressText htoken.1, bind_ok, ← htoken.2, hvalue]
    exact decode_eq_ok.mpr ⟨index, hindex, ⟨text, htext, hword⟩, hobservation⟩

lemma incomeIndexAt_congr {blockNumber : ℕ}
    (hrange : 0 < command.fromBlock ∧ command.fromBlock < command.toBlock)
    (hblock : blockNumber = command.fromBlock ∨ blockNumber = command.toBlock)
    (hsame : ∀ call, Asked protocol command call → archiveRpc call = archiveRpc' call) :
    incomeIndexAt protocol.toRealizedYieldProtocol command.assetSlug blockNumber
        (fun call => archiveRpc (.ethCall call)) =
      incomeIndexAt protocol.toRealizedYieldProtocol command.assetSlug blockNumber
        (fun call => archiveRpc' (.ethCall call)) := by
  unfold incomeIndexAt
  cases hfound : protocol.reserves.find? (·.assetSlug == command.assetSlug) with
  | none => rfl
  | some reserve =>
    obtain ⟨hmem, hslug⟩ := (find_reserve hlisted).mp hfound
    obtain ⟨token, htoken⟩ := hlisted.addresses reserve hmem
    simp only
    rw [htoken.2, encode_addressText htoken.1, bind_ok, bind_ok,
      hsame _ (.index hrange hmem hslug htoken hblock)]

omit hlisted in
/-- The report as the code writes it. -/
lemma reported_iff {reserve : RealizedYieldReserve} {fromIndex toIndex : ℕ} {result : YieldResult} :
    Reported D archiveRpc command reserve fromIndex toIndex result ↔
      ∃ realizedYield, ratioMinusOne D toIndex fromIndex = .ok realizedYield ∧ ∃ estimate,
        Annualized D archiveRpc command fromIndex toIndex estimate ∧
          YieldResult.mk reserve.assetSymbol reserve.underlyingAssetAddress (Nat.repr fromIndex)
            (Nat.repr toIndex) realizedYield estimate.1 estimate.2.1 estimate.2.2.1
            ((if toIndex < fromIndex then ["decreasing_income_index"] else []) ++
              estimate.2.2.2) = result := by
  constructor
  · rintro ⟨hsymbol, haddress, hfirst, hlast, hyield, failed, hannualized, hwarnings⟩
    refine ⟨_, hyield, _, hannualized, ?_⟩
    rw [← hsymbol, ← haddress, ← hfirst, ← hlast, ← hwarnings]
  · rintro ⟨realizedYield, hyield, estimate, hannualized, rfl⟩
    exact ⟨rfl, rfl, rfl, rfl, hyield, _, hannualized, rfl⟩

/-- The adapter reports evidence, and whatever there is evidence of. -/
lemma resolveYield_eq_ok {secondFirst : Bool} {result : YieldResult} :
    resolveYield D archiveRpc protocol command minConfirmations secondFirst = .ok result ↔
      Reports D archiveRpc protocol command minConfirmations result := by
  unfold resolveYield
  split_ifs with hrange
  · refine iff_of_false (by simp) ?_
    rintro ⟨reserve, token, fromIndex, toIndex, ⟨hrange', -, -, -, -, -⟩, -⟩
    omega
  simp only [bind_eq_ok, lift_eq_ok, okOr_eq_ok]
  constructor
  · rintro ⟨value, hvalue, head, hhead, h⟩
    split_ifs at h with hdeep
    · simp at h
    simp only [bind_eq_ok, lift_eq_ok, mapError_eq_ok] at h
    obtain ⟨⟨first, last⟩, hjoin, h⟩ := h
    obtain ⟨hfirst, hlast⟩ := tryJoin_eq_ok.mp hjoin
    rw [mapError_eq_ok, incomeIndexAt_eq_ok hlisted] at hfirst hlast
    obtain ⟨-, reserve, token, fromIndex, hmem, hslug, htoken, hfrom, rfl⟩ := hfirst
    obtain ⟨-, reserve', token', toIndex, hmem', hslug', htoken', hto, rfl⟩ := hlast
    simp only [parseBytes_repr, okOr_eq_ok, Option.some.injEq, exists_eq_left', annualize_eq_ok,
      pure, Except.pure, Except.ok.injEq] at h
    -- both indexes are of the one reserve of the slug
    obtain rfl := List.inj_on_of_nodup_map hlisted.slugs hmem hmem' (hslug.trans hslug'.symm)
    obtain rfl := htoken.unique htoken'
    exact ⟨reserve, token, fromIndex, toIndex, ⟨by omega, ⟨head, Option.bind_eq_some_iff.mpr
      ⟨value, hvalue, hhead⟩, by omega⟩, ⟨hmem, hslug⟩, htoken, hfrom, hto⟩, reported_iff.mpr h⟩
  · rintro ⟨reserve, token, fromIndex, toIndex, ⟨hrange', ⟨head, hhead, hdeep⟩, ⟨hmem, hslug⟩,
      htoken, hfirst, hlast⟩, hreported⟩
    obtain ⟨value, hvalue, hhead⟩ := Option.bind_eq_some_iff.mp hhead
    have hindex {blockNumber index : ℕ} (hpos : 0 < blockNumber)
        (hread : IndexRead archiveRpc protocol token blockNumber index) :
        incomeIndexAt protocol.toRealizedYieldProtocol command.assetSlug blockNumber
            (fun call => archiveRpc (.ethCall call)) =
          .ok ⟨reserve.assetSymbol, reserve.underlyingAssetAddress, Nat.repr index⟩ :=
      (incomeIndexAt_eq_ok hlisted).mpr
        ⟨hpos, reserve, token, index, hmem, hslug, htoken, hread, rfl⟩
    refine ⟨value, hvalue, head, hhead, ?_⟩
    rw [if_neg (by omega)]
    simp only [bind_eq_ok, lift_eq_ok, mapError_eq_ok]
    refine ⟨_, tryJoin_eq_ok.mpr ⟨mapError_eq_ok.mpr (hindex (by omega) hfirst),
      mapError_eq_ok.mpr (hindex (by omega) hlast)⟩, ?_⟩
    simp only [parseBytes_repr, okOr_eq_ok, Option.some.injEq, exists_eq_left', annualize_eq_ok,
      pure, Except.pure, Except.ok.injEq]
    exact reported_iff.mp hreported

lemma resolveYield_congr {secondFirst : Bool}
    (hsame : ∀ call, Asked protocol command call → archiveRpc call = archiveRpc' call) :
    resolveYield D archiveRpc protocol command minConfirmations secondFirst =
      resolveYield D archiveRpc' protocol command minConfirmations secondFirst := by
  unfold resolveYield
  split_ifs with hrange
  · rfl
  have hrange : 0 < command.fromBlock ∧ command.fromBlock < command.toBlock := by omega
  have hestimate (fromIndex toIndex : ℕ) : annualize D archiveRpc command fromIndex toIndex =
      annualize D archiveRpc' command fromIndex toIndex := by
    unfold annualize
    split_ifs with hwanted
    · rw [hsame _ (.timestamp hwanted (Or.inl rfl)), hsame _ (.timestamp hwanted (Or.inr rfl))]
    · rfl
  simp only [hsame _ (.head hrange), incomeIndexAt_congr hlisted hrange (Or.inl rfl) hsame,
    incomeIndexAt_congr hlisted hrange (Or.inr rfl) hsame, hestimate]

end

/-! ### The service -/

lemma listed_of_declares {catalog : Catalog} {canonical : CanonicalRegistry}
    (hbuilt : BuiltFrom catalog canonical) {declaration : ProtocolDeclaration}
    {protocol : RealizedYieldProtocol} (h : Declares catalog declaration protocol) :
    Listed protocol where
  slugs := List.pairwise_map.mpr (h.sorted.imp ne_of_lt)
  addresses := fun reserve hreserve =>
    exists_token ((h.callable hbuilt).addresses.2 reserve hreserve)

/-- The protocol is the one of the declarations that has the slug, in any case. -/
def Declared (catalog : Catalog) (protocols : ProtocolCatalog) (protocolSlug : String)
    (protocol : RealizedYieldProtocol) : Prop :=
  ∃ declaration ∈ protocols.protocols, declaration.slug = toAsciiLowercase protocolSlug ∧
    Declares catalog declaration protocol

/-- The errors of the adapter are not those of the service. -/
def IsAdapters (e : Halt Error) : Prop :=
  e ≠ .error .protocolUnavailable ∧ e ≠ .error .operationUnsupported

lemma isAdapters_ofAave (e : AaveError) : IsAdapters (.error (ofAave e)) := by
  cases e <;> simp [IsAdapters, ofAave]

lemma returns_ofYields {α : Type} (x : Except (Halt AaveYields.Error) α) :
    Returns IsAdapters (fun _ => True) (x.mapError ofYields) := by
  rcases x with (_ | ⟨⟨⟩⟩) | _ <;> simp [Except.mapError, Returns, IsAdapters, ofYields]

lemma returns_okOr {α : Type} (x : Option α) {e : Error} (h : IsAdapters (.error e)) :
    Returns IsAdapters (fun _ => True) (lift (okOr x e)) := by
  cases x with
  | none => exact h
  | some a => trivial

lemma returns_tryJoin {α : Type} (secondFirst : Bool) (x y : Except AaveError α) :
    Returns IsAdapters (fun _ => True)
      (lift (tryJoin secondFirst (x.mapError ofAave) (y.mapError ofAave))) := by
  rcases x with e | a <;> rcases y with e' | b
  · cases secondFirst
    · exact isAdapters_ofAave e
    · exact isAdapters_ofAave e'
  · exact isAdapters_ofAave e
  · exact isAdapters_ofAave e'
  · trivial

lemma returns_resolveYield {δ : Type} {D : D512 δ} {archiveRpc : ArchiveRpc}
    {protocol : RealizedYieldProtocol} {command : Command} {minConfirmations : ℕ}
    {secondFirst : Bool} : Returns IsAdapters (fun _ => True)
      (resolveYield D archiveRpc protocol command minConfirmations secondFirst) := by
  unfold resolveYield
  split_ifs
  · simp [Returns, fail, IsAdapters]
  refine (returns_okOr _ (by simp [IsAdapters])).bind fun value _ => ?_
  refine (returns_okOr _ (by simp [IsAdapters])).bind fun head _ => ?_
  split_ifs
  · simp [Returns, fail, IsAdapters]
  refine (returns_tryJoin _ _ _).bind fun observations _ => ?_
  refine (returns_okOr _ (by simp [IsAdapters])).bind fun fromIndex _ => ?_
  refine (returns_okOr _ (by simp [IsAdapters])).bind fun toIndex _ => ?_
  refine (returns_ofYields _).bind fun realizedYield _ => ?_
  have hestimate : Returns IsAdapters (fun _ => True)
      (annualize D archiveRpc command fromIndex toIndex) := by
    unfold annualize
    split_ifs
    · split
      · split_ifs
        · exact (returns_ofYields _).bind fun apy _ => trivial
        · trivial
      · trivial
    · trivial
  exact hestimate.bind fun estimate _ => trivial

lemma resolve_of_found {δ : Type} (D : D512 δ) (archiveRpc : ArchiveRpc) (minConfirmations : ℕ)
    {registry : VerifiedProtocolRegistry} {command : Command} (secondFirst : Bool)
    {found : RealizedYieldProtocol}
    (hfound : realizedYieldProtocol registry command.protocolSlug = some found)
    (hkind : found.adapterKind = "aave_v3_realized_yield") :
    resolve D archiveRpc registry minConfirmations command secondFirst =
      (resolveYield D archiveRpc found command minConfirmations secondFirst).map
        fun resolved => (found, resolved) := by
  unfold resolve
  rw [hfound]
  simp only [okOr, lift, bind_ok, hkind, ne_eq, not_true_eq_false, if_false]
  rfl

/-- What `fastnum` does to numbers of at most two places, whose powers nobody takes. -/
def hundredths : D512 ℚ where
  fromStr text := (parseBytes text).map fun n => n
  div a b := a / b
  sub a b := a - b
  pow a _ := a
  display a :=
    let cents := (a * 100).num.toNat
    (Nat.repr (cents / 100)).toList ++ '.' :: Lib.Numerals.numeral 2 (cents % 100)

/-- A node at block 200, on which the index has grown by two percent after block 100. -/
def growingNode : ArchiveRpc
  | .blockNumber => some { asStr := some "0xc8" }
  | .ethCall call =>
    some { asStr := some (String.ofList ("0x".toList ++
      word 64 (if call.blockNumber ≤ 100 then 1000 else 1020))) }
  | .getBlockByNumber _ => none

def usdCoinYield : Command where
  protocolSlug := "AAVE-v3"
  assetSlug := "usd-coin"
  fromBlock := 100
  toBlock := 150
  includeAnnualizedApyEstimate := true

def usdCoinResult : YieldResult where
  assetSymbol := "USDC"
  underlyingAssetAddress := "0xa0b86991c6218b36c1d19d4a2e9eb0ce3606eb48"
  fromIndex := "1000"
  toIndex := "1020"
  realizedYield := "0.02".toList
  fromTimestamp := none
  toTimestamp := none
  annualizedApyEstimate := none
  warnings := ["timestamp_lookup_failed"]

lemma resolveYield_usdCoin :
    resolveYield hundredths growingNode aaveProtocol usdCoinYield 50 false = .ok usdCoinResult := by
  decide +kernel

end MotherApi.RealizedYields
