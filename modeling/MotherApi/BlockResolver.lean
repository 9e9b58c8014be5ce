import MotherApi.SimulationTime
import Mathlib.Data.List.Perm.Basic
import Mathlib.Order.Monotone.Defs
import Mathlib.Tactic.Linarith

/-!
The resolver of the portfolio simulation that finds the block in force at a time.

It pins the head of the chain once, keeps every block it has seen, and narrows a bracket of
two known blocks by interpolation. The provider is asked over RPC and may answer anything at
any call; the map of seen blocks is scanned in an order of its own.
-/

namespace MotherApi.BlockResolver

open MotherApi.SimulationTime

inductive RpcRequest
  | blockNumber
  | getBlockByNumber (number : ℕ)
  deriving DecidableEq

/-- What the resolver reads of an answer: the text it is, and the texts of two of its fields. -/
structure RpcValue where
  asStr : Option String := none
  timestamp : Option String := none
  hash : Option String := none

structure BlockEvidence where
  number : ℕ
  hash : String
  timestamp : String
  epochSeconds : ℤ
  deriving DecidableEq

/-- The world outside: the answer to each call, by the number of calls made before it, and the
order in which a map's values come when it is scanned. -/
structure Env where
  archiveRpc : ℕ → RpcRequest → Option RpcValue
  values : ℕ → List BlockEvidence → List BlockEvidence
  values_perm : ∀ n cache, (values n cache).Perm cache

/-- The seen blocks are kept under their own numbers. `calls` are the calls made so far. -/
structure Resolver where
  head : Option BlockEvidence := none
  genesis : Option BlockEvidence := none
  lastResolved : Option BlockEvidence := none
  cache : List BlockEvidence := []
  calls : List RpcRequest := []

/-- Every failure is `Error::AaveEvidenceUnavailable`. -/
abbrev Outcome := Option BlockEvidence × Resolver

/-! ### The code -/

/-- The block number in the provider's answer. -/
def readHead (value : Option RpcValue) : Option ℕ := value.bind fun value => parseHex value.asStr

/-- The block in the provider's answer. -/
def readBlock (number : ℕ) (value : Option RpcValue) : Option BlockEvidence := do
  let value ← value
  let timestampRaw ← parseHex value.timestamp
  let hash ← value.hash.filter fun hash => hash.toList.take 2 = ['0', 'x']
  return ⟨number, hash, timestampForEpoch (wrapI64 timestampRaw), wrapI64 timestampRaw⟩

def block (env : Env) (number : ℕ) (r : Resolver) : Outcome :=
  match r.cache.find? fun block => block.number = number with
  | some block => (some block, r)
  | none =>
    let answer := env.archiveRpc r.calls.length (.getBlockByNumber number)
    let r := { r with calls := r.calls ++ [.getBlockByNumber number] }
    match readBlock number answer with
    | none => (none, r)
    | some block => (some block, { r with cache := block :: r.cache })

def interpolatedBlockNumber (target : ℤ) (low high : BlockEvidence) : ℕ :=
  let blockSpan := high.number - low.number
  let timeSpan := wrapI64 (high.epochSeconds - low.epochSeconds)
  if timeSpan ≤ 0 then low.number + blockSpan / 2
  else
    let targetOffset := (max 0 (min (wrapI64 (target - low.epochSeconds)) timeSpan)).toNat
    let estimatedOffset := targetOffset * blockSpan / timeSpan.toNat % 2 ^ 64
    max (low.number + 1) (min (low.number + estimatedOffset) (high.number - 1))

/-- The bracket while the seen blocks are scanned. -/
def scan (target : ℤ) (bracket : BlockEvidence × BlockEvidence) (block : BlockEvidence) :
    BlockEvidence × BlockEvidence :=
  let low :=
    if block.epochSeconds ≤ target ∧ bracket.1.number < block.number then block else bracket.1
  let high :=
    if target < block.epochSeconds ∧ block.number < bracket.2.number then block else bracket.2
  (low, high)

lemma interpolated_inside (target : ℤ) {low high : BlockEvidence}
    (h : low.number + 1 < high.number) :
    low.number < interpolatedBlockNumber target low high ∧
      interpolatedBlockNumber target low high < high.number := by
  unfold interpolatedBlockNumber
  simp only
  split
  · constructor <;> omega
  · constructor <;> omega

lemma block_number {env : Env} {number : ℕ} {r r' : Resolver} {b : BlockEvidence}
    (h : block env number r = (some b, r')) : b.number = number := by
  unfold block at h
  split at h
  · rename_i found hf
    have := List.find?_some hf
    simp only [Prod.mk.injEq, Option.some.injEq] at h
    rw [← h.1]
    simpa using this
  · simp only at h
    split at h
    · simp at h
    · rename_i found hr
      simp only [Prod.mk.injEq, Option.some.injEq] at h
      rw [← h.1]
      simp only [readBlock, Option.pure_def, Option.bind_eq_bind, Option.bind_eq_some_iff,
        Option.some.injEq] at hr
      obtain ⟨-, -, -, -, -, -, rfl⟩ := hr
      rfl

/-- The loop of `at_or_before`. `low.number + 1` saturates in the source; block numbers are
64-bit, so a saturated sum is not below `high.number` either. -/
def search (env : Env) (target : ℤ) (low high : BlockEvidence) (r : Resolver) : Outcome :=
  if _hlt : low.number + 1 < high.number then
    match _hb : block env (interpolatedBlockNumber target low high) r with
    | (none, r) => (none, r)
    | (some block, r) =>
      if block.epochSeconds ≤ target then search env target block high r
      else search env target low block r
  else (some low, { r with lastResolved := some low })
termination_by high.number - low.number
decreasing_by
  all_goals
    have := block_number _hb
    have := interpolated_inside target _hlt
    omega

/-- The pinned head, asked for on the first call. -/
def pinHead (env : Env) (r : Resolver) : Outcome :=
  match r.head with
  | some head => (some head, r)
  | none =>
    let answer := env.archiveRpc r.calls.length .blockNumber
    let r := { r with calls := r.calls ++ [.blockNumber] }
    match readHead answer with
    | none => (none, r)
    | some number =>
      match block env number r with
      | (none, r) => (none, r)
      | (some head, r) => (some head, { r with head := some head })

def findGenesis (env : Env) (r : Resolver) : Outcome :=
  match r.genesis with
  | some genesis => (some genesis, r)
  | none =>
    match block env 0 r with
    | (none, r) => (none, r)
    | (some genesis, r) => (some genesis, { r with genesis := some genesis })

/-- The tightest bracket of known blocks, and the search inside it. -/
def narrow (env : Env) (target : ℤ) (head genesis : BlockEvidence) (r : Resolver) : Outcome :=
  let low := (r.lastResolved.filter fun block =>
    decide (block.epochSeconds ≤ target)).getD genesis
  let (low, high) := (env.values r.calls.length r.cache).foldl (scan target) (low, head)
  search env target low high r

def atOrBefore (env : Env) (r : Resolver) (timestamp : String) : Outcome :=
  match parseRfc3339Epoch timestamp with
  | none => (none, r)
  | some target =>
    match pinHead env r with
    | (none, r) => (none, r)
    | (some head, r) =>
      if head.epochSeconds ≤ target then (some head, { r with lastResolved := some head })
      else
        match findGenesis env r with
        | (none, r) => (none, r)
        | (some genesis, r) =>
          if target < genesis.epochSeconds then (none, r)
          else narrow env target head genesis r

/-! ### Calls that failed -/

/-- The answer to the call can be used. -/
def usable (env : Env) (n : ℕ) : RpcRequest → Bool
  | .blockNumber => (readHead (env.archiveRpc n .blockNumber)).isSome
  | .getBlockByNumber number =>
    (readBlock number (env.archiveRpc n (.getBlockByNumber number))).isSome

/-- One of these calls failed; `n` calls were made before them. -/
def someFailed (env : Env) : ℕ → List RpcRequest → Bool
  | _, [] => false
  | n, call :: calls => !usable env n call || someFailed env (n + 1) calls

lemma someFailed_append (env : Env) (n : ℕ) (made made' : List RpcRequest) :
    someFailed env n (made ++ made') =
      (someFailed env n made || someFailed env (n + made.length) made') := by
  induction made generalizing n with
  | nil => simp [someFailed]
  | cons call made ih =>
    simp only [List.cons_append, someFailed, ih, List.length_cons, Bool.or_assoc]
    rw [show n + 1 + made.length = n + (made.length + 1) by omega]

/-- Some calls were made and none of them failed. -/
def Answered (env : Env) (r r' : Resolver) : Prop :=
  ∃ made, r'.calls = r.calls ++ made ∧ someFailed env r.calls.length made = false

/-- Some calls were made, and the operation failed exactly if one of them did. -/
def FailsByCall (env : Env) (r : Resolver) (out : Outcome) : Prop :=
  ∃ made, out.2.calls = r.calls ++ made ∧
    (out.1 = none ↔ someFailed env r.calls.length made = true)

lemma Answered.failsByCall {env : Env} {r : Resolver} {b : BlockEvidence} {r' : Resolver}
    (h : Answered env r r') : FailsByCall env r (some b, r') := by
  obtain ⟨made, hmade, hok⟩ := h
  exact ⟨made, hmade, by simp [hok]⟩

lemma FailsByCall.answered {env : Env} {r : Resolver} {b : BlockEvidence} {r' : Resolver}
    (h : FailsByCall env r (some b, r')) : Answered env r r' := by
  obtain ⟨made, hmade, hfail⟩ := h
  exact ⟨made, hmade, by simpa using hfail⟩

lemma Answered.of_eq {env : Env} {r r' : Resolver} (h : r'.calls = r.calls) :
    Answered env r r' :=
  ⟨[], by simp [h], rfl⟩

lemma Answered.then {env : Env} {r r' : Resolver} {out : Outcome} (h : Answered env r r')
    (h' : FailsByCall env r' out) : FailsByCall env r out := by
  obtain ⟨made, hmade, hok⟩ := h
  obtain ⟨made', hmade', hfail⟩ := h'
  refine ⟨made ++ made', by rw [hmade', hmade, List.append_assoc], ?_⟩
  rw [someFailed_append, hok, Bool.false_or, hfail, hmade, List.length_append]

lemma block_failsByCall (env : Env) (number : ℕ) (r : Resolver) :
    FailsByCall env r (block env number r) := by
  unfold block
  split
  · exact (Answered.of_eq rfl).failsByCall
  · simp only
    split
    · rename_i hr
      exact ⟨[.getBlockByNumber number], rfl, by simp [someFailed, usable, hr]⟩
    · rename_i hr
      exact ⟨[.getBlockByNumber number], rfl, by simp [someFailed, usable, hr]⟩

lemma pinHead_failsByCall (env : Env) (r : Resolver) : FailsByCall env r (pinHead env r) := by
  unfold pinHead
  split
  · exact (Answered.of_eq rfl).failsByCall
  · simp only
    split
    · rename_i hr
      exact ⟨[.blockNumber], rfl, by simp [someFailed, usable, hr]⟩
    · rename_i number hr
      -- the head's number was read: one call that did not fail, then the call for the block
      have hfirst : Answered env r { r with calls := r.calls ++ [.blockNumber] } :=
        ⟨[.blockNumber], rfl, by simp [someFailed, usable, hr]⟩
      have hblock := block_failsByCall env number { r with calls := r.calls ++ [.blockNumber] }
      split <;> rename_i hb <;> rw [hb] at hblock
      · exact hfirst.then hblock
      · exact (hfirst.then hblock).answered.then (Answered.of_eq rfl).failsByCall

lemma findGenesis_failsByCall (env : Env) (r : Resolver) :
    FailsByCall env r (findGenesis env r) := by
  unfold findGenesis
  split
  · exact (Answered.of_eq rfl).failsByCall
  · have hblock := block_failsByCall env 0 r
    split <;> rename_i hb <;> rw [hb] at hblock
    · exact hblock
    · exact hblock.answered.then (Answered.of_eq rfl).failsByCall

lemma search_failsByCall (env : Env) (target : ℤ) (low high : BlockEvidence) (r : Resolver) :
    FailsByCall env r (search env target low high r) := by
  fun_induction search env target low high r with
  | case1 low high r hlt r' hb =>
    have hblock := block_failsByCall env (interpolatedBlockNumber target low high) r
    rw [hb] at hblock
    exact hblock
  | case2 low high r hlt b r' hb hle ih =>
    have hblock := block_failsByCall env (interpolatedBlockNumber target low high) r
    rw [hb] at hblock
    exact hblock.answered.then ih
  | case3 low high r hlt b r' hb hle ih =>
    have hblock := block_failsByCall env (interpolatedBlockNumber target low high) r
    rw [hb] at hblock
    exact hblock.answered.then ih
  | case4 low high r hlt => exact (Answered.of_eq rfl).failsByCall

/-! ### Any provider -/

/-- At most `n` calls were made, and the pinned head is as it was. -/
def Within (n : ℕ) (r r' : Resolver) : Prop :=
  r'.head = r.head ∧ ∃ made, r'.calls = r.calls ++ made ∧ made.length ≤ n

lemma Within.trans {n n' k : ℕ} {r r' r'' : Resolver} (h : Within n r r') (h' : Within n' r' r'')
    (hk : n + n' ≤ k) : Within k r r'' := by
  obtain ⟨hhead, made, hmade, hn⟩ := h
  obtain ⟨hhead', made', hmade', hn'⟩ := h'
  refine ⟨hhead'.trans hhead, made ++ made', by rw [hmade', hmade, List.append_assoc], ?_⟩
  rw [List.length_append]
  omega

lemma Within.mono {n k : ℕ} {r r' : Resolver} (h : Within n r r') (hk : n ≤ k) : Within k r r' := by
  obtain ⟨hhead, made, hmade, hn⟩ := h
  exact ⟨hhead, made, hmade, le_trans hn hk⟩

lemma block_within (env : Env) (number : ℕ) (r : Resolver) : Within 1 r (block env number r).2 := by
  unfold block
  split
  · exact ⟨rfl, [], by simp, by simp⟩
  · simp only
    split
    · exact ⟨rfl, [.getBlockByNumber number], rfl, le_rfl⟩
    · exact ⟨rfl, [.getBlockByNumber number], rfl, le_rfl⟩

lemma findGenesis_within (env : Env) (r : Resolver) : Within 1 r (findGenesis env r).2 := by
  unfold findGenesis
  split
  · exact ⟨rfl, [], by simp, by simp⟩
  · have hb := block_within env 0 r
    split <;> rename_i heq <;> rw [heq] at hb
    · exact hb
    · exact hb

/-- Each round takes a block off the bracket. -/
lemma search_within (env : Env) (target : ℤ) (low high : BlockEvidence) (r : Resolver) :
    Within (high.number - low.number) r (search env target low high r).2 := by
  fun_induction search env target low high r with
  | case1 low high r hlt r' hb =>
    have hone := block_within env (interpolatedBlockNumber target low high) r
    rw [hb] at hone
    exact hone.mono (by omega)
  | case2 low high r hlt b r' hb hle ih =>
    have hone := block_within env (interpolatedBlockNumber target low high) r
    have := block_number hb
    have := interpolated_inside target hlt
    rw [hb] at hone
    exact hone.trans ih (by omega)
  | case3 low high r hlt b r' hb hle ih =>
    have hone := block_within env (interpolatedBlockNumber target low high) r
    have := block_number hb
    have := interpolated_inside target hlt
    rw [hb] at hone
    exact hone.trans ih (by omega)
  | case4 low high r hlt => exact ⟨rfl, [], by simp, by simp⟩

lemma search_le {env : Env} {target : ℤ} {low high : BlockEvidence} {r r' : Resolver}
    {b : BlockEvidence} (hlow : low.epochSeconds ≤ target)
    (h : search env target low high r = (some b, r')) : b.epochSeconds ≤ target := by
  fun_induction search env target low high r with
  | case1 => simp at h
  | case2 low high r hlt b' r'' hb hle ih => exact ih hle h
  | case3 low high r hlt b' r'' hb hle ih => exact ih hlow h
  | case4 low high r hlt =>
    simp only [Prod.mk.injEq, Option.some.injEq] at h
    rwa [← h.1]

lemma scan_le {target : ℤ} {bracket : BlockEvidence × BlockEvidence} {blocks : List BlockEvidence}
    (h : bracket.1.epochSeconds ≤ target) :
    (blocks.foldl (scan target) bracket).1.epochSeconds ≤ target := by
  induction blocks generalizing bracket with
  | nil => exact h
  | cons b blocks ih =>
    refine ih ?_
    unfold scan
    split
    · rename_i hb
      exact hb.1
    · exact h

lemma scan_high_le {target : ℤ} {bracket : BlockEvidence × BlockEvidence}
    {blocks : List BlockEvidence} :
    (blocks.foldl (scan target) bracket).2.number ≤ bracket.2.number := by
  induction blocks generalizing bracket with
  | nil => exact le_rfl
  | cons b blocks ih =>
    refine le_trans ih ?_
    unfold scan
    simp only
    split <;> omega

lemma start_le {target : ℤ} {last : Option BlockEvidence} {genesis : BlockEvidence}
    (h : genesis.epochSeconds ≤ target) :
    ((last.filter fun block => decide (block.epochSeconds ≤ target)).getD genesis).epochSeconds ≤
      target := by
  cases hlast : last.filter fun block => decide (block.epochSeconds ≤ target) with
  | none => exact h
  | some b => simpa using (Option.filter_eq_some_iff.mp hlast).2

lemma narrow_le {env : Env} {target : ℤ} {head genesis b : BlockEvidence} {r r' : Resolver}
    (hgenesis : genesis.epochSeconds ≤ target)
    (h : narrow env target head genesis r = (some b, r')) : b.epochSeconds ≤ target :=
  search_le (scan_le (start_le hgenesis)) h

lemma narrow_within (env : Env) (target : ℤ) (head genesis : BlockEvidence) (r : Resolver) :
    Within head.number r (narrow env target head genesis r).2 := by
  have hhigh : ∀ low, ((env.values r.calls.length r.cache).foldl (scan target)
      (low, head)).2.number ≤ head.number := fun low => scan_high_le
  exact (search_within env target _ _ r).mono (le_trans (Nat.sub_le _ _) (hhigh _))

lemma narrow_failsByCall (env : Env) (target : ℤ) (head genesis : BlockEvidence) (r : Resolver) :
    FailsByCall env r (narrow env target head genesis r) :=
  search_failsByCall env target _ _ r

/-- **Whatever the provider says**, what is found lies at or before the target. -/
lemma atOrBefore_le {env : Env} {r r' : Resolver} {timestamp : String} {b : BlockEvidence}
    (h : atOrBefore env r timestamp = (some b, r')) :
    ∃ target, parseRfc3339Epoch timestamp = some target ∧ b.epochSeconds ≤ target := by
  unfold atOrBefore at h
  split at h
  · simp at h
  · rename_i target hp
    refine ⟨target, hp, ?_⟩
    split at h
    · simp at h
    · split at h
      · rename_i hle
        simp only [Prod.mk.injEq, Option.some.injEq] at h
        rwa [← h.1]
      · split at h
        · simp at h
        · split at h
          · simp at h
          · rename_i hge
            exact narrow_le (not_lt.mp hge) h

lemma pinHead_calls (env : Env) (r : Resolver) :
    (∃ made, (pinHead env r).2.calls = r.calls ++ made ∧ made.length ≤ 2) ∧
      ∀ head ∈ (pinHead env r).1, (pinHead env r).2.head = some head := by
  unfold pinHead
  split
  · rename_i head hh
    exact ⟨⟨[], by simp, by simp⟩, by simp [hh]⟩
  · simp only
    split
    · exact ⟨⟨[.blockNumber], rfl, by simp⟩, by simp⟩
    · rename_i number _
      obtain ⟨-, made, hmade, hn⟩ := block_within env number
        { r with calls := r.calls ++ [.blockNumber] }
      split <;> rename_i heq <;> rw [heq] at hmade
      · exact ⟨⟨.blockNumber :: made, by simpa using hmade, by simpa using hn⟩, by simp⟩
      · exact ⟨⟨.blockNumber :: made, by simpa using hmade, by simpa using hn⟩, by simp⟩

/-- Every search ends, after no more calls than there are blocks under the pinned head. -/
lemma atOrBefore_calls (env : Env) (r : Resolver) (timestamp : String) :
    ∃ made, (atOrBefore env r timestamp).2.calls = r.calls ++ made ∧
      made.length ≤ 3 + (atOrBefore env r timestamp).2.head.elim 0 BlockEvidence.number := by
  unfold atOrBefore
  split
  · exact ⟨[], by simp, by simp⟩
  rename_i target _
  obtain ⟨⟨made, hmade, hn⟩, hpin⟩ := pinHead_calls env r
  split <;> rename_i heq <;> rw [heq] at hmade hpin
  · exact ⟨made, hmade, by omega⟩
  rename_i head r₁
  split
  · exact ⟨made, hmade, by omega⟩
  have hg := findGenesis_within env r₁
  split <;> rename_i heq₂ <;> rw [heq₂] at hg <;> obtain ⟨hh, made₂, hmade₂, hn₂⟩ := hg
  · exact ⟨made ++ made₂, by rw [hmade₂, hmade, List.append_assoc], by simp; omega⟩
  rename_i genesis r₂
  split
  · exact ⟨made ++ made₂, by rw [hmade₂, hmade, List.append_assoc], by simp; omega⟩
  · obtain ⟨hh₃, made₃, hmade₃, hn₃⟩ := narrow_within env target head genesis r₂
    refine ⟨made ++ (made₂ ++ made₃), ?_, ?_⟩
    · rw [hmade₃, hmade₂, hmade, List.append_assoc, List.append_assoc]
    · rw [hh₃, hh, hpin head rfl]
      simp only [List.length_append, Option.elim_some]
      omega

/-! ### A provider that answers for one chain -/

/-- Blocks with timestamps that do not decrease and fit in 63 bits. -/
structure Chain where
  timestamp : ℕ → ℕ
  hash : ℕ → String
  monotone : Monotone timestamp
  inRange : ∀ number, timestamp number < 2 ^ 63

def Chain.evidence (chain : Chain) (number : ℕ) : BlockEvidence :=
  ⟨number, chain.hash number, timestampForEpoch (chain.timestamp number), chain.timestamp number⟩

/-- What the provider says of a block is what the chain has there; it may still fail. -/
structure Consistent (env : Env) (chain : Chain) : Prop where
  timestamp : ∀ n number value raw, env.archiveRpc n (.getBlockByNumber number) = some value →
    parseHex value.timestamp = some raw → raw = chain.timestamp number
  hash : ∀ n number value hash, env.archiveRpc n (.getBlockByNumber number) = some value →
    value.hash = some hash → hash = chain.hash number

/-- The resolver knows blocks of the chain only. -/
structure Knows (chain : Chain) (r : Resolver) : Prop where
  head : ∀ b ∈ r.head, b = chain.evidence b.number
  genesis : ∀ b ∈ r.genesis, b = chain.evidence 0
  lastResolved : ∀ b ∈ r.lastResolved, b = chain.evidence b.number
  cache : ∀ b ∈ r.cache, b = chain.evidence b.number

variable {env : Env} {chain : Chain} {r r' : Resolver} {number : ℕ} {target : ℤ}
  {b low high : BlockEvidence}

lemma wrapI64_of_lt {raw : ℕ} (h : raw < 2 ^ 63) : wrapI64 raw = raw := by
  unfold wrapI64
  exact Int.bmod_eq_of_le (by omega) (by omega)

lemma readBlock_eq (hc : Consistent env chain) {n : ℕ}
    (h : readBlock number (env.archiveRpc n (.getBlockByNumber number)) = some b) :
    b = chain.evidence number := by
  simp only [readBlock, Option.pure_def, Option.bind_eq_bind, Option.bind_eq_some_iff,
    Option.some.injEq, Option.filter_eq_some_iff] at h
  obtain ⟨value, hvalue, raw, hraw, hash, ⟨hhash, -⟩, rfl⟩ := h
  obtain rfl := hc.timestamp n number value raw hvalue hraw
  obtain rfl := hc.hash n number value hash hvalue hhash
  rw [wrapI64_of_lt (chain.inRange number)]
  rfl

lemma block_spec (hc : Consistent env chain) (hk : Knows chain r)
    (h : block env number r = (some b, r')) :
    b = chain.evidence number ∧ Knows chain r' := by
  have hnumber := block_number h
  unfold block at h
  split at h
  · rename_i found hf
    simp only [Prod.mk.injEq, Option.some.injEq] at h
    obtain ⟨rfl, rfl⟩ := h
    have := hk.cache found (List.mem_of_find?_eq_some hf)
    rw [hnumber] at this
    exact ⟨this, hk⟩
  · simp only at h
    split at h
    · simp at h
    · rename_i found hr
      simp only [Prod.mk.injEq, Option.some.injEq] at h
      obtain ⟨rfl, rfl⟩ := h
      have hb := readBlock_eq hc hr
      refine ⟨hb, ⟨hk.head, hk.genesis, hk.lastResolved, ?_⟩⟩
      simp only [List.mem_cons, forall_eq_or_imp]
      exact ⟨by rw [hnumber]; exact hb, hk.cache⟩

lemma block_none (hk : Knows chain r) (h : block env number r = (none, r')) :
    Knows chain r' := by
  unfold block at h
  split at h
  · simp at h
  · simp only at h
    split at h
    · simp only [Prod.mk.injEq, true_and] at h
      subst h
      exact ⟨hk.head, hk.genesis, hk.lastResolved, hk.cache⟩
    · simp at h

lemma Chain.lt_of_epoch (chain : Chain) {n n' : ℕ} (h : (chain.timestamp n : ℤ) ≤ target)
    (h' : target < chain.timestamp n') : n < n' := by
  by_contra hle
  have := chain.monotone (not_lt.mp hle)
  omega

/-- `b` is the block in force at `target`. -/
def InForce (chain : Chain) (target : ℤ) (head : ℕ) (b : BlockEvidence) : Prop :=
  b = chain.evidence b.number ∧ b.number ≤ head ∧ (chain.timestamp b.number : ℤ) ≤ target ∧
    ∀ number, b.number < number → number ≤ head → target < chain.timestamp number

lemma search_spec (hc : Consistent env chain) (hk : Knows chain r) {head : ℕ}
    (hlow : low = chain.evidence low.number) (hhigh : high = chain.evidence high.number)
    (hle : low.epochSeconds ≤ target) (hgt : target < high.epochSeconds)
    (hhead : high.number ≤ head) :
    Knows chain (search env target low high r).2 ∧
      ∀ b ∈ (search env target low high r).1, InForce chain target head b := by
  fun_induction search env target low high r with
  | case1 low high r hlt r' hb =>
    exact ⟨block_none hk hb, by simp⟩
  | case2 low high r hlt b r' hb hle' ih =>
    obtain ⟨hbe, hk'⟩ := block_spec hc hk hb
    exact ih hk' (by rw [hbe]; rfl) hhigh hle' hgt hhead
  | case3 low high r hlt b r' hb hle' ih =>
    obtain ⟨hbe, hk'⟩ := block_spec hc hk hb
    have hinside := interpolated_inside target hlt
    refine ih hk' hlow (by rw [hbe]; rfl) hle (not_le.mp hle') ?_
    rw [block_number hb]
    omega
  | case4 low high r hlt =>
    refine ⟨⟨hk.head, hk.genesis, ?_, hk.cache⟩, ?_⟩
    · simpa using hlow
    · simp only [Option.mem_def, Option.some.injEq, forall_eq']
      rw [hlow] at hle
      rw [hhigh] at hgt
      have hbracket := chain.lt_of_epoch hle hgt
      refine ⟨hlow, by omega, hle, fun number hn hnh => lt_of_lt_of_le hgt ?_⟩
      have := chain.monotone (show high.number ≤ number by omega)
      simpa [Chain.evidence] using this

/-- The scan keeps a bracket of blocks of the chain around the target. -/
lemma scan_spec {blocks : List BlockEvidence} (hblocks : ∀ b ∈ blocks, b = chain.evidence b.number)
    (hlow : low = chain.evidence low.number) (hhigh : high = chain.evidence high.number)
    (hle : low.epochSeconds ≤ target) (hgt : target < high.epochSeconds) :
    (blocks.foldl (scan target) (low, high)).1 =
        chain.evidence (blocks.foldl (scan target) (low, high)).1.number ∧
      (blocks.foldl (scan target) (low, high)).2 =
        chain.evidence (blocks.foldl (scan target) (low, high)).2.number ∧
      target < (blocks.foldl (scan target) (low, high)).2.epochSeconds := by
  induction blocks generalizing low high with
  | nil => exact ⟨hlow, hhigh, hgt⟩
  | cons b blocks ih =>
    have hb := hblocks b List.mem_cons_self
    refine ih (fun b' hb' => hblocks b' (List.mem_cons_of_mem _ hb')) ?_ ?_ ?_ ?_
    · split
      · exact hb
      · exact hlow
    · split
      · exact hb
      · exact hhigh
    · split
      · rename_i h
        exact h.1
      · exact hle
    · split
      · rename_i h
        exact h.1
      · exact hgt

lemma pinHead_spec (hc : Consistent env chain) (hk : Knows chain r) :
    Knows chain (pinHead env r).2 ∧ (∀ head ∈ r.head, (pinHead env r).2.head = some head) ∧
      ∀ head ∈ (pinHead env r).1,
        head = chain.evidence head.number ∧ (pinHead env r).2.head = some head := by
  unfold pinHead
  split
  · rename_i head hh
    refine ⟨hk, by simp [hh], ?_⟩
    simp only [Option.mem_def, Option.some.injEq, forall_eq']
    exact ⟨hk.head head hh, hh⟩
  · rename_i hh
    have hk' : Knows chain { r with calls := r.calls ++ [.blockNumber] } :=
      ⟨hk.head, hk.genesis, hk.lastResolved, hk.cache⟩
    have hnone : ∀ head ∈ r.head, ∀ p : Prop, p := fun head hmem _ => by simp [hh] at hmem
    simp only
    split
    · exact ⟨hk', fun head hmem => hnone head hmem _, by simp⟩
    · split <;> rename_i hb
      · exact ⟨block_none hk' hb, fun head hmem => hnone head hmem _, by simp⟩
      · obtain ⟨hbe, hk''⟩ := block_spec hc hk' hb
        have hself := hbe
        rw [← block_number hb] at hself
        refine ⟨⟨?_, hk''.genesis, hk''.lastResolved, hk''.cache⟩,
          fun head hmem => hnone head hmem _, ?_⟩
        · simpa using hself
        · simpa using hself

lemma findGenesis_spec (hc : Consistent env chain) (hk : Knows chain r) :
    Knows chain (findGenesis env r).2 ∧
      ∀ genesis ∈ (findGenesis env r).1, genesis = chain.evidence 0 := by
  unfold findGenesis
  split
  · rename_i genesis hg
    exact ⟨hk, by simpa using hk.genesis genesis hg⟩
  · split <;> rename_i hb
    · exact ⟨block_none hk hb, by simp⟩
    · obtain ⟨hbe, hk'⟩ := block_spec hc hk hb
      exact ⟨⟨hk'.head, by simpa using hbe, hk'.lastResolved, hk'.cache⟩, by simpa using hbe⟩

lemma narrow_spec (hc : Consistent env chain) (hk : Knows chain r) {head : BlockEvidence}
    (hhead : head = chain.evidence head.number) (hgt : target < head.epochSeconds)
    (hge : (chain.timestamp 0 : ℤ) ≤ target) :
    Knows chain (narrow env target head (chain.evidence 0) r).2 ∧
      ∀ b ∈ (narrow env target head (chain.evidence 0) r).1,
        InForce chain target head.number b := by
  have hle : ((r.lastResolved.filter fun block => decide (block.epochSeconds ≤ target)).getD
      (chain.evidence 0)).epochSeconds ≤ target := start_le hge
  have hstart : ∀ b, b = (r.lastResolved.filter fun block =>
      decide (block.epochSeconds ≤ target)).getD (chain.evidence 0) →
      b = chain.evidence b.number := by
    rintro b rfl
    cases hlast : r.lastResolved.filter fun block => decide (block.epochSeconds ≤ target) with
    | none => rfl
    | some last => exact hk.lastResolved last (Option.filter_eq_some_iff.mp hlast).1
  have hvalues : ∀ b ∈ env.values r.calls.length r.cache, b = chain.evidence b.number :=
    fun b hb => hk.cache b ((env.values_perm _ _).subset hb)
  obtain ⟨hlow, hhigh, hgt'⟩ := scan_spec hvalues (hstart _ rfl) hhead hle hgt
  exact search_spec hc hk hlow hhigh (scan_le hle) hgt' scan_high_le

/-- What `at_or_before` does on a chain: it fails for the three reasons only, and what it finds
is the block in force under the pinned head. -/
structure Resolves (env : Env) (chain : Chain) (timestamp : String) (r : Resolver)
    (out : Outcome) : Prop where
  knows : Knows chain out.2
  pinned : ∀ head ∈ r.head, out.2.head = some head
  found : ∀ b ∈ out.1, ∃ target head, parseRfc3339Epoch timestamp = some target ∧
    out.2.head = some head ∧ InForce chain target head.number b
  fails : ∃ made, out.2.calls = r.calls ++ made ∧
    (out.1 = none ↔ parseRfc3339Epoch timestamp = none ∨
      (∃ target, parseRfc3339Epoch timestamp = some target ∧ target < chain.timestamp 0) ∨
      someFailed env r.calls.length made = true)

/-- Where the target does not precede the chain, only a call can be to blame. -/
lemma FailsByCall.fails {out : Outcome} {timestamp : String} (h : FailsByCall env r out)
    (hp : parseRfc3339Epoch timestamp = some target)
    (hor : out.1 = none ∨ (chain.timestamp 0 : ℤ) ≤ target) :
    ∃ made, out.2.calls = r.calls ++ made ∧
      (out.1 = none ↔ parseRfc3339Epoch timestamp = none ∨
        (∃ target, parseRfc3339Epoch timestamp = some target ∧ target < chain.timestamp 0) ∨
        someFailed env r.calls.length made = true) := by
  obtain ⟨made, hmade, hfail⟩ := h
  refine ⟨made, hmade, ?_⟩
  simp only [hp, reduceCtorEq, Option.some.injEq, exists_eq_left', false_or]
  rcases hor with hnone | hle
  · simp [hnone, hfail.mp hnone]
  · rw [hfail, or_iff_right (not_lt.mpr hle)]

lemma atOrBefore_resolves (hc : Consistent env chain) (hk : Knows chain r) (timestamp : String) :
    Resolves env chain timestamp r (atOrBefore env r timestamp) := by
  unfold atOrBefore
  split
  · rename_i hp
    exact ⟨hk, by simp, by simp, [], by simp, by simp [hp]⟩
  rename_i target hp
  obtain ⟨hk₁, hpin, hhead⟩ := pinHead_spec hc hk
  have hf₁ := pinHead_failsByCall env r
  split <;> rename_i heq <;> rw [heq] at hk₁ hpin hhead hf₁
  · exact ⟨hk₁, hpin, by simp, hf₁.fails hp (Or.inl rfl)⟩
  rename_i head r₁
  obtain ⟨hheadeq, hpinned⟩ := hhead head rfl
  have hfirst := chain.monotone (Nat.zero_le head.number)
  have hepoch : head.epochSeconds = chain.timestamp head.number := by rw [hheadeq]; rfl
  split
  · -- the head itself is in force
    rename_i hle
    refine ⟨⟨hk₁.head, hk₁.genesis, by simpa using hheadeq, hk₁.cache⟩, hpin, ?_,
      (hf₁.answered.then (Answered.of_eq rfl).failsByCall).fails hp (Or.inr (by omega))⟩
    simp only [Option.mem_def, Option.some.injEq, forall_eq']
    exact ⟨target, head, hp, hpinned, hheadeq, le_rfl, by omega, fun n h h' => by omega⟩
  rename_i hgt
  obtain ⟨hk₂, hgenesis⟩ := findGenesis_spec hc hk₁
  have hh₂ := (findGenesis_within env r₁).1
  have hf₂ := hf₁.answered.then (findGenesis_failsByCall env r₁)
  split <;> rename_i heq₂ <;> rw [heq₂] at hk₂ hh₂ hgenesis hf₂
  · exact ⟨hk₂, fun head' hmem => hh₂.trans (hpin head' hmem), by simp, hf₂.fails hp (Or.inl rfl)⟩
  rename_i genesis r₂
  obtain rfl := hgenesis genesis rfl
  split
  · -- before the first block
    rename_i hlt
    obtain ⟨made, hmade, -⟩ := hf₂
    refine ⟨hk₂, fun head' hmem => hh₂.trans (hpin head' hmem), by simp, made, hmade, ?_⟩
    simp only [true_iff]
    exact Or.inr (Or.inl ⟨target, hp, hlt⟩)
  · rename_i hge
    have hge := not_lt.mp hge
    obtain ⟨hk₃, hfound⟩ := narrow_spec hc hk₂ hheadeq (not_le.mp hgt) hge
    have hf₃ := hf₂.answered.then (narrow_failsByCall env target head (chain.evidence 0) r₂)
    have hkeep := (narrow_within env target head (chain.evidence 0) r₂).1.trans hh₂
    exact ⟨hk₃, fun head' hmem => hkeep.trans (hpin head' hmem),
      fun b hb => ⟨target, head, hp, hkeep.trans hpinned, hfound b hb⟩, hf₃.fails hp (Or.inr hge)⟩

/-! ### Sequences of calls -/

/-- A new resolver after it was asked for these times. -/
def after (env : Env) (timestamps : List String) : Resolver :=
  timestamps.foldl (fun r timestamp => (atOrBefore env r timestamp).2) {}

lemma knows_after (hc : Consistent env chain) (timestamps : List String) :
    Knows chain (after env timestamps) := by
  have hfold : ∀ r, Knows chain r → Knows chain
      (timestamps.foldl (fun r timestamp => (atOrBefore env r timestamp).2) r) := by
    induction timestamps with
    | nil => exact fun r hk => hk
    | cons timestamp timestamps ih =>
      exact fun r hk => ih _ (atOrBefore_resolves hc hk timestamp).knows
  exact hfold {} ⟨by simp, by simp, by simp, by simp⟩

lemma InForce.unique {head : ℕ} {b b' : BlockEvidence} (h : InForce chain target head b)
    (h' : InForce chain target head b') : b = b' := by
  have hn : b.number = b'.number := by
    rcases lt_trichotomy b.number b'.number with hlt | heq | hlt
    · exact absurd (h.2.2.2 _ hlt h'.2.1) (not_lt.mpr h'.2.2.1)
    · exact heq
    · exact absurd (h'.2.2.2 _ hlt h.2.1) (not_lt.mpr h.2.2.1)
  rw [h.1, h'.1, hn]

/-- **The resolver finds the block in force.** Let the provider answer for one chain, failing
where it likes. Whatever times were asked for before, in whatever order: what is found is the
highest block of the chain, not above the pinned head, whose timestamp is not after the target;
nothing is found exactly if the time does not parse, precedes the chain, or one of the calls
made for it failed; and two resolvers with one pinned head, whatever else they have seen and in
whatever order their maps are scanned, find the same block. Whatever the provider answers, the
search ends within as many calls as the pinned head has predecessors, and what it finds is not
after the target. -/
theorem finds_block_in_force :
    (∀ (chain : Chain) (env : Env), Consistent env chain →
      ∀ (earlier : List String) (timestamp : String),
        (∀ b ∈ (atOrBefore env (after env earlier) timestamp).1, ∃ target head,
          parseRfc3339Epoch timestamp = some target ∧
          (atOrBefore env (after env earlier) timestamp).2.head = some head ∧
          InForce chain target head.number b) ∧
        (∀ head ∈ (after env earlier).head,
          (atOrBefore env (after env earlier) timestamp).2.head = some head) ∧
        (∃ made, (atOrBefore env (after env earlier) timestamp).2.calls =
            (after env earlier).calls ++ made ∧
          ((atOrBefore env (after env earlier) timestamp).1 = none ↔
            parseRfc3339Epoch timestamp = none ∨
            (∃ target, parseRfc3339Epoch timestamp = some target ∧
              target < chain.timestamp 0) ∨
            someFailed env (after env earlier).calls.length made = true)) ∧
        (∀ (env' : Env), Consistent env' chain → ∀ (earlier' : List String) (b b' : BlockEvidence),
          b ∈ (atOrBefore env (after env earlier) timestamp).1 →
          b' ∈ (atOrBefore env' (after env' earlier') timestamp).1 →
          (atOrBefore env (after env earlier) timestamp).2.head =
            (atOrBefore env' (after env' earlier') timestamp).2.head → b = b')) ∧
      (∀ (env : Env) (r : Resolver) (timestamp : String),
        (∃ made, (atOrBefore env r timestamp).2.calls = r.calls ++ made ∧
          made.length ≤ 3 + (atOrBefore env r timestamp).2.head.elim 0 BlockEvidence.number) ∧
        ∀ b ∈ (atOrBefore env r timestamp).1, ∃ target,
          parseRfc3339Epoch timestamp = some target ∧ b.epochSeconds ≤ target) := by
  refine ⟨fun chain env hc earlier timestamp => ?_, fun env r timestamp =>
    ⟨atOrBefore_calls env r timestamp, fun b hb => ?_⟩⟩
  · have h := atOrBefore_resolves hc (knows_after hc earlier) timestamp
    refine ⟨h.found, h.pinned, h.fails, fun env' hc' earlier' b b' hb hb' hhead => ?_⟩
    have h' := atOrBefore_resolves hc' (knows_after hc' earlier') timestamp
    obtain ⟨target, head, hp, hpin, hforce⟩ := h.found b hb
    obtain ⟨target', head', hp', hpin', hforce'⟩ := h'.found b' hb'
    obtain rfl : target = target' := Option.some.inj (hp.symm.trans hp')
    obtain rfl : head = head' := Option.some.inj (hpin.symm.trans (hhead.trans hpin'))
    exact hforce.unique hforce'
  · exact atOrBefore_le (Prod.ext hb rfl)

/-- A chain whose blocks after the first all have one timestamp. -/
def twoTimes : Chain where
  timestamp number := if number = 0 then 16 else 32
  hash _ := "0xaa"
  monotone a b hab := by
    simp only
    split <;> split <;> omega
  inRange number := by
    split <;> omega

/-- A provider of that chain that never fails. -/
def twoTimesEnv : Env where
  archiveRpc _
    | .blockNumber => some { asStr := some "0x3" }
    | .getBlockByNumber number =>
      some { timestamp := some (if number = 0 then "0x10" else "0x20"), hash := some "0xaa" }
  values _ cache := cache.reverse
  values_perm _ cache := cache.reverse_perm

/-- The first block is found after a later time was asked for. -/
theorem finds_block_in_force_first :
    (atOrBefore twoTimesEnv (after twoTimesEnv ["1970-01-01T00:00:40Z"])
      "1970-01-01T00:00:20Z").1 = some (twoTimes.evidence 0) := by
  have h10 : parseHex (some "0x10") = some 16 := by decide
  have h20 : parseHex (some "0x20") = some 32 := by decide
  have haa : (some "0xaa").filter (fun hash => decide (hash.toList.take 2 = ['0', 'x'])) =
      some "0xaa" := by decide
  have hc : Consistent twoTimesEnv twoTimes := by
    refine ⟨?_, ?_⟩
    · rintro n number value raw ⟨⟩ hraw
      by_cases h : number = 0 <;> simp_all [twoTimes]
    · rintro n number value hash ⟨⟩ ⟨⟩
      rfl
  have hparse : parseRfc3339Epoch "1970-01-01T00:00:20Z" = some 20 := by decide
  have husable : ∀ n made, someFailed twoTimesEnv n made = false := by
    intro n made
    induction made generalizing n with
    | nil => rfl
    | cons call made ih =>
      rw [someFailed, ih, Bool.or_false]
      cases call with
      | blockNumber => rfl
      | getBlockByNumber number =>
        by_cases h : number = 0 <;> simp [usable, readBlock, twoTimesEnv, h, h10, h20, haa]
  obtain ⟨hrun, -⟩ := finds_block_in_force
  obtain ⟨hfound, -, ⟨made, -, hfail⟩, -⟩ := hrun twoTimes twoTimesEnv hc
    ["1970-01-01T00:00:40Z"] "1970-01-01T00:00:20Z"
  cases hout : (atOrBefore twoTimesEnv (after twoTimesEnv ["1970-01-01T00:00:40Z"])
      "1970-01-01T00:00:20Z").1 with
  | none =>
    have := hfail.mp hout
    simp [hparse, husable, twoTimes] at this
  | some b =>
    obtain ⟨target, head, hp, -, hb, -, hle, -⟩ := hfound b hout
    rw [hparse, Option.some.injEq] at hp
    subst hp
    have hnumber : b.number = 0 := by
      by_contra hne
      simp [twoTimes, hne] at hle
    rw [hb, hnumber]

end MotherApi.BlockResolver
