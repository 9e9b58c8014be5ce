import MotherApi.WorkspaceMembers
import MotherApi.BalanceCommand

/-!
Capturing a treasury snapshot: one balance command for all members of a workspace.

The number of members is limited where they are added, the number of assets where the form is
read, and the size of a command where it is built. The limits are those of three modules.
-/

namespace MotherApi.TreasurySnapshots

open MotherApi.Lib.Runs MotherApi.Lib.Transactions MotherApi.Strings MotherApi.Workspaces
open MotherApi.WorkspaceCommits MotherApi.WorkspaceMembers MotherApi.BalanceCommand

/-- What is read of the form to build the command. -/
structure TreasuryForm where
  assetSlugs : String
  quoteCurrency : Option String

def splitValues (value : Option String) : List String :=
  (((value.getD "").toList.splitOn ',').map fun part => trim (String.ofList part)).filter (· != "")

/-- Every refusal is answered with the same page. -/
inductive SnapshotRefusal
  | assetSlugs
  | noMembers
  | command (error : GetBalancesCommandError)
  deriving DecidableEq

def memberAccount (member : MemberAddress) : OnchainAccount :=
  ⟨member.networkSlug, member.address, member.clientRef⟩

/-- The command of `capture_treasury_snapshot`. -/
def snapshotCommand (asOf : AsOf) (form : TreasuryForm) (members : List MemberAddress) :
    Except SnapshotRefusal GetBalancesCommand :=
  let assetSlugs := splitValues (some form.assetSlugs)
  if assetSlugs = [] ∨ assetSlugs.length > 10 then .error .assetSlugs
  else if members = [] then .error .noMembers
  else
    match tryNew asOf (members.map memberAccount) (form.quoteCurrency.getD "USD")
        ⟨assetSlugs, []⟩ with
    | .ok command => .ok command
    | .error error => .error (.command error)

section

variable {lower : String → String} {choices : List (Choice Session)} {s : State Db Session Key}
  {members : List MemberAddress}

lemma nodup_identity (h : Orderly s.db) (hmembers : members.Perm s.db.members) :
    ((members.map memberAccount).map identity).Nodup := by
  have hidentity : (members.map memberAccount).map identity =
      members.map fun member => (member.networkSlug, member.address) := by
    rw [List.map_map]
    refine List.map_congr_left fun member hmember => ?_
    have hlower := (h.valid member (hmembers.mem_iff.mp hmember)).2
    simp only [Function.comp_apply, identity, memberAccount, hlower]
  rw [hidentity]
  exact (hmembers.map _).nodup_iff.mpr h.distinct

/-- **What can be captured**: of the workspaces that can be reached, those with as many members as
a command takes accounts. -/
theorem snapshotCommand_ok_iff (h : After lower choices s) (hmembers : members.Perm s.db.members)
    (hnonempty : members ≠ []) (asOf : AsOf) (form : TreasuryForm)
    (hsome : splitValues (some form.assetSlugs) ≠ [])
    (hten : (splitValues (some form.assetSlugs)).length ≤ 10)
    (hdistinct : (splitValues (some form.assetSlugs)).Nodup)
    (hcurrency : toAsciiUppercase (trim (form.quoteCurrency.getD "USD")) ∈ QUOTE_CURRENCIES) :
    (∃ command, snapshotCommand asOf form members = .ok command) ↔ members.length ≤ 50 := by
  have horderly := orderly_of_sound (inv_of_after h).db
  unfold snapshotCommand
  simp only
  rw [if_neg (by simp [hsome, hten]), if_neg hnonempty]
  constructor
  · rintro ⟨command, hcommand⟩
    split at hcommand
    · rename_i command' htryNew
      have hsize := command'.accountsSize
      rw [(tryNew_ok htryNew).2.1, List.length_map] at hsize
      exact hsize
    · cases hcommand
  · intro hsize
    have hvalid : ∀ account ∈ members.map memberAccount, isEvmAddress account.address = true := by
      intro account haccount
      obtain ⟨member, hmember, rfl⟩ := List.mem_map.mp haccount
      exact (horderly.valid member (hmembers.mem_iff.mp hmember)).1
    have hsize' : (members.map memberAccount).length ≤ MAX_ACCOUNTS := by
      rw [List.length_map]
      exact hsize
    obtain ⟨command, hcommand⟩ : ∃ command, tryNew asOf (members.map memberAccount)
        (form.quoteCurrency.getD "USD") ⟨splitValues (some form.assetSlugs), []⟩ = .ok command :=
      exists_tryNew (by simpa using hnonempty) hsize' hsome (le_trans hten (by decide)) hcurrency
        hvalid (nodup_identity horderly hmembers) hdistinct
    exact ⟨command, by rw [hcommand]⟩

end

/-! ### Workspaces of every size -/

section

variable {lower : String → String} {clock : ℕ} {db : Db}

variable (lower clock) in
lemma alone_create : alone (protocol lower) clock 4 noWorkspace ⟨.create "Treasury" none, "created",
    .arrived⟩ = some (commitWrite lower (.create ⟨"Treasury", none, .active⟩)
      (some ⟨"created", clock, .created "Treasury" none⟩) noWorkspace) := by
  have hname : normalizeRequired "Treasury" 120 = some "Treasury" := by decide +kernel
  have hdescription : normalizeOptional none 1000 = some none := by decide +kernel
  simp [alone, protocol, Session.next, Session.prepare, Session.firstStatement, Session.enter,
    hname, hdescription, noWorkspace, Db.hasEvent, Write.payload]

variable (lower clock) in
lemma alone_addMember (eventId : String) {networkSlug address memberId : String}
    {clientRef : Option String} {member : MemberAddress} (hactive : db.status = some .active)
    (hrow : memberRow networkSlug address clientRef memberId = some member)
    (haddress : db.hasAddress member.networkSlug member.address = false)
    (hlimit : db.members.length < MAX_WORKSPACE_ADDRESSES)
    (hid : db.hasMember member.publicId = false) (hevent : db.hasEvent eventId = false) :
    alone (protocol lower) clock 9 db
        ⟨.addMember networkSlug address clientRef memberId, eventId, .arrived⟩ =
      some (commitWrite lower (.addMember member)
        (some ⟨eventId, clock, .memberAdded member⟩) db) := by
  have hworkspace : db.workspace.isSome = true := by
    unfold Db.status at hactive
    cases hdb : db.workspace with
    | none => simp [hdb] at hactive
    | some workspace => rfl
  simp [alone, protocol, Session.next, Session.prepare, Session.check, Session.firstStatement,
    Session.enter, hactive, hrow, haddress, Nat.not_le.mpr hlimit, hid, hevent, Write.payload]

end

def digit (n : ℕ) : Char := Char.ofNat (48 + n)

def nthId (n : ℕ) : String := String.ofList [digit (n / 10), digit (n % 10)]

def nthAddress (n : ℕ) : String :=
  String.ofList ('0' :: 'x' :: digit (n / 10) :: digit (n % 10) :: List.replicate 38 'a')

def nthMember (n : ℕ) : MemberAddress := ⟨nthId n, "eth-mainnet", nthAddress n, none⟩

lemma digit_inj : ∀ m < 10, ∀ n < 10, digit m = digit n → m = n := by
  decide +kernel

lemma eq_of_digits {m n : ℕ} (hm : m < 100) (hn : n < 100) (htens : digit (m / 10) = digit (n / 10))
    (hones : digit (m % 10) = digit (n % 10)) : m = n := by
  have := digit_inj _ (by omega) _ (by omega) htens
  have := digit_inj _ (by omega) _ (by omega) hones
  omega

lemma nthId_inj {m n : ℕ} (hm : m < 100) (hn : n < 100) (h : nthId m = nthId n) : m = n := by
  have hlist := congrArg String.toList h
  simp only [nthId, String.toList_ofList, List.cons.injEq, and_true] at hlist
  exact eq_of_digits hm hn hlist.1 hlist.2

lemma nthAddress_inj {m n : ℕ} (hm : m < 100) (hn : n < 100) (h : nthAddress m = nthAddress n) :
    m = n := by
  have hlist := congrArg String.toList h
  simp only [nthAddress, String.toList_ofList, List.cons.injEq, true_and, and_true] at hlist
  exact eq_of_digits hm hn hlist.1 hlist.2

lemma memberRow_nth {n : ℕ} (hn : n < 100) :
    memberRow "eth-mainnet" (nthAddress n) none (nthId n) = some (nthMember n) := by
  have hdigit : ∀ d < 10, isWhitespace (digit d) = false ∧ (digit d).toLower = digit d ∧
      isAsciiHexdigit (digit d) = true := by
    decide +kernel
  have htens := hdigit (n / 10) (by omega)
  have hones := hdigit (n % 10) (by omega)
  have htrim : trim (nthAddress n) = nthAddress n := by
    refine trim_of_no_whitespace fun c hc => ?_
    simp only [nthAddress, String.toList_ofList, List.mem_cons, List.mem_replicate] at hc
    rcases hc with rfl | rfl | rfl | rfl | ⟨-, rfl⟩
    · decide
    · decide
    · exact htens.1
    · exact hones.1
    · decide
  have hlower : toAsciiLowercase (nthAddress n) = nthAddress n := by
    simp only [toAsciiLowercase, nthAddress, String.toList_ofList, List.map_cons,
      List.map_replicate, htens.2.1, hones.2.1]
    rfl
  have hvalid : isEvmAddress (nthAddress n) = true := by
    simp [isEvmAddress, nthAddress, htens.2.2, hones.2.2]
    decide
  have hnetwork : "eth-mainnet" ∈ BALANCE_NETWORKS := by decide
  have hclientRef : normalizeOptional none 120 = some none := by decide +kernel
  simp [memberRow, htrim, hlower, hvalid, hnetwork, hclientRef, nthMember]

/-- The workspace has the first so many of the members. -/
structure Populated (n : ℕ) (db : Db) : Prop where
  active : db.status = some .active
  members : db.members = (List.range n).map nthMember
  events : db.events.map (·.publicId) = "created" :: (List.range n).map nthId

lemma populated_succ {lower : String → String} {n : ℕ} {db : Db} (h : Populated n db) :
    Populated (n + 1) (commitWrite lower (.addMember (nthMember n))
      (some ⟨nthId n, 0, .memberAdded (nthMember n)⟩) db) := by
  refine ⟨h.active, ?_, ?_⟩
  · simp [commitWrite, Write.apply, h.members, List.range_succ]
  · simp [commitWrite, Write.apply, h.events, List.range_succ]

/-- **Every size is reached**, up to the limit of the members. -/
theorem exists_populated (lower : String → String) {n : ℕ} (hn : n ≤ 100) :
    ∃ choices s, After lower choices s ∧ Idle s ∧ s.clock = 0 ∧ Populated n s.db := by
  induction n with
  | zero =>
    obtain ⟨choices, s, hrun, hidle, hdb, hclock⟩ := exists_run_alone
      (s := start noWorkspace 0) ⟨fun _ => rfl, fun _ => rfl⟩ rfl (alone_create lower 0)
    exact ⟨choices, s, hrun, hidle, hclock, hdb ▸ ⟨rfl, rfl, rfl⟩⟩
  | succ n ih =>
    obtain ⟨choices, s, hrun, hidle, hclock, hpopulated⟩ := ih (by omega)
    have halone := alone_addMember lower 0 (nthId n)
      hpopulated.active (memberRow_nth (n := n) (by omega)) ?_ ?_ ?_ ?_
    · rw [← hclock] at halone
      obtain ⟨choices', t, hrun', hidle', hdb, hclock'⟩ := exists_run_alone hidle rfl halone
      refine ⟨choices ++ choices', t, ?_, hidle', hclock'.trans hclock, ?_⟩
      · rw [After, run_append, hrun]
        exact hrun'
      · rw [hdb, hclock]
        exact populated_succ hpopulated
    · simp only [Db.hasAddress, hpopulated.members, List.any_eq_false, List.mem_map, List.mem_range,
        Bool.and_eq_true, beq_iff_eq, not_and, forall_exists_index, and_imp]
      rintro _ m hm rfl - haddress
      have := nthAddress_inj (m := m) (n := n) (by omega) (by omega) haddress
      omega
    · simp only [hpopulated.members, List.length_map, List.length_range, MAX_WORKSPACE_ADDRESSES]
      omega
    · simp only [Db.hasMember, hpopulated.members, List.any_eq_false, List.mem_map, List.mem_range,
        beq_iff_eq, forall_exists_index, and_imp]
      rintro _ m hm rfl hid
      have := nthId_inj (m := m) (n := n) (by omega) (by omega) hid
      omega
    · have hmem : nthId n ∉ s.db.events.map (·.publicId) := by
        rw [hpopulated.events]
        simp only [List.mem_cons, List.mem_map, List.mem_range, not_or, not_exists, not_and]
        refine ⟨fun hid => ?_, fun m hm hid => ?_⟩
        · have := congrArg (fun id => id.toList.length) hid
          simp [nthId] at this
        · have := nthId_inj (m := m) (n := n) (by omega) (by omega) hid
          omega
      simp only [Db.hasEvent, List.any_eq_false, beq_iff_eq]
      exact fun event hevent hid => hmem (hid ▸ List.mem_map_of_mem hevent)

def sampleForm : TreasuryForm := ⟨"usdc, weth", none⟩

lemma splitValues_sampleForm : splitValues (some sampleForm.assetSlugs) = ["usdc", "weth"] := by
  decide +kernel

lemma sampleForm_currency :
    toAsciiUppercase (trim (sampleForm.quoteCurrency.getD "USD")) ∈ QUOTE_CURRENCIES := by
  decide +kernel

/-- A workspace with fifty members is captured. -/
theorem snapshotCommand_ok_iff_fifty : ∃ choices s, After toAsciiLowercase choices s ∧
    s.db.members.length = 50 ∧
    ∃ command, snapshotCommand .latest sampleForm s.db.members = .ok command := by
  obtain ⟨choices, s, hafter, -, -, hpopulated⟩ :=
    exists_populated toAsciiLowercase (n := 50) (by decide)
  have hlength : s.db.members.length = 50 := by simp [hpopulated.members]
  have hslugs := splitValues_sampleForm
  refine ⟨choices, s, hafter, hlength, ?_⟩
  refine (snapshotCommand_ok_iff hafter (List.Perm.refl _) ?_ .latest sampleForm ?_ ?_ ?_
    sampleForm_currency).mpr (by omega)
  · exact List.ne_nil_of_length_eq_add_one hlength
  all_goals rw [hslugs]; decide

/-- **Fifty-one members**: a workspace that can be reached, within every limit of the members and
the assets, is refused. -/
theorem fiftyOne_members_refused : ∃ choices s, After toAsciiLowercase choices s ∧
    s.db.members.length = 51 ∧ s.db.members.length ≤ MAX_WORKSPACE_ADDRESSES ∧
    splitValues (some sampleForm.assetSlugs) = ["usdc", "weth"] ∧
    snapshotCommand .latest sampleForm s.db.members = .error (.command .requestTooLarge) := by
  obtain ⟨choices, s, hafter, -, -, hpopulated⟩ :=
    exists_populated toAsciiLowercase (n := 51) (by decide)
  have hlength : s.db.members.length = 51 := by simp [hpopulated.members]
  have hnonempty : s.db.members ≠ [] := List.ne_nil_of_length_eq_add_one hlength
  refine ⟨choices, s, hafter, hlength, by simp [hlength, MAX_WORKSPACE_ADDRESSES],
    splitValues_sampleForm, ?_⟩
  simp [snapshotCommand, splitValues_sampleForm, hnonempty, tryNew, hlength, MAX_ACCOUNTS]

end MotherApi.TreasurySnapshots
