import MotherApi.WorkspaceCommits

/-!
The members of a workspace, under requests that run side by side.

Whoever adds a member holds the row of the workspace from before it looks until it commits.
Archiving and restoring take the same row. So the limit, the distinctness and the log of the
members are those of requests one after the other.
-/

namespace MotherApi.WorkspaceMembers

open MotherApi.Lib.Runs MotherApi.Lib.Transactions MotherApi.Strings MotherApi.Workspaces
open MotherApi.WorkspaceCommits

/-- The event adds the member with the public id. -/
def carries (publicId : String) (event : ActivityEvent) : Bool :=
  (addedMember event).any (·.publicId == publicId)

/-- What is promised of the members. -/
structure Orderly (db : Db) : Prop where
  size : db.members.length ≤ 100
  distinct : (db.members.map fun member => (member.networkSlug, member.address)).Nodup
  supported : ∀ member ∈ db.members, member.networkSlug ∈ ["eth-mainnet", "base-mainnet"]
  valid : ∀ member ∈ db.members, isEvmAddress member.address = true ∧
    toAsciiLowercase member.address = member.address
  logged : ∀ member ∈ db.members, db.events.countP (carries member.publicId) = 1 ∧
    ∃ event ∈ db.events, event.payload = .memberAdded member

/-- What an `add_member` that is about to commit reports. -/
def report (session : Session) : Option AddMemberOutcome :=
  match session.phase with
  | .logged (.addMember _) _ => some .added
  | .unchanged (.member outcome) => some outcome
  | _ => none

variable {lower : String → String}

lemma orderly_of_sound {db : Db} (h : Sound lower db) : Orderly db := by
  refine ⟨h.size, h.addresses, fun member hmember => (h.valid member hmember).network,
    fun member hmember =>
      ⟨(h.valid member hmember).address, (h.valid member hmember).lowercase⟩, ?_⟩
  intro member hmember
  constructor
  · -- the events that add a member are the members, and their public ids are distinct
    have hcount : db.members.countP (·.publicId == member.publicId) = 1 := by
      have hids := h.memberIds
      have hone := List.count_eq_one_of_mem hids (List.mem_map_of_mem (f := (·.publicId)) hmember)
      rwa [List.count_eq_countP, List.countP_map] at hone
    rw [← h.added, List.countP_filterMap] at hcount
    exact hcount ▸ List.countP_congr fun event _ => by
      cases haddedMember : addedMember event <;> simp [carries, haddedMember]
  · rw [← h.added] at hmember
    obtain ⟨event, hevent, hadded⟩ := List.mem_filterMap.mp hmember
    refine ⟨event, hevent, ?_⟩
    unfold addedMember at hadded
    split at hadded
    · rename_i hpayload
      rw [hpayload, Option.some.inj hadded]
    · cases hadded

/-- A commit adds a member to an active workspace under its row, or it leaves the members. -/
lemma members_of_commits {db db' : Db} {write : Write} {event : ActivityEvent}
    (h : Commits lower db write event db') : db'.members = db.members ∨
      rowOf lower write = .workspace ∧ db.status = some .active := by
  rw [h.result, commitWrite_members]
  cases write with
  | addMember member => exact .inr ⟨rfl, h.guard.1⟩
  | _ => exact .inl rfl

lemma status_of_commits {db db' : Db} {write : Write} {event : ActivityEvent}
    (h : Commits lower db write event db') (hrow : rowOf lower write ≠ .workspace) :
    db'.status = db.status ∧ db'.members = db.members := by
  rw [h.result, Db.status, Db.status, commitWrite_workspace, commitWrite_members]
  cases write with
  | addLabel | removeLabel => exact ⟨rfl, rfl⟩
  | _ => exact absurd rfl hrow

section

variable {choices : List (Choice Session)} {s : State Db Session Key}

/-- **Membership is safe**: after every run the members are orderly; an `add_member` that does not
report `added` changes nothing; members are added only under the row of an active workspace, and
while a request holds that row no other changes the status or the members. -/
theorem members_orderly (h : After lower choices s) : Orderly s.db ∧
    (∀ session req outcome s', s.sessions session = some req → report req = some outcome →
      outcome ≠ .added → step (protocol lower) s (.advance session) = some s' →
        s'.db.members = s.db.members ∧ s'.db.events = s.db.events) ∧
    (∀ c s', step (protocol lower) s c = some s' → s'.db.members ≠ s.db.members →
      ∃ session, c = .advance session ∧ s.holds session .workspace ∧
        s.db.status = some .active) ∧
    ∀ session, s.holds session .workspace → ∀ c s', c ≠ .advance session →
      step (protocol lower) s c = some s' →
        s'.db.status = s.db.status ∧ s'.db.members = s.db.members := by
  have hinv := inv_of_after h
  refine ⟨orderly_of_sound hinv.db, ?_, ?_, ?_⟩
  · intro session req outcome s' hreq hreport hne hstep
    rcases step_commits hinv hstep with hsame | ⟨_, req', write, event, heq, hreq', hphase, -, -⟩
    · rw [hsame]
      exact ⟨rfl, rfl⟩
    · cases heq
      obtain rfl : req = req' := Option.some.inj (hreq.symm.trans hreq')
      cases write <;> simp [report, hphase] at hreport
      exact absurd hreport.symm hne
  · intro c s' hstep hchanged
    rcases step_commits hinv hstep with hsame |
      ⟨session, -, write, event, rfl, -, -, hholds, hcommits⟩
    · rw [hsame] at hchanged
      exact absurd rfl hchanged
    · rcases members_of_commits hcommits with hsame | ⟨hrow, hactive⟩
      · exact absurd hsame hchanged
      · exact ⟨session, rfl, hrow ▸ hholds, hactive⟩
  · intro session hsession c s' hne hstep
    rcases step_commits hinv hstep with hsame |
      ⟨other, -, write, event, rfl, -, -, hholds, hcommits⟩
    · rw [hsame]
      exact ⟨rfl, rfl⟩
    · refine status_of_commits hcommits fun hrow => hne ?_
      have hother : s.holds other .workspace := hrow ▸ hholds
      rw [holds_unique hother hsession]

end

/-- A workspace is created, and it is archived while a member is added: the request that archives
it begins before the member is there, and waits for the row. -/
def addThenArchive : List (Choice Session) := List.flatten
  [[arrival 0 (.create "Treasury" none) "e0"], advances 0 4,
    [arrival 1
        (.addMember "eth-mainnet" "0xAA11111111111111111111111111111111111111" none "m1") "e1",
      arrival 2 (.setArchived true) "e2"],
    advances 1 3, advances 2 1, advances 1 6, advances 2 3]

lemma addThenArchive_db :
    (run (step (protocol toAsciiLowercase)) (start noWorkspace 0) addThenArchive).map
      (fun s => (s.db.members.map (·.publicId), s.db.status)) = some (["m1"], some .archived) := by
  decide +kernel

theorem members_orderly_archive : ∃ s, After toAsciiLowercase addThenArchive s ∧
    s.db.members.map (·.publicId) = ["m1"] ∧ s.db.status = some .archived ∧ Orderly s.db := by
  obtain ⟨s, hrun, hdb⟩ := Option.map_eq_some_iff.mp addThenArchive_db
  rw [Prod.mk.injEq] at hdb
  exact ⟨s, hrun, hdb.1, hdb.2, (members_orderly hrun).1⟩

end MotherApi.WorkspaceMembers
