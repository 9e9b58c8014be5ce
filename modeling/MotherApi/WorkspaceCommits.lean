import MotherApi.Lib.Distinct
import MotherApi.Workspaces

/-!
A workspace as its commits change it.

Seen from the committed data, a request happens at once: what it found when it took its row
still holds when it commits, since whoever could change it has to take the row as well. So each
commit is one write whose guard holds at that moment, with one event for it.
-/

namespace MotherApi.WorkspaceCommits

open MotherApi.Lib.Distinct MotherApi.Lib.Runs MotherApi.Lib.Transactions MotherApi.Strings
open MotherApi.Workspaces

structure ValidMember (member : MemberAddress) : Prop where
  network : member.networkSlug ∈ BALANCE_NETWORKS
  address : isEvmAddress member.address = true
  lowercase : toAsciiLowercase member.address = member.address

lemma memberRow_valid {networkSlug address publicId : String} {clientRef : Option String}
    {member : MemberAddress} (h : memberRow networkSlug address clientRef publicId = some member) :
    ValidMember member := by
  unfold memberRow at h
  simp only at h
  split at h
  · cases h
  rename_i hnetwork
  split at h
  · cases h
  rename_i haddress
  obtain ⟨clientRef, -, h⟩ := Option.bind_eq_some_iff.mp h
  simp only [Option.pure_def, Option.some.injEq] at h
  subst h
  exact ⟨not_not.mp hnetwork, not_not.mp haddress, toAsciiLowercase_idem _⟩

/-- The member that an event adds. -/
def addedMember (event : ActivityEvent) : Option MemberAddress :=
  match event.payload with
  | .memberAdded member => some member
  | _ => none

section

variable (lower : String → String)

/-- What a write finds when it commits. -/
def Guard (db : Db) : Write → Prop
  | .create workspace => db.workspace = none ∧ workspace.status = .active
  | .rename _ => db.status = some .active
  | .setStatus status => ∃ current, db.status = some current ∧ current ≠ status
  | .addMember member => db.status = some .active ∧ ValidMember member ∧
    db.hasAddress member.networkSlug member.address = false ∧
    db.members.length < MAX_WORKSPACE_ADDRESSES ∧ db.hasMember member.publicId = false
  | .addLabel memberId label => db.folded lower memberId label = []
  | .removeLabel memberId label => db.folded lower memberId label ≠ []

/-- The row that keeps others from changing what a write relies on. -/
def rowOf : Write → Key
  | .create _ | .rename _ | .setStatus _ | .addMember _ => .workspace
  | .addLabel memberId label | .removeLabel memberId label => .label memberId (lower label)

/-- What holds of the committed data. -/
structure Sound (db : Db) : Prop where
  labels : (db.labels.map fun row => (row.memberId, lower row.label)).Nodup
  eventIds : (db.events.map (·.publicId)).Nodup
  size : db.members.length ≤ MAX_WORKSPACE_ADDRESSES
  addresses : (db.members.map fun member => (member.networkSlug, member.address)).Nodup
  memberIds : (db.members.map (·.publicId)).Nodup
  valid : ∀ member ∈ db.members, ValidMember member
  added : db.events.filterMap addedMember = db.members

/-- A write that has been made under the row that it relies on. -/
def Holding (db : Db) (held : Key → Prop) (write : Write) : Prop :=
  held (rowOf lower write) ∧ Guard lower db write

/-- A write together with the event that was appended for it. -/
structure Logged (db : Db) (held : Key → Prop) (write : Write) (event : ActivityEvent) : Prop where
  holding : Holding lower db held write
  payload : event.payload = write.payload
  entry : held (.event event.publicId)
  isNew : db.hasEvent event.publicId = false

/-- What a request relies on in its phase. -/
def Ready (db : Db) (held : Key → Prop) (session : Session) : Prop :=
  match session.phase with
  | .locked _ member => held .workspace ∧ db.status = some .active ∧ ValidMember member
  | .absent _ member => held .workspace ∧ db.status = some .active ∧ ValidMember member ∧
    db.hasAddress member.networkSlug member.address = false
  | .counted _ member => held .workspace ∧ db.status = some .active ∧ ValidMember member ∧
    db.hasAddress member.networkSlug member.address = false ∧
    db.members.length < MAX_WORKSPACE_ADDRESSES
  | .identified _ member => Holding lower db held (.addMember member)
  | .wrote _ write => Holding lower db held write
  | .logged write (some event) => Logged lower db held write event
  | .logged _ none => False
  | _ => True

end

variable {lower : String → String}

/-- One write with its event, where the write finds what it relies on. -/
structure Commits (lower : String → String) (db : Db) (write : Write) (event : ActivityEvent)
    (db' : Db) : Prop where
  guard : Guard lower db write
  payload : event.payload = write.payload
  isNew : db.hasEvent event.publicId = false
  result : db' = commitWrite lower write (some event) db

lemma Logged.commits {db : Db} {held : Key → Prop} {write : Write} {event : ActivityEvent}
    (h : Logged lower db held write event) :
    Commits lower db write event (commitWrite lower write (some event) db) :=
  ⟨h.holding.2, h.payload, h.isNew, rfl⟩

/-! ### Commits and the others -/

lemma folded_apply_addLabel {db : Db} {memberId label otherId other : String}
    (hne : ¬(otherId = memberId ∧ lower other = lower label)) :
    ((Write.addLabel otherId other).apply lower db).folded lower memberId label =
      db.folded lower memberId label := by
  rw [Db.folded, Write.apply, List.filter_append]
  simp only [List.filter_cons, List.filter_nil]
  rw [if_neg (by simpa using hne), List.append_nil]
  rfl

lemma folded_apply_removeLabel {db : Db} {memberId label otherId other : String}
    (hne : ¬(otherId = memberId ∧ lower other = lower label)) :
    ((Write.removeLabel otherId other).apply lower db).folded lower memberId label =
      db.folded lower memberId label := by
  rw [Db.folded, Write.apply, List.filter_filter, Db.folded]
  refine List.filter_congr fun row _ => ?_
  by_cases hrow : row.memberId = memberId ∧ lower row.label = lower label
  · have hother : (row.memberId == otherId && lower row.label == lower other) = false := by
      rw [hrow.1, hrow.2, Bool.and_eq_false_imp]
      intro hid
      exact beq_false_of_ne fun hlabel => hne ⟨(eq_of_beq hid).symm, hlabel.symm⟩
    rw [hother, Bool.not_false, Bool.and_true]
  · have hrow : (row.memberId == memberId && lower row.label == lower label) = false := by
      simpa using hrow
    rw [hrow, Bool.false_and]

lemma guard_apply {db : Db} {write other : Write} (h : Guard lower db write)
    (hne : rowOf lower other ≠ rowOf lower write) : Guard lower (other.apply lower db) write := by
  cases other with
  | addLabel otherId label =>
    cases write with
    | addLabel | removeLabel =>
      have hkey : ¬_ := fun hkey => hne (by simpa [rowOf] using hkey)
      rw [Guard, folded_apply_addLabel hkey]
      exact h
    | _ => exact h
  | removeLabel otherId label =>
    cases write with
    | addLabel | removeLabel =>
      have hkey : ¬_ := fun hkey => hne (by simpa [rowOf] using hkey)
      rw [Guard, folded_apply_removeLabel hkey]
      exact h
    | _ => exact h
  | _ =>
    cases write with
    | addLabel | removeLabel => exact h
    | _ => exact absurd rfl hne

@[simp] lemma commitWrite_workspace (write : Write) (event : Option ActivityEvent) (db : Db) :
    (commitWrite lower write event db).workspace = (write.apply lower db).workspace := rfl

@[simp] lemma commitWrite_members (write : Write) (event : Option ActivityEvent) (db : Db) :
    (commitWrite lower write event db).members = (write.apply lower db).members := rfl

@[simp] lemma commitWrite_labels (write : Write) (event : Option ActivityEvent) (db : Db) :
    (commitWrite lower write event db).labels = (write.apply lower db).labels := rfl

@[simp] lemma commitWrite_events (write : Write) (event : Option ActivityEvent) (db : Db) :
    (commitWrite lower write event db).events = db.events ++ event.toList := by
  cases write <;> rfl

lemma guard_commitWrite {db : Db} {write other : Write} {event : Option ActivityEvent}
    (h : Guard lower db write) (hne : rowOf lower other ≠ rowOf lower write) :
    Guard lower (commitWrite lower other event db) write := by
  have := guard_apply h hne
  cases write <;> exact this

/-- What others rely on is left by a write under a row that they do not hold. -/
lemma ready_commitWrite {db : Db} {held held' : Key → Prop} {session : Session} {write : Write}
    {event : ActivityEvent} (h : Ready lower db held session)
    (hlogged : Logged lower db held' write event)
    (hdisjoint : ∀ key, held key → ¬held' key) :
    Ready lower (commitWrite lower write (some event) db) held session := by
  have hrow {other : Write} (hholding : Holding lower db held other) :
      Holding lower (commitWrite lower write (some event) db) held other := by
    refine ⟨hholding.1, guard_commitWrite hholding.2 ?_⟩
    intro heq
    exact hdisjoint _ hholding.1 (heq ▸ hlogged.holding.1)
  -- whoever holds the row of the workspace finds it and the members as they were
  have hworkspace (hheld : held .workspace) :
      (write.apply lower db).workspace = db.workspace ∧
        (write.apply lower db).members = db.members := by
    have hne : rowOf lower write ≠ .workspace := by
      intro heq
      exact hdisjoint _ hheld (heq ▸ hlogged.holding.1)
    cases write with
    | addLabel | removeLabel => exact ⟨rfl, rfl⟩
    | _ => exact absurd rfl hne
  have hstatus (hheld : held .workspace) :
      (commitWrite lower write (some event) db).status = db.status := by
    rw [Db.status, Db.status, commitWrite_workspace, (hworkspace hheld).1]
  have haddress (hheld : held .workspace) (networkSlug address : String) :
      (commitWrite lower write (some event) db).hasAddress networkSlug address =
        db.hasAddress networkSlug address := by
    rw [Db.hasAddress, Db.hasAddress, commitWrite_members, (hworkspace hheld).2]
  unfold Ready at h ⊢
  split
  · rename_i hphase
    simp only [hphase] at h
    exact ⟨h.1, (hstatus h.1).trans h.2.1, h.2.2⟩
  · rename_i hphase
    simp only [hphase] at h
    exact ⟨h.1, (hstatus h.1).trans h.2.1, h.2.2.1, (haddress h.1 _ _).trans h.2.2.2⟩
  · rename_i hphase
    simp only [hphase] at h
    refine ⟨h.1, (hstatus h.1).trans h.2.1, h.2.2.1, (haddress h.1 _ _).trans h.2.2.2.1, ?_⟩
    rw [commitWrite_members, (hworkspace h.1).2]
    exact h.2.2.2.2
  · rename_i hphase
    simp only [hphase] at h
    exact hrow h
  · rename_i hphase
    simp only [hphase] at h
    exact hrow h
  · rename_i other hphase
    simp only [hphase] at h
    refine ⟨hrow h.holding, h.payload, h.entry, ?_⟩
    have hne : event.publicId ≠ other.publicId := by
      intro heq
      exact hdisjoint _ h.entry (heq ▸ hlogged.entry)
    have hnew := h.isNew
    rw [Db.hasEvent, commitWrite_events, List.any_append, ← Db.hasEvent, hnew]
    simpa using hne
  · rename_i hphase
    simp only [hphase] at h
  · trivial

/-! ### What a commit keeps -/

lemma added_of_ne {write : Write} (hne : ∀ member, write ≠ .addMember member)
    {event : ActivityEvent} (hpayload : event.payload = write.payload) :
    addedMember event = none := by
  cases write with
  | addMember member => exact absurd rfl (hne member)
  | setStatus status => cases status <;> simp [addedMember, hpayload, Write.payload]
  | _ => simp [addedMember, hpayload, Write.payload]

lemma nodup_eventIds {db : Db} (h : Sound lower db) (write : Write) {event : ActivityEvent}
    (hnew : db.hasEvent event.publicId = false) :
    ((commitWrite lower write (some event) db).events.map (·.publicId)).Nodup := by
  rw [commitWrite_events]
  refine nodup_map_concat h.eventIds ?_
  simpa [Db.hasEvent] using hnew

lemma sound_of_members {db : Db} (h : Sound lower db) {write : Write} {event : ActivityEvent}
    (hne : ∀ member, write ≠ .addMember member) (hpayload : event.payload = write.payload)
    (hnew : db.hasEvent event.publicId = false)
    (hlabels : ((write.apply lower db).labels.map fun row =>
      (row.memberId, lower row.label)).Nodup) :
    Sound lower (commitWrite lower write (some event) db) := by
  have hmembers : (write.apply lower db).members = db.members := by
    cases write with
    | addMember member => exact absurd rfl (hne member)
    | _ => rfl
  exact
    { labels := hlabels
      eventIds := nodup_eventIds h write hnew
      size := by rw [commitWrite_members, hmembers]; exact h.size
      addresses := by rw [commitWrite_members, hmembers]; exact h.addresses
      memberIds := by rw [commitWrite_members, hmembers]; exact h.memberIds
      valid := by rw [commitWrite_members, hmembers]; exact h.valid
      added := by
        rw [commitWrite_events, commitWrite_members, hmembers, List.filterMap_append, h.added]
        simp [added_of_ne hne hpayload] }

lemma sound_addMember {db : Db} (h : Sound lower db) {member : MemberAddress}
    {event : ActivityEvent} (hguard : Guard lower db (.addMember member))
    (hpayload : event.payload = .memberAdded member)
    (hnew : db.hasEvent event.publicId = false) :
    Sound lower (commitWrite lower (.addMember member) (some event) db) where
  labels := h.labels
  eventIds := nodup_eventIds h _ hnew
  size := by
    rw [commitWrite_members, Write.apply, List.length_append]
    exact hguard.2.2.2.1
  addresses := by
    rw [commitWrite_members, Write.apply]
    refine nodup_map_concat h.addresses ?_
    simpa [Db.hasAddress] using hguard.2.2.1
  memberIds := by
    rw [commitWrite_members, Write.apply]
    refine nodup_map_concat h.memberIds ?_
    simpa [Db.hasMember] using hguard.2.2.2.2
  valid other hother := by
    rcases List.mem_append.mp hother with hother | hother
    · exact h.valid other hother
    · rw [List.mem_singleton.mp hother]
      exact hguard.2.1
  added := by
    rw [commitWrite_events, commitWrite_members, List.filterMap_append, h.added]
    simp [addedMember, hpayload, Write.apply]

/-- **A commit keeps the data sound.** -/
theorem sound_commitWrite {db : Db} {held : Key → Prop} (h : Sound lower db) {write : Write}
    {event : ActivityEvent} (hlogged : Logged lower db held write event) :
    Sound lower (commitWrite lower write (some event) db) := by
  obtain ⟨⟨-, hguard⟩, hpayload, -, hnew⟩ := hlogged
  cases write with
  | addMember member => exact sound_addMember h hguard hpayload hnew
  | addLabel memberId label =>
    refine sound_of_members h (by simp) hpayload hnew ?_
    rw [Write.apply]
    refine nodup_map_concat h.labels ?_
    simp only [Guard, Db.folded, List.filter_eq_nil_iff] at hguard
    simpa using hguard
  | removeLabel memberId label =>
    refine sound_of_members h (by simp) hpayload hnew ?_
    exact h.labels.sublist (List.filter_sublist.map _)
  | _ => exact sound_of_members h (by simp) hpayload hnew h.labels

/-! ### What a statement finds -/

/-- A phase in which a request relies on nothing. -/
def Phase.IsFree : Phase → Prop
  | .arrived | .sawWorkspace _ | .checked | .begun _ | .located _ | .unchanged _ | .refused => True
  | _ => False

lemma ready_of_isFree {db : Db} {held : Key → Prop} {session : Session} {phase : Phase}
    (h : Phase.IsFree phase) : Ready lower db held (session.enter phase) := by
  cases phase <;> trivial

lemma length_folded_le {db : Db} (h : Sound lower db) (memberId label : String) :
    (db.folded lower memberId label).length ≤ 1 := by
  have hnodup : ((db.folded lower memberId label).map fun row =>
      (row.memberId, lower row.label)).Nodup :=
    h.labels.sublist (List.filter_sublist.map _)
  have hsame : ∀ row ∈ db.folded lower memberId label,
      (row.memberId, lower row.label) = (memberId, lower label) := by
    intro row hrow
    simpa using (List.mem_filter.mp hrow).2
  generalize db.folded lower memberId label = rows at hnodup hsame
  match rows with
  | [] => simp
  | [_] => simp
  | first :: second :: rest =>
    simp [hsame first (by simp), hsame second (by simp)] at hnodup

section

variable {db : Db} {held : Key → Prop} {session : Session} {action : Action Db Session Key}

lemma next_isPreliminary (haction : session.next lower = action)
    (hphase : session.phase = .arrived ∨ ∃ status, session.phase = .sawWorkspace status) :
    action.IsPreliminary := by
  subst haction
  rcases hphase with hphase | ⟨status, hphase⟩
  · simp only [Session.next, hphase, Session.prepare]
    repeat' split
    all_goals trivial
  · simp only [Session.next, hphase, Session.check]
    repeat' split
    all_goals trivial

lemma next_isInside {now : ℕ} (haction : session.next lower = action)
    (hphase : session.phase = .begun now ∨ session.phase = .located now) : action.IsInside := by
  subst haction
  rcases hphase with hphase | hphase
  · simp only [Session.next, hphase, Session.firstStatement]
    repeat' split
    all_goals trivial
  · simp only [Session.next, hphase, Session.labelStatement]
    repeat' split
    all_goals trivial

lemma prepare_leads {session' : Session} (hleads : session.prepare.Leads session') :
    ∃ phase, Phase.IsFree phase ∧ session' = session.enter phase := by
  obtain ⟨request, eventId, phase⟩ := session
  cases request with
  | create | rename =>
    simp only [Session.prepare] at hleads
    split at hleads
    · obtain ⟨now, rfl⟩ := hleads
      exact ⟨.begun now, trivial, rfl⟩
    · exact hleads.elim
  | setArchived =>
    obtain ⟨now, rfl⟩ := hleads
    exact ⟨.begun now, trivial, rfl⟩
  | _ =>
    obtain ⟨db, rfl⟩ := hleads
    refine ⟨_, ?_, rfl⟩
    cases db.status <;> trivial

lemma check_leads {status : WorkspaceStatus} {session' : Session}
    (hleads : (session.check status).Leads session') :
    ∃ phase, Phase.IsFree phase ∧ session' = session.enter phase := by
  obtain ⟨request, eventId, phase⟩ := session
  cases request with
  | addMember =>
    simp only [Session.check] at hleads
    split at hleads
    · obtain ⟨now, rfl⟩ := hleads
      exact ⟨.begun now, trivial, rfl⟩
    · exact hleads.elim
  | addLabel memberId label =>
    obtain ⟨db, rfl⟩ := hleads
    refine ⟨_, ?_, rfl⟩
    repeat' split
    all_goals trivial
  | removeLabel memberId label =>
    obtain ⟨db, rfl⟩ := hleads
    refine ⟨_, ?_, rfl⟩
    split <;> trivial
  | _ => exact hleads.elim

/-- Before its transaction a request gets only where it relies on nothing. -/
lemma leads_isFree {session' : Session} (hleads : (session.next lower).Leads session')
    (hphase : session.phase = .arrived ∨ (∃ status, session.phase = .sawWorkspace status) ∨
      session.phase = .checked) : ∃ phase, Phase.IsFree phase ∧ session' = session.enter phase := by
  unfold Session.next at hleads
  rcases hphase with hphase | ⟨status, hphase⟩ | hphase
  · rw [hphase] at hleads
    exact prepare_leads hleads
  · rw [hphase] at hleads
    exact check_leads hleads
  · rw [hphase] at hleads
    obtain ⟨now, rfl⟩ := hleads
    exact ⟨.begun now, trivial, rfl⟩

lemma ready_of_leads {session' : Session} (hleads : (session.next lower).Leads session')
    (hphase : session.phase = .arrived ∨ (∃ status, session.phase = .sawWorkspace status) ∨
      session.phase = .checked) : Ready lower db held session' := by
  obtain ⟨phase, hfree, rfl⟩ := leads_isFree hleads hphase
  exact ready_of_isFree hfree

lemma ready_read {next : Db → Session} (h : Ready lower db held session)
    (haction : session.next lower = .read next) : Ready lower db held (next db) := by
  have hleads : (session.next lower).Leads (next db) := by
    rw [haction]
    exact ⟨db, rfl⟩
  obtain ⟨request, eventId, phase⟩ := session
  cases phase with
  | arrived => exact ready_of_leads hleads (.inl rfl)
  | sawWorkspace status => exact ready_of_leads hleads (.inr (.inl ⟨status, rfl⟩))
  | begun now =>
    cases request with
    | addLabel | removeLabel =>
      cases haction
      refine ready_of_isFree ?_
      split <;> trivial
    | setArchived => cases haction
    | _ =>
      simp only [Session.next, Session.firstStatement] at haction
      split at haction <;> cases haction
  | locked now member =>
    cases haction
    beta_reduce
    split
    · exact ready_of_isFree trivial
    · rename_i habsent
      exact ⟨h.1, h.2.1, h.2.2, by simpa using habsent⟩
  | absent now member =>
    cases haction
    beta_reduce
    split
    · exact ready_of_isFree trivial
    · rename_i hroom
      exact ⟨h.1, h.2.1, h.2.2.1, h.2.2.2, not_le.mp hroom⟩
  | located now =>
    simp only [Session.next, Session.labelStatement] at haction
    repeat' split at haction
    all_goals cases haction
  | _ => cases haction

lemma ready_begin {next : ℕ → Session} {now : ℕ}
    (haction : session.next lower = .begin next) : Ready lower db held (next now) := by
  have hleads : (session.next lower).Leads (next now) := by
    rw [haction]
    exact ⟨now, rfl⟩
  obtain ⟨request, eventId, phase⟩ := session
  cases phase with
  | arrived => exact ready_of_leads hleads (.inl rfl)
  | sawWorkspace status => exact ready_of_leads hleads (.inr (.inl ⟨status, rfl⟩))
  | checked => exact ready_of_leads hleads (.inr (.inr rfl))
  | begun now => exact (next_isInside haction (.inl rfl)).elim
  | located now => exact (next_isInside haction (.inr rfl)).elim
  | _ => cases haction

/-- The first statement takes the row of the workspace, or what it finds lets it write nothing. -/
lemma ready_firstStatement {now : ℕ} {key : Key} {waits takes : Db → Bool} {next : Db → Session}
    (haction : session.firstStatement now = .access key waits takes next)
    (hheld : takes db = true → held key) : Ready lower db held (next db) := by
  obtain ⟨request, eventId, phase⟩ := session
  cases request with
  | create name description =>
    simp only [Session.firstStatement] at haction
    split at haction
    · cases haction
      beta_reduce
      split
      · rename_i hnone
        exact ⟨hheld hnone, by simpa using hnone, rfl⟩
      · exact ready_of_isFree trivial
    · cases haction
  | rename name =>
    simp only [Session.firstStatement] at haction
    split at haction
    · cases haction
      beta_reduce
      split
      · rename_i hactive
        have hstatus : db.status = some .active := by simpa using hactive
        exact ⟨hheld hactive, hstatus⟩
      · exact ready_of_isFree trivial
    · cases haction
  | setArchived archived =>
    cases haction
    beta_reduce
    split
    · rename_i hdiffers
      obtain ⟨current, hcurrent, hne⟩ := Option.any_eq_true _ _ |>.mp hdiffers
      exact ⟨hheld hdiffers, current, hcurrent, by simpa using hne⟩
    · exact ready_of_isFree trivial
  | addMember networkSlug address clientRef memberId =>
    simp only [Session.firstStatement] at haction
    split at haction
    · rename_i member hmember
      cases haction
      beta_reduce
      split
      · rename_i hactive
        have hsome : db.workspace.isSome = true := by
          rw [← Option.isSome_map]
          exact Option.isSome_of_eq_some hactive
        exact ⟨hheld hsome, hactive, memberRow_valid hmember⟩
      · exact ready_of_isFree trivial
    · cases haction
  | _ => cases haction

/-- The statement of a label takes the row of the label, or it writes nothing. -/
lemma ready_labelStatement {now : ℕ} {key : Key} {waits takes : Db → Bool} {next : Db → Session}
    (hsound : Sound lower db)
    (haction : session.labelStatement lower now = .access key waits takes next)
    (hheld : takes db = true → held key) : Ready lower db held (next db) := by
  obtain ⟨request, eventId, phase⟩ := session
  cases request with
  | addLabel memberId label =>
    simp only [Session.labelStatement] at haction
    split at haction
    · cases haction
      beta_reduce
      split
      · rename_i hnew
        exact ⟨hheld hnew, List.isEmpty_iff.mp hnew⟩
      · exact ready_of_isFree trivial
    · cases haction
  | removeLabel memberId label =>
    simp only [Session.labelStatement] at haction
    split at haction
    · rename_i label _
      cases haction
      have hlength := length_folded_le hsound memberId label
      beta_reduce at hheld ⊢
      split
      · exact ready_of_isFree trivial
      · rename_i hone
        have hne : db.folded lower memberId label ≠ [] := List.length_pos_iff.mp (by omega)
        exact ⟨hheld (by simpa using hne), hne⟩
      · rename_i hzero hone
        change (db.folded lower memberId label).length ≠ 0 at hzero
        exact (hone (by omega)).elim
    · cases haction
  | _ => cases haction

/-- A statement on a row leaves a request with what it relies on: the rows that it had, and the row
that it takes. -/
lemma ready_access {held' : Key → Prop} {key : Key} {waits takes : Db → Bool} {next : Db → Session}
    (hsound : Sound lower db) (h : Ready lower db held session)
    (haction : session.next lower = .access key waits takes next)
    (hkeep : ∀ other, held other → held' other) (hheld : takes db = true → held' key) :
    Ready lower db held' (next db) := by
  obtain ⟨request, eventId, phase⟩ := session
  cases phase with
  | arrived => exact (next_isPreliminary haction (.inl rfl)).elim
  | sawWorkspace status => exact (next_isPreliminary haction (.inr ⟨status, rfl⟩)).elim
  | begun now => exact ready_firstStatement haction hheld
  | located now => exact ready_labelStatement hsound haction hheld
  | counted now member =>
    cases haction
    beta_reduce
    split
    · exact ready_of_isFree trivial
    · rename_i hnew
      exact ⟨hkeep _ h.1, h.2.1, h.2.2.1, h.2.2.2.1, h.2.2.2.2, Bool.eq_false_iff.mpr hnew⟩
  | identified now member =>
    cases haction
    beta_reduce
    split
    · exact ⟨hkeep _ h.1, h.2⟩
    · exact ready_of_isFree trivial
  | wrote now write =>
    cases haction
    beta_reduce at hheld ⊢
    split
    · exact ready_of_isFree trivial
    · rename_i hnew
      exact ⟨⟨hkeep _ h.1, h.2⟩, rfl, hheld (by simpa using hnew), Bool.eq_false_iff.mpr hnew⟩
  | _ => cases haction

lemma ready_take {key : Key} {waits takes : Db → Bool} {next : Db → Session}
    (hsound : Sound lower db) (h : Ready lower db held session)
    (haction : session.next lower = .access key waits takes next) :
    Ready lower db (fun other => other = key ∨ held other) (next db) :=
  ready_access hsound h haction (fun _ => .inr) fun _ => .inl rfl

lemma ready_pass {key : Key} {waits takes : Db → Bool} {next : Db → Session}
    (hsound : Sound lower db) (h : Ready lower db held session)
    (haction : session.next lower = .access key waits takes next) (htakes : takes db = false) :
    Ready lower db held (next db) := by
  refine ready_access hsound h haction (fun _ hheld => hheld) fun htakes' => ?_
  rw [htakes] at htakes'
  cases htakes'

lemma next_commit {commit : Db → Db} (h : Ready lower db held session)
    (haction : session.next lower = .commit commit) :
    (∃ outcome, session.phase = .unchanged outcome ∧ commit = fun db => db) ∨
      ∃ write event, session.phase = .logged write (some event) ∧
        Logged lower db held write event ∧ commit = commitWrite lower write (some event) := by
  obtain ⟨request, eventId, phase⟩ := session
  cases phase with
  | arrived => exact (next_isPreliminary haction (.inl rfl)).elim
  | sawWorkspace status => exact (next_isPreliminary haction (.inr ⟨status, rfl⟩)).elim
  | begun now => exact (next_isInside haction (.inl rfl)).elim
  | located now => exact (next_isInside haction (.inr rfl)).elim
  | logged write event =>
    cases haction
    cases event with
    | none => exact h.elim
    | some event => exact .inr ⟨write, event, rfl, h, rfl⟩
  | unchanged outcome =>
    cases haction
    exact .inl ⟨outcome, rfl, rfl⟩
  | _ => cases haction

lemma next_ne_statement (row : ℕ → Db → Option Key) (write : ℕ → Db → Db) :
    session.next lower ≠ .statement row write := by
  intro haction
  obtain ⟨request, eventId, phase⟩ := session
  cases phase with
  | arrived => exact next_isPreliminary haction (.inl rfl)
  | sawWorkspace status => exact next_isPreliminary haction (.inr ⟨status, rfl⟩)
  | begun now => exact next_isInside haction (.inl rfl)
  | located now => exact next_isInside haction (.inr rfl)
  | _ => cases haction

end

/-! ### Runs -/

lemma keeps (C : State Db Session Key → Choice Session → Prop) :
    Keeps (protocol lower) C (Sound lower) (Ready lower) where
  arrive db session _ hnew := by
    obtain ⟨request, eventId, phase⟩ := session
    obtain rfl : phase = .arrived := by simpa [protocol] using hnew
    trivial
  read _ _ _ _ _ h haction := ready_read h haction
  begin _ _ _ _ _ _ _ haction := ready_begin haction
  take _ _ _ _ _ _ _ hsound h haction _ := ready_take hsound h haction
  pass _ _ _ _ _ _ _ hsound h haction htakes := ready_pass hsound h haction htakes
  commit s session req commit h _ hreq haction := by
    rcases next_commit (h.sessions session req hreq) haction with ⟨-, -, rfl⟩ |
      ⟨write, event, -, hlogged, rfl⟩
    · exact h.db
    · exact sound_commitWrite h.db hlogged
  others s session req commit h _ hreq haction other req' hne hother := by
    rcases next_commit (h.sessions session req hreq) haction with ⟨-, -, rfl⟩ |
      ⟨write, event, -, hlogged, rfl⟩
    · exact h.sessions other req' hother
    · refine ready_commitWrite (h.sessions other req' hother) hlogged ?_
      intro key hkey hkey'
      exact hne (holds_unique hkey hkey')
  statement _ _ _ _ _ _ _ _ haction := absurd haction (next_ne_statement _ _)
  others' _ _ _ _ _ _ _ _ haction := absurd haction (next_ne_statement _ _)

lemma sound_noWorkspace : Sound lower noWorkspace :=
  ⟨List.nodup_nil, List.nodup_nil, Nat.zero_le _, List.nodup_nil, List.nodup_nil,
    by simp [noWorkspace], rfl⟩

/-- The state after a run of requests on a workspace that is not there at first. -/
def After (lower : String → String) (choices : List (Choice Session)) (s : State Db Session Key) :
    Prop :=
  run (step (protocol lower)) (start noWorkspace 0) choices = some s

variable {s s' : State Db Session Key} {choices : List (Choice Session)}

/-- **After every run** the committed data is sound, and every request is ready. -/
theorem inv_of_after (h : After lower choices s) : Inv (Sound lower) (Ready lower) s :=
  (keeps fun _ _ => True).run (inv_start sound_noWorkspace 0)
    (along_of_forall_mem (fun _ _ _ => trivial) _) h

/-! ### Where writes come from -/

lemma request_leads {session session' : Session} (hleads : (session.next lower).Leads session') :
    session'.request = session.request := by
  unfold Session.next Session.prepare Session.check Session.firstStatement Session.labelStatement
    at hleads
  repeat' split at hleads
  all_goals first | exact hleads.elim | (obtain ⟨_, rfl⟩ := hleads; rfl)

/-- The write is the one that the request is for. -/
def IsFor (write : Write) : Request → Prop
  | .create name description => ∃ name' description', normalizeRequired name 120 = some name' ∧
    normalizeOptional description 1000 = some description' ∧
    write = .create ⟨name', description', .active⟩
  | .rename name => ∃ name', normalizeRequired name 120 = some name' ∧ write = .rename name'
  | .setArchived archived => write = .setStatus (Session.target archived)
  | .addMember networkSlug address clientRef memberId => ∃ member,
    memberRow networkSlug address clientRef memberId = some member ∧ write = .addMember member
  | .addLabel memberId label => ∃ label', normalizeRequired label 64 = some label' ∧
    write = .addLabel memberId label'
  | .removeLabel memberId label => ∃ label', normalizeRequired label 64 = some label' ∧
    write = .removeLabel memberId label'

/-- What a request has found or written so far is its own. -/
def Own (session : Session) : Prop :=
  match session.phase with
  | .locked _ member | .absent _ member | .counted _ member | .identified _ member =>
    IsFor (.addMember member) session.request
  | .wrote _ write | .logged write _ => IsFor write session.request
  | _ => True

lemma own_of_isFree {session : Session} {phase : Phase} (h : Phase.IsFree phase) :
    Own (session.enter phase) := by
  cases phase <;> trivial

lemma own_of_firstStatement {session session' : Session} {now : ℕ}
    (hleads : (session.firstStatement now).Leads session') : Own session' := by
  obtain ⟨request, eventId, phase⟩ := session
  cases request with
  | create name description =>
    simp only [Session.firstStatement] at hleads
    split at hleads
    · rename_i hname hdescription
      obtain ⟨db, rfl⟩ := hleads
      beta_reduce
      split
      · exact ⟨_, _, hname, hdescription, rfl⟩
      · exact own_of_isFree trivial
    · exact hleads.elim
  | rename name =>
    simp only [Session.firstStatement] at hleads
    split at hleads
    · rename_i hname
      obtain ⟨db, rfl⟩ := hleads
      beta_reduce
      split
      · exact ⟨_, hname, rfl⟩
      · exact own_of_isFree trivial
    · exact hleads.elim
  | setArchived archived =>
    obtain ⟨db, rfl⟩ := hleads
    beta_reduce
    split
    · exact rfl
    · exact own_of_isFree trivial
  | addMember networkSlug address clientRef memberId =>
    simp only [Session.firstStatement] at hleads
    split at hleads
    · rename_i hmember
      obtain ⟨db, rfl⟩ := hleads
      beta_reduce
      split
      · exact ⟨_, hmember, rfl⟩
      · exact own_of_isFree trivial
    · exact hleads.elim
  | _ =>
    obtain ⟨db, rfl⟩ := hleads
    refine own_of_isFree ?_
    split <;> trivial

lemma own_of_labelStatement {session session' : Session} {now : ℕ}
    (hleads : (session.labelStatement lower now).Leads session') : Own session' := by
  obtain ⟨request, eventId, phase⟩ := session
  cases request with
  | addLabel memberId label =>
    simp only [Session.labelStatement] at hleads
    split at hleads
    · rename_i hlabel
      obtain ⟨db, rfl⟩ := hleads
      beta_reduce
      split
      · exact ⟨_, hlabel, rfl⟩
      · exact own_of_isFree trivial
    · exact hleads.elim
  | removeLabel memberId label =>
    simp only [Session.labelStatement] at hleads
    split at hleads
    · rename_i hlabel
      obtain ⟨db, rfl⟩ := hleads
      beta_reduce
      split
      · exact own_of_isFree trivial
      · exact ⟨_, hlabel, rfl⟩
      · exact ⟨_, hlabel, rfl⟩
    · exact hleads.elim
  | _ => exact hleads.elim

/-- A request goes on with its own write, or with none. -/
lemma own_leads {session session' : Session} (h : Own session)
    (hleads : (session.next lower).Leads session') : Own session' := by
  obtain ⟨request, eventId, phase⟩ := session
  cases phase with
  | arrived =>
    obtain ⟨phase, hfree, rfl⟩ := leads_isFree hleads (.inl rfl)
    exact own_of_isFree hfree
  | sawWorkspace status =>
    obtain ⟨phase, hfree, rfl⟩ := leads_isFree hleads (.inr (.inl ⟨status, rfl⟩))
    exact own_of_isFree hfree
  | checked =>
    obtain ⟨phase, hfree, rfl⟩ := leads_isFree hleads (.inr (.inr rfl))
    exact own_of_isFree hfree
  | begun now => exact own_of_firstStatement hleads
  | located now => exact own_of_labelStatement hleads
  | identified =>
    obtain ⟨db, rfl⟩ := hleads
    beta_reduce
    split
    · exact h
    · exact own_of_isFree trivial
  | locked | absent | counted | wrote =>
    obtain ⟨db, rfl⟩ := hleads
    beta_reduce
    split
    · exact own_of_isFree trivial
    · exact h
  | _ => exact hleads.elim

lemma own_of_after (h : After lower choices s) {session : ℕ} {req : Session}
    (hreq : s.sessions session = some req) : Own req := by
  refine ((keeps_of_leads (C := fun _ _ => True) ?_ fun _ _ => own_leads).run
    (inv_start trivial 0) (along_of_forall_mem (fun _ _ _ => trivial) _) h).sessions
      session req hreq
  intro req hnew
  have harrived : req.phase = .arrived := by simpa [protocol] using hnew
  simp [Own, harrived]

/-- **Requests happen at once**: a step leaves the committed data, or it commits the write of a
request that holds the row for it, and the write finds what it relies on. -/
theorem step_commits (h : Inv (Sound lower) (Ready lower) s) {c : Choice Session}
    (hstep : step (protocol lower) s c = some s') : s'.db = s.db ∨
      ∃ session req write event, c = .advance session ∧ s.sessions session = some req ∧
        req.phase = .logged write (some event) ∧ s.holds session (rowOf lower write) ∧
        Commits lower s.db write event s'.db := by
  rcases db_of_step hstep with hsame | ⟨session, req, rfl, hreq, ⟨commit, haction, hdb⟩ |
    ⟨row, write, haction, -⟩⟩
  · exact .inl hsame
  · rcases next_commit (h.sessions session req hreq) haction with ⟨-, -, rfl⟩ |
      ⟨write, event, hphase, hlogged, rfl⟩
    · exact .inl hdb
    · exact .inr ⟨session, req, write, event, rfl, hreq, hphase, hlogged.holding.1,
        hdb ▸ hlogged.commits⟩
  · exact absurd haction (next_ne_statement row write)

/-- A request that has logged its event commits both. -/
lemma commits_of_logged (h : Inv (Sound lower) (Ready lower) s) {session : ℕ} {req : Session}
    {write : Write} {event : ActivityEvent} (hreq : s.sessions session = some req)
    (hphase : req.phase = .logged write (some event))
    (hstep : step (protocol lower) s (.advance session) = some s') :
    Commits lower s.db write event s'.db := by
  have hlogged : Logged lower s.db (s.holds session) write event := by
    simpa [Ready, hphase] using h.sessions session req hreq
  have haction : (protocol lower).next req = .commit (commitWrite lower write (some event)) := by
    change Session.next lower req = _
    rw [Session.next, hphase]
  rw [step, hreq, Option.bind_some, haction, perform] at hstep
  cases hstep
  exact hlogged.commits

/-- **What each commit keeps** under a condition on the steps holds after every run whose steps
meet it. -/
theorem along_commits {C : State Db Session Key → Choice Session → Prop} {P : Db → Prop}
    (hnone : P noWorkspace)
    (hcommit : ∀ s session req write event db', C s (.advance session) →
      s.sessions session = some req → req.phase = .logged write (some event) →
        Commits lower s.db write event db' → P s.db → P db')
    (h : After lower choices s)
    (hC : Along (step (protocol lower)) C (start noWorkspace 0) choices) : P s.db := by
  have hboth : Inv (Sound lower) (Ready lower) s ∧ P s.db := by
    refine inv_of_along (fun s => Inv (Sound lower) (Ready lower) s ∧ P s.db) ?_
      ⟨inv_start sound_noWorkspace 0, hnone⟩ hC h
    rintro s c s' ⟨hinv, hP⟩ hc hstep
    refine ⟨(keeps fun _ _ => True).step c hinv trivial hstep, ?_⟩
    rcases step_commits hinv hstep with hsame |
      ⟨session, req, write, event, rfl, hreq, hphase, -, hcommits⟩
    · rw [hsame]
      exact hP
    · exact hcommit s session req write event s'.db hc hreq hphase hcommits hP
  exact hboth.2

end MotherApi.WorkspaceCommits
