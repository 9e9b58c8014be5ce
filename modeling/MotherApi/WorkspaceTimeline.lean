import MotherApi.WorkspaceCommits
import Mathlib.Data.Finset.Max
import Mathlib.Data.List.Infix
import Mathlib.Data.Prod.Lex
import Mathlib.Data.String.Basic

/-!
The activity log of a workspace as an account of its state.

The log is read in the order of the times of its events. The time of an event is that at which its
transaction began, while the write takes effect when the transaction has the row. So the newest
event is not always the last to have happened: of two renames, the one that began first may get the
row last. The log tells the name and the status where the last event of each kind to be committed
was not overtaken so by another value.
-/

namespace MotherApi.WorkspaceTimeline

open MotherApi.Lib.Runs MotherApi.Lib.Transactions MotherApi.Strings MotherApi.Workspaces
open MotherApi.WorkspaceCommits

/-! ### The newest event of a kind -/

/-- Where the event stands in the listing of the log. -/
def position (event : ActivityEvent) : ℕ ×ₗ String := toLex (event.occurredAt, event.publicId)

/-- The name that an event gives to the workspace. -/
def nameOf (event : ActivityEvent) : Option String :=
  match event.payload with
  | .created name _ | .renamed name => some name
  | _ => none

/-- The status that an event gives to the workspace. -/
def statusOf (event : ActivityEvent) : Option WorkspaceStatus :=
  match event.payload with
  | .created _ _ | .restored => some .active
  | .archived => some .archived
  | _ => none

section

variable {α : Type} (read : ActivityEvent → Option α)

/-- The newest of the events from which a value is read gives this value. -/
def Newest (events : List ActivityEvent) (value : α) : Prop :=
  ∃ event ∈ events, read event = some value ∧
    ∀ other ∈ events, (read other).isSome = true → position other ≤ position event

/-- An event of the same kind with another value is there already, and is as new. -/
def Overtaken (events : List ActivityEvent) (event : ActivityEvent) : Prop :=
  (read event).isSome = true ∧ ∃ other ∈ events, (read other).isSome = true ∧
    read other ≠ read event ∧ position event ≤ position other

/-- An event of the kind is newer than those that are there. -/
def Latest (events : List ActivityEvent) (event : ActivityEvent) : Prop :=
  (read event).isSome = true → ∀ other ∈ events, (read other).isSome = true →
    position other < position event

end

variable {α : Type} {read : ActivityEvent → Option α} {events : List ActivityEvent}
  {event : ActivityEvent} {value : α}

lemma Latest.not_overtaken (h : Latest read events event) : ¬Overtaken read events event := by
  rintro ⟨hkind, other, hother, hother', -, hle⟩
  exact absurd hle (h hkind other hother hother').not_ge

lemma exists_newest (hmem : event ∈ events) (hkind : (read event).isSome = true) :
    ∃ newest ∈ events, (read newest).isSome = true ∧ ∀ other ∈ events,
      (read other).isSome = true → position other ≤ position newest := by
  obtain ⟨newest, hnewest, hmax⟩ :=
    (events.toFinset.filter fun event => (read event).isSome = true).exists_max_image position
      ⟨event, by simp [hmem, hkind]⟩
  obtain ⟨hnewest, hkind⟩ := by simpa using hnewest
  exact ⟨newest, hnewest, hkind, fun other hother hother' => hmax other (by simp [hother, hother'])⟩

/-- An event that is not overtaken gives the value of the newest. -/
lemma newest_of_not_overtaken (hread : read event = some value)
    (hnot : ¬Overtaken read events event) : Newest read (events ++ [event]) value := by
  have hkind : (read event).isSome = true := by rw [hread]; rfl
  have hadded : event ∈ events ++ [event] := by simp
  obtain ⟨newest, hmem, hnewest, hmax⟩ := exists_newest hadded hkind
  refine ⟨newest, hmem, ?_, hmax⟩
  rw [← hread]
  rcases List.mem_append.mp hmem with hmem | hmem
  · by_contra hne
    exact hnot ⟨hkind, newest, hmem, hnewest, hne, hmax event (by simp) hkind⟩
  · rw [List.mem_singleton.mp hmem]

lemma newest_append (hread : read event = none) (h : Newest read events value) :
    Newest read (events ++ [event]) value := by
  obtain ⟨newest, hmem, hvalue, hmax⟩ := h
  refine ⟨newest, List.mem_append_left _ hmem, hvalue, ?_⟩
  intro other hother hkind
  rcases List.mem_append.mp hother with hother | hother
  · exact hmax other hother hkind
  · rw [List.mem_singleton.mp hother, hread] at hkind
    cases hkind

/-! ### One commit -/

/-- The value that the events of a kind give is that of a field of the workspace: an event of the
kind comes with its value, and others leave it. -/
structure Gives (lower : String → String) (read : ActivityEvent → Option α)
    (field : Workspace → α) : Prop where
  gives : ∀ db write event db' value, Commits lower db write event db' →
    read event = some value → db'.workspace.map field = some value
  leaves : ∀ db write event db', Commits lower db write event db' → read event = none →
    db'.workspace.map field = db.workspace.map field

variable {lower : String → String}

lemma gives_name : Gives lower nameOf Workspace.name where
  gives db write event db' value h hread := by
    rw [h.result, commitWrite_workspace]
    have hpayload := h.payload
    have hguard := h.guard
    cases write with
    | create workspace => simpa [nameOf, hpayload, Write.payload, Write.apply] using hread
    | rename name =>
      obtain ⟨workspace, hworkspace, -⟩ := Option.map_eq_some_iff.mp hguard
      simpa [nameOf, hpayload, Write.payload, Write.apply, hworkspace] using hread
    | setStatus status => cases status <;> simp [nameOf, hpayload, Write.payload] at hread
    | _ => simp [nameOf, hpayload, Write.payload] at hread
  leaves db write event db' h hread := by
    rw [h.result, commitWrite_workspace]
    have hpayload := h.payload
    cases write with
    | create | rename => simp [nameOf, hpayload, Write.payload] at hread
    | setStatus status => cases hworkspace : db.workspace <;> simp [Write.apply, hworkspace]
    | _ => rfl

lemma gives_status : Gives lower statusOf Workspace.status where
  gives db write event db' value h hread := by
    rw [h.result, commitWrite_workspace]
    have hpayload := h.payload
    have hguard := h.guard
    cases write with
    | create workspace =>
      simpa [statusOf, hpayload, Write.payload, Write.apply, hguard.2] using hread
    | setStatus status =>
      obtain ⟨current, hcurrent, -⟩ := hguard
      obtain ⟨workspace, hworkspace, -⟩ := Option.map_eq_some_iff.mp hcurrent
      cases status <;>
        simpa [statusOf, hpayload, Write.payload, Write.apply, hworkspace] using hread
    | _ => simp [statusOf, hpayload, Write.payload] at hread
  leaves db write event db' h hread := by
    rw [h.result, commitWrite_workspace]
    have hpayload := h.payload
    cases write with
    | create => simp [statusOf, hpayload, Write.payload] at hread
    | setStatus status => cases status <;> simp [statusOf, hpayload, Write.payload] at hread
    | rename name => cases hworkspace : db.workspace <;> simp [Write.apply, hworkspace]
    | _ => rfl

/-! ### Runs -/

section

variable (read : ActivityEvent → Option α)

/-- The step commits an event that is overtaken. -/
def CommitsOvertaken (s : State Db Session Key) : Choice Session → Prop
  | .advance session => ∃ req write event, s.sessions session = some req ∧
      req.phase = .logged write (some event) ∧ Overtaken read s.db.events event
  | _ => False

/-- The step commits no event of the kind. -/
def CommitsOther (s : State Db Session Key) : Choice Session → Prop
  | .advance session => ∀ req write event, s.sessions session = some req →
      req.phase = .logged write (some event) → read event = none
  | _ => True

/-- The last event of the kind to be committed was overtaken. -/
def EndsOvertaken (lower : String → String) (choices : List (Choice Session)) : Prop :=
  Since (step (protocol lower)) (CommitsOvertaken read) (CommitsOther read) (start noWorkspace 0)
    choices

end

/-- Nowhere that the log is asked for, the last event to give the name was overtaken, or the last
to give the status. -/
def InOrder (lower : String → String) (Asked : State Db Session Key → Prop)
    (choices : List (Choice Session)) : Prop :=
  ∀ before rest t, choices = before ++ rest → After lower before t → Asked t →
    ¬EndsOvertaken nameOf lower before ∧ ¬EndsOvertaken statusOf lower before

/-- An event that is committed is the newest of its kind. -/
def CommitsNewest (s : State Db Session Key) : Choice Session → Prop
  | .advance session => ∀ req write event, s.sessions session = some req →
      req.phase = .logged write (some event) → Latest nameOf s.db.events event ∧
        Latest statusOf s.db.events event
  | _ => True

/-- The log tells the field, or the last event of the kind was overtaken. -/
def Tells (lower : String → String) (read : ActivityEvent → Option α) (field : Workspace → α)
    (choices : List (Choice Session)) (s : State Db Session Key) : Prop :=
  ∀ workspace, s.db.workspace = some workspace →
    Newest read s.db.events (field workspace) ∨ EndsOvertaken read lower choices

section

variable {s s' : State Db Session Key} {choices : List (Choice Session)}
  {field : Workspace → α}

lemma tells_of_other (h : After lower choices s) (htells : Tells lower read field choices s)
    {c : Choice Session} (hother : CommitsOther read s c)
    (hfield : s'.db.workspace.map field = s.db.workspace.map field)
    (hevents : ∀ value, Newest read s.db.events value → Newest read s'.db.events value) :
    Tells lower read field (choices ++ [c]) s' := by
  intro workspace' hworkspace'
  rw [hworkspace', Option.map_some] at hfield
  obtain ⟨workspace, hworkspace, hsame⟩ := Option.map_eq_some_iff.mp hfield.symm
  rw [← hsame]
  exact (htells workspace hworkspace).imp (hevents _) fun hends => hends.concat h hother

/-- **One step** keeps the log telling the field. -/
lemma tells_step (hgives : Gives lower read field) (h : After lower choices s)
    (htells : Tells lower read field choices s) {c : Choice Session}
    (hstep : step (protocol lower) s c = some s') : Tells lower read field (choices ++ [c]) s' := by
  by_cases hother : CommitsOther read s c
  · rcases step_commits (inv_of_after h) hstep with hdb |
      ⟨session, req, write, event, rfl, hreq, hphase, -, hcommits⟩
    · exact tells_of_other h htells hother (by rw [hdb]) (by simp [hdb])
    · have hread := hother req write event hreq hphase
      refine tells_of_other h htells hother (hgives.leaves _ _ _ _ hcommits hread) ?_
      intro value hnewest
      rw [hcommits.result, commitWrite_events]
      exact newest_append hread hnewest
  · cases c with
    | advance session =>
      simp only [CommitsOther, not_forall] at hother
      obtain ⟨req, write, event, hreq, hphase, hread⟩ := hother
      obtain ⟨value, hread⟩ := Option.ne_none_iff_exists'.mp hread
      have hcommits := commits_of_logged (inv_of_after h) hreq hphase hstep
      intro workspace' hworkspace'
      have hvalue := hgives.gives _ _ _ _ value hcommits hread
      rw [hworkspace', Option.map_some, Option.some.injEq] at hvalue
      by_cases hovertaken : Overtaken read s.db.events event
      · exact .inr (since_of_last h hstep ⟨req, write, event, hreq, hphase, hovertaken⟩)
      · rw [hvalue, hcommits.result, commitWrite_events]
        exact .inl (newest_of_not_overtaken hread hovertaken)
    | _ => exact absurd trivial hother

/-- **A run** keeps the log telling the field. -/
theorem tells_of_after (hgives : Gives lower read field) (h : After lower choices s) :
    Tells lower read field choices s := by
  refine inv_of_history (Tells lower read field) (by rintro workspace ⟨⟩) ?_ h
  intro before c rest t t' _ ht htells hstep
  exact tells_step hgives ht htells hstep

lemma not_endsOvertaken (h : ∀ s session req write event, CommitsNewest s (.advance session) →
      s.sessions session = some req → req.phase = .logged write (some event) →
        Latest read s.db.events event)
    (horder : Along (step (protocol lower)) CommitsNewest (start noWorkspace 0) choices) :
    ¬EndsOvertaken read lower choices := by
  rintro ⟨before, c, after, t, t', rfl, ht, -, hovertaken, -⟩
  cases c with
  | advance session =>
    obtain ⟨req, write, event, hreq, hphase, hovertaken⟩ := hovertaken
    exact (h t session req write event (along_at horder ht) hreq hphase).not_overtaken hovertaken
  | _ => exact hovertaken

/-- **The schedule decides**: no event is overtaken where events that give a name, and events that
give a status, are committed in the order in which their transactions began. -/
theorem inOrder_of_commitsNewest {Asked : State Db Session Key → Prop}
    (horder : Along (step (protocol lower)) CommitsNewest (start noWorkspace 0) choices) :
    InOrder lower Asked choices := by
  rintro before rest t rfl - -
  have hbefore := along_of_append horder
  exact ⟨not_endsOvertaken (fun _ _ req write event h hreq hphase =>
      (h req write event hreq hphase).1) hbefore,
    not_endsOvertaken (fun _ _ req write event h hreq hphase =>
      (h req write event hreq hphase).2) hbefore⟩

/-- **The log tells the state**: after every run, the newest event that gives a name gives that of
the workspace, and the newest that gives a status agrees with it, if the log is asked for there and,
nowhere that it is asked for, the last event of either kind to be committed was overtaken by another
value. -/
theorem timeline_tells {Asked : State Db Session Key → Prop} (h : After lower choices s)
    (horder : InOrder lower Asked choices) (hasked : Asked s) {workspace : Workspace}
    (hworkspace : s.db.workspace = some workspace) :
    Newest nameOf s.db.events workspace.name ∧ Newest statusOf s.db.events workspace.status := by
  obtain ⟨hname, hstatus⟩ := horder choices [] s (List.append_nil _).symm h hasked
  exact ⟨(tells_of_after gives_name h workspace hworkspace).resolve_right hname,
    (tells_of_after gives_status h workspace hworkspace).resolve_right hstatus⟩

end

/-! ### Renames side by side -/

/-- A transaction is open that can still commit. -/
def isOpen : Phase → Bool
  | .arrived | .sawWorkspace _ | .checked | .refused => false
  | _ => true

/-- No transaction is open. -/
def NoneOpen (s : State Db Session Key) : Prop :=
  ∀ session req, s.sessions session = some req → isOpen req.phase = false

instance [DecidableEq α] (read : ActivityEvent → Option α) (events : List ActivityEvent)
    (value : α) : Decidable (Newest read events value) :=
  inferInstanceAs (Decidable (∃ event ∈ events, read event = some value ∧
    ∀ other ∈ events, (read other).isSome = true → position other ≤ position event))

instance [DecidableEq α] (read : ActivityEvent → Option α) (events : List ActivityEvent)
    (event : ActivityEvent) : Decidable (Overtaken read events event) :=
  inferInstanceAs (Decidable ((read event).isSome = true ∧ ∃ other ∈ events,
    (read other).isSome = true ∧ read other ≠ read event ∧ position event ≤ position other))

section

variable [DecidableEq α] (read : ActivityEvent → Option α)

/-- The event that the step commits. -/
def committed (s : State Db Session Key) : Choice Session → Option ActivityEvent
  | .advance session =>
    match (s.sessions session).map Session.phase with
    | some (.logged _ event) => event
    | _ => none
  | _ => none

def endsOvertaken (lower : String → String) (choices : List (Choice Session)) : Bool :=
  checkSince (step (protocol lower))
    (fun s c => (committed s c).any fun event => decide (Overtaken read s.db.events event))
    (fun s c => (committed s c).all fun event => (read event).isNone) (start noWorkspace 0) choices

variable {read}

lemma endsOvertaken_complete {choices : List (Choice Session)}
    (h : EndsOvertaken read lower choices) : endsOvertaken read lower choices = true := by
  refine checkSince_of_since ?_ ?_ h
  · intro s c hc
    cases c with
    | advance session =>
      obtain ⟨req, write, event, hreq, hphase, hovertaken⟩ := hc
      simpa [committed, hreq, hphase] using hovertaken
    | _ => exact hc.elim
  · intro s c hc
    cases c with
    | advance session =>
      cases hreq : s.sessions session with
      | none => simp [committed, hreq]
      | some req =>
        cases hphase : req.phase with
        | logged write event =>
          cases event with
          | none => simp [committed, hreq, hphase]
          | some event => simpa [committed, hreq, hphase] using hc req write event hreq hphase
        | _ => simp [committed, hreq, hphase]
    | _ => rfl

end

/-- The check of the condition in a run of two sessions. -/
def inOrder (lower : String → String) (choices : List (Choice Session)) : Bool :=
  choices.inits.all fun before =>
    (run (step (protocol lower)) (start noWorkspace 0) before).all fun t =>
      (List.range 2).any (fun session => (t.sessions session).any fun req => isOpen req.phase) ||
        !(endsOvertaken nameOf lower before || endsOvertaken statusOf lower before)

lemma inOrder_sound {choices : List (Choice Session)} (h : inOrder lower choices = true) :
    InOrder lower NoneOpen choices := by
  rintro before rest t hsplit ht hnone
  have hcheck := List.all_eq_true.mp h before
    ((List.mem_inits _ _).mpr ⟨rest, hsplit.symm⟩)
  rw [After] at ht
  rw [ht, Option.all_some, Bool.or_eq_true] at hcheck
  have hopen : ¬((List.range 2).any fun session =>
      (t.sessions session).any fun req => isOpen req.phase) = true := by
    intro hany
    obtain ⟨session, -, hany⟩ := List.any_eq_true.mp hany
    obtain ⟨req, hreq, hphase⟩ := (Option.any_eq_true _ _).mp hany
    rw [hnone session req hreq] at hphase
    cases hphase
  have hnot := hcheck.resolve_left hopen
  simp only [Bool.not_eq_true', Bool.or_eq_false_iff] at hnot
  constructor
  · intro hends
    rw [endsOvertaken_complete hends] at hnot
    cases hnot.1
  · intro hends
    rw [endsOvertaken_complete hends] at hnot
    cases hnot.2

/-- A rename that is overtaken while a third one is open, which then gives the name. In the end the
workspace is archived. -/
def threeRenames : List (Choice Session) := List.flatten
  [[arrival 0 (.create "T" none) "c"], advances 0 4,
    [.tick, arrival 0 (.rename "A") "a"], advances 0 1,
    [.tick, arrival 1 (.rename "B") "b"], advances 1 4,
    [.tick, arrival 1 (.rename "C") "d"], advances 1 1, advances 0 3, advances 1 3,
    [.tick, arrival 0 (.setArchived true) "s"], advances 0 4]

lemma threeRenames_inOrder : inOrder toAsciiLowercase threeRenames = true := by
  decide +kernel

lemma threeRenames_result :
    (run (step (protocol toAsciiLowercase)) (start noWorkspace 0) threeRenames).map
      (fun s => (s.db.workspace, (List.range 2).map s.sessions)) =
        some (some ⟨"C", none, .archived⟩, [none, none]) := by
  decide +kernel

/-- In a run of two sessions that are done, nobody is there. -/
lemma sessions_of_below {s : State Db Session Key} (hbelow : Below 2 s)
    (hsessions : (List.range 2).map s.sessions = [none, none]) (session : ℕ) :
    s.sessions session = none := by
  rcases Nat.lt_or_ge session 2 with hlt | hge
  · have hmem : s.sessions session ∈ (List.range 2).map s.sessions :=
      List.mem_map_of_mem (List.mem_range.mpr hlt)
    simpa [hsessions] using hmem
  · exact hbelow session hge

theorem timeline_tells_archived : ∃ s, After toAsciiLowercase threeRenames s ∧ NoneOpen s ∧
    s.db.workspace = some ⟨"C", none, .archived⟩ ∧
    Newest nameOf s.db.events "C" ∧ Newest statusOf s.db.events .archived := by
  obtain ⟨s, hrun, hresult⟩ := Option.map_eq_some_iff.mp threeRenames_result
  rw [Prod.mk.injEq] at hresult
  have hbelow : Below 2 s := below_run (by decide +kernel) (fun _ _ => rfl) hrun
  have hnone : NoneOpen s := by
    intro session req hreq
    rw [sessions_of_below hbelow hresult.2 session] at hreq
    cases hreq
  exact ⟨s, hrun, hnone, hresult.1,
    timeline_tells hrun (inOrder_sound threeRenames_inOrder) hnone hresult.1⟩

/-- The first of two renames begins first and gets the row last. -/
def overtaken : List (Choice Session) := List.flatten
  [[arrival 0 (.create "T" none) "c"], advances 0 4,
    [.tick, arrival 0 (.rename "A") "a"], advances 0 1,
    [.tick, arrival 1 (.rename "B") "b"], advances 1 4, advances 0 3]

lemma overtaken_result :
    (run (step (protocol toAsciiLowercase)) (start noWorkspace 0) overtaken).map
      (fun s => (s.db.workspace, s.db.events, (List.range 2).map s.sessions)) =
        some (some ⟨"A", none, .active⟩,
          [⟨"c", 0, .created "T" none⟩, ⟨"b", 2, .renamed "B"⟩, ⟨"a", 1, .renamed "A"⟩],
          [none, none]) := by
  decide +kernel

theorem overtaken_misleads : ∃ s, After toAsciiLowercase overtaken s ∧
    (∀ session, s.sessions session = none) ∧ s.db.workspace = some ⟨"A", none, .active⟩ ∧
    ¬Newest nameOf s.db.events "A" ∧ Newest nameOf s.db.events "B" := by
  obtain ⟨s, hrun, hresult⟩ := Option.map_eq_some_iff.mp overtaken_result
  simp only [Prod.mk.injEq] at hresult
  obtain ⟨hworkspace, hevents, hsessions⟩ := hresult
  have hbelow : Below 2 s := below_run (by decide +kernel) (fun _ _ => rfl) hrun
  refine ⟨s, hrun, sessions_of_below hbelow hsessions, hworkspace, ?_, ?_⟩
  · rw [hevents]
    decide +kernel
  · rw [hevents]
    decide +kernel

end MotherApi.WorkspaceTimeline
