import MotherApi.WorkspaceCommits

/-!
The labels of a member, under requests that run side by side.

The limit on labels is checked on the labels that the request read before its transaction. The
index on the folded labels keeps them distinct, and each row that comes or goes has its event.
But nothing counts the labels again: where others have added labels since, one more goes over
the limit. It is kept by the runs in which the check would still pass at the commit. It does where
no label comes between the check of a request and its commit, once there is no room left.
-/

namespace MotherApi.WorkspaceLabels

open MotherApi.Lib.Runs MotherApi.Lib.Transactions MotherApi.Strings MotherApi.Workspaces
open MotherApi.WorkspaceCommits

/-- A label that is committed passes the check of the service on the labels committed before it. -/
def StillFits (s : State Db Session Key) : Choice Session → Prop
  | .advance session => ∀ req memberId label event, s.sessions session = some req →
      req.phase = .logged (.addLabel memberId label) event →
        labelFits (s.db.labelsOf memberId) label = true
  | _ => True

def WithinLimit (db : Db) : Prop := ∀ memberId, (db.labelsOf memberId).length ≤ MAX_ADDRESS_LABELS

def isLabelEvent (event : ActivityEvent) : Bool :=
  match event.payload with
  | .labelAdded _ _ | .labelRemoved _ _ => true
  | _ => false

/-- How a step changes the labels and the log of them: not at all, or by one row and its event. -/
inductive LabelStep (lower : String → String) (db db' : Db) : Prop
  | same (h : db'.labels = db.labels)
      (hlog : db'.events.filter isLabelEvent = db.events.filter isLabelEvent)
  | added (memberId label : String) (event : ActivityEvent)
      (hnew : db.folded lower memberId label = [])
      (h : db'.labels = db.labels ++ [⟨memberId, label⟩])
      (hlog : db'.events = db.events ++ [event])
      (hevent : event.payload = .labelAdded memberId label)
  | removed (row : MemberLabel) (label : String) (event : ActivityEvent)
      (hold : db.labels.Perm (row :: db'.labels)) (hlabel : lower row.label = lower label)
      (hlog : db'.events = db.events ++ [event])
      (hevent : event.payload = .labelRemoved row.memberId label)

/-- No two labels of a member are equal up to case. -/
def Distinct (lower : String → String) (db : Db) : Prop :=
  ∀ memberId, ((db.labelsOf memberId).map lower).Nodup

variable {lower : String → String}

lemma distinct_of_sound {db : Db} (h : Sound lower db) : Distinct lower db := by
  intro memberId
  have hnodup := h.labels.sublist (List.filter_sublist.map
    (fun row : MemberLabel => (row.memberId, lower row.label)) : List.Sublist
      ((db.labels.filter (·.memberId == memberId)).map _) _)
  rw [Db.labelsOf, List.map_map]
  refine (List.nodup_map_iff_inj_on (List.Nodup.of_map _ hnodup)).mpr ?_
  intro row hrow other hother heq
  refine List.inj_on_of_nodup_map hnodup hrow hother ?_
  have hid : row.memberId = memberId := by simpa using (List.mem_filter.mp hrow).2
  have hid' : other.memberId = memberId := by simpa using (List.mem_filter.mp hother).2
  exact Prod.ext (hid.trans hid'.symm) heq

/-! ### One commit -/

section

variable {db db' : Db} {write : Write} {event : ActivityEvent}

lemma labelsOf_addLabel (memberId label other : String) :
    (commitWrite lower (.addLabel memberId label) (some event) db).labelsOf other =
      db.labelsOf other ++ if memberId = other then [label] else [] := by
  rw [Db.labelsOf, commitWrite_labels, Write.apply, List.filter_append, List.map_append,
    ← Db.labelsOf]
  by_cases heq : memberId = other <;> simp [heq]

lemma sublist_labelsOf_removeLabel (memberId label other : String) :
    ((commitWrite lower (.removeLabel memberId label) (some event) db).labelsOf other).Sublist
      (db.labelsOf other) := by
  rw [Db.labelsOf, commitWrite_labels, Write.apply, Db.labelsOf]
  exact (List.filter_sublist.filter _).map _

lemma labelsOf_removeLabel_le (memberId label other : String) :
    ((commitWrite lower (.removeLabel memberId label) (some event) db).labelsOf other).length ≤
      (db.labelsOf other).length :=
  (sublist_labelsOf_removeLabel memberId label other).length_le

/-- A label that is new to the index and passes the check finds room. -/
lemma room_of_fits (hlower : ∀ a b, eqIgnoreAsciiCase a b = true → lower a = lower b)
    {memberId label : String} (hnew : db.folded lower memberId label = [])
    (hfits : labelFits (db.labelsOf memberId) label = true) :
    (db.labelsOf memberId).length < MAX_ADDRESS_LABELS := by
  rw [labelFits, Bool.or_eq_true, decide_eq_true_eq] at hfits
  refine hfits.resolve_left fun hany => ?_
  obtain ⟨existing, hexisting, hsame⟩ := List.any_eq_true.mp hany
  obtain ⟨row, hrow, rfl⟩ := List.mem_map.mp hexisting
  obtain ⟨hrow, hid⟩ := List.mem_filter.mp hrow
  have hfolded : row ∈ db.folded lower memberId label :=
    List.mem_filter.mpr ⟨hrow, by simpa [hlower _ _ hsame] using hid⟩
  rw [hnew] at hfolded
  cases hfolded

lemma withinLimit_of_commits (hlower : ∀ a b, eqIgnoreAsciiCase a b = true → lower a = lower b)
    (h : Commits lower db write event db') (hlimit : WithinLimit db)
    (hfits : ∀ memberId label, write = .addLabel memberId label →
      labelFits (db.labelsOf memberId) label = true) : WithinLimit db' := by
  intro other
  rw [h.result]
  cases write with
  | addLabel memberId label =>
    rw [labelsOf_addLabel, List.length_append]
    have hroom := room_of_fits hlower h.guard (hfits memberId label rfl)
    have hother := hlimit other
    by_cases heq : memberId = other
    · subst heq
      rw [if_pos rfl, List.length_singleton]
      omega
    · rw [if_neg heq, List.length_nil]
      omega
  | removeLabel memberId label => exact (labelsOf_removeLabel_le _ _ _).trans (hlimit other)
  | _ => exact hlimit other

lemma labelStep_of_commits (hsound : Sound lower db) (h : Commits lower db write event db') :
    LabelStep lower db db' := by
  have hevents : db'.events = db.events ++ [event] := by
    rw [h.result, commitWrite_events, Option.toList_some]
  have hsame (hlabels : db'.labels = db.labels) (hevent : isLabelEvent event = false) :
      LabelStep lower db db' := by
    refine .same hlabels ?_
    rw [hevents, List.filter_append, List.filter_cons_of_neg (by simp [hevent]), List.filter_nil,
      List.append_nil]
  have hpayload := h.payload
  cases write with
  | addLabel memberId label =>
    exact .added memberId label event h.guard (by rw [h.result]; rfl) hevents hpayload
  | removeLabel memberId label =>
    -- the index has one row of the label
    obtain ⟨row, hrow⟩ : ∃ row, db.folded lower memberId label = [row] :=
      List.length_eq_one_iff.mp (le_antisymm (length_folded_le hsound memberId label)
        (List.length_pos_iff.mpr h.guard))
    have hmem : row ∈ db.folded lower memberId label := by simp [hrow]
    obtain ⟨rfl, hlabel⟩ : row.memberId = memberId ∧ lower row.label = lower label := by
      simpa using (List.mem_filter.mp hmem).2
    refine .removed row label event ?_ hlabel hevents hpayload
    have hperm := List.filter_append_perm (fun other : MemberLabel =>
      other.memberId == row.memberId && lower other.label == lower label) db.labels
    rw [← Db.folded, hrow] at hperm
    rw [h.result]
    exact hperm.symm
  | setStatus status =>
    refine hsame (by rw [h.result]; rfl) ?_
    cases status <;> simp [isLabelEvent, hpayload, Write.payload]
  | _ => exact hsame (by rw [h.result]; rfl) (by simp [isLabelEvent, hpayload, Write.payload])

end

/-! ### Runs -/

section

variable {s s' : State Db Session Key} {choices : List (Choice Session)}

lemma labelStep_of_step (h : Inv (Sound lower) (Ready lower) s) {c : Choice Session}
    (hstep : step (protocol lower) s c = some s') : LabelStep lower s.db s'.db := by
  rcases step_commits h hstep with hsame | ⟨-, -, write, event, -, -, -, -, hcommits⟩
  · exact .same (by rw [hsame]) (by rw [hsame])
  · exact labelStep_of_commits h.db hcommits

/-- **The limit on labels**: in a run in which every label that is committed passes the check of
the service on the labels committed before it, no member has more labels than the limit. In every
run the labels of a member are distinct up to case, and each row that comes or goes has exactly
its event. -/
theorem labels_withinLimit (hlower : ∀ a b, eqIgnoreAsciiCase a b = true → lower a = lower b)
    (h : After lower choices s)
    (hfits : Along (step (protocol lower)) StillFits (start noWorkspace 0) choices) :
    WithinLimit s.db ∧ Distinct lower s.db ∧
      ∀ c s', step (protocol lower) s c = some s' → LabelStep lower s.db s'.db := by
  have hinv := inv_of_after h
  refine ⟨?_, distinct_of_sound hinv.db, fun c s' => labelStep_of_step hinv⟩
  refine along_commits (fun _ => Nat.zero_le _) ?_ h hfits
  intro s session req write event db' hfits hreq hphase hcommits hlimit
  refine withinLimit_of_commits hlower hcommits hlimit ?_
  rintro memberId label rfl
  exact hfits req memberId label _ hreq hphase

end

/-! ### Requests one after another -/

/-- The request is past the check of the service, and is not done. -/
def pastCheck : Phase → Bool
  | .arrived | .sawWorkspace _ | .unchanged _ | .refused => false
  | _ => true

/-- A label of the member is committed while the request of the session is past its check. -/
def AddedDuring (memberId : String) (session : ℕ) (s : State Db Session Key) :
    Choice Session → Prop
  | .advance other =>
    (∃ req label event, s.sessions other = some req ∧
      req.phase = .logged (.addLabel memberId label) event) ∧
      ∃ req, s.sessions session = some req ∧ pastCheck req.phase = true
  | _ => False

/-- A label of the member has been committed since the request of the session passed its check. -/
def AddedSince (lower : String → String) (memberId : String) (session : ℕ)
    (choices : List (Choice Session)) : Prop :=
  Since (step (protocol lower)) (AddedDuring memberId session) (Stays session)
    (start noWorkspace 0) choices

/-- Where a label is committed and the room is used up, no other label of the member has been
committed since the check. -/
def Spaced (lower : String → String) (choices : List (Choice Session)) : Prop :=
  ∀ before session rest t req memberId label event,
    choices = before ++ .advance session :: rest → After lower before t →
    t.sessions session = some req → req.phase = .logged (.addLabel memberId label) event →
    MAX_ADDRESS_LABELS ≤ (t.db.labelsOf memberId).length → ¬AddedSince lower memberId session before

/-- What a request for a label relies on: its label passes the check, or another came since. -/
def Checked (lower : String → String) (choices : List (Choice Session))
    (s : State Db Session Key) : Prop :=
  ∀ session req memberId value label, s.sessions session = some req →
    req.request = .addLabel memberId value → normalizeRequired value 64 = some label →
    pastCheck req.phase = true →
      labelFits (s.db.labelsOf memberId) label = true ∨ AddedSince lower memberId session choices

/-- A request for a label gets past the check by the check. -/
lemma pastCheck_leads {session session' : Session} {memberId value : String}
    (hrequest : session.request = .addLabel memberId value)
    (hleads : (session.next lower).Leads session') (hpast : pastCheck session'.phase = true) :
    pastCheck session.phase = true ∨ ∃ status, session.phase = .sawWorkspace status := by
  obtain ⟨request, eventId, phase⟩ := session
  obtain rfl : request = .addLabel memberId value := hrequest
  cases phase with
  | arrived =>
    obtain ⟨db, rfl⟩ := hleads
    cases hstatus : db.status <;> simp [Session.enter, hstatus, pastCheck] at hpast
  | sawWorkspace status => exact .inr ⟨status, rfl⟩
  | unchanged | refused => exact hleads.elim
  | _ => exact .inl rfl

lemma fits_of_check {session : Session} {status : WorkspaceStatus} {memberId value label : String}
    {db : Db} {s' : Session} (hrequest : session.request = .addLabel memberId value)
    (hphase : session.phase = .sawWorkspace status)
    (hlabel : normalizeRequired value 64 = some label)
    (hread : ∀ next, session.next lower = .read next → s' = next db)
    (hpast : pastCheck s'.phase = true) : labelFits (db.labelsOf memberId) label = true := by
  obtain ⟨request, eventId, phase⟩ := session
  obtain rfl : request = .addLabel memberId value := hrequest
  obtain rfl : phase = .sawWorkspace status := hphase
  rw [hread _ rfl, hlabel] at hpast
  simp only [Session.enter] at hpast
  split at hpast
  · rename_i hchecked
    exact hchecked.2.2
  · cases hpast

lemma labelFits_of_sublist {labels labels' : List String} {label : String}
    (hsub : labels'.Sublist labels) (hlimit : labels.length ≤ MAX_ADDRESS_LABELS)
    (hfits : labelFits labels label = true) : labelFits labels' label = true := by
  by_cases hsame : labels'.length = labels.length
  · rw [hsub.eq_of_length hsame]
    exact hfits
  · have hle := hsub.length_le
    rw [labelFits, Bool.or_eq_true, decide_eq_true_eq]
    exact .inr (by omega)

section

variable {s s' : State Db Session Key} {choices : List (Choice Session)}

/-- **One step** leaves the labels of the member fitting, or adds one. -/
lemma checked_step (h : After lower choices s) (hlimit : WithinLimit s.db)
    (hchecked : Checked lower choices s) {c : Choice Session}
    (hstep : step (protocol lower) s c = some s') : Checked lower (choices ++ [c]) s' := by
  intro session req' memberId value label hreq' hrequest hlabel hpast
  have hkept : KeptOrBroken (protocol lower)
      (fun req => req.request = .addLabel memberId value ∧ pastCheck req.phase = true)
      (fun db => labelFits (db.labelsOf memberId) label = true) (AddedDuring memberId)
      (start noWorkspace 0) choices s := fun session req hreq hrests =>
    hchecked session req memberId value label hreq hrests.1 hlabel hrests.2
  refine hkept.after_step h hstep ?_ ?_ ?_ session req' hreq' ⟨hrequest, hpast⟩
  · rintro req hnew ⟨-, hpast⟩
    have harrived : req.phase = .arrived := by simpa [protocol] using hnew
    simp [harrived, pastCheck] at hpast
  · rintro req req' hleads ⟨hrequest, hpast⟩
    rw [request_leads hleads] at hrequest
    rcases pastCheck_leads hrequest hleads hpast with hbefore | ⟨status, hphase⟩
    · exact .inl ⟨hrequest, hbefore⟩
    · exact .inr fun db hread => fits_of_check hrequest hphase hlabel hread hpast
  · rintro session req hreq ⟨-, hpast⟩ hfits
    rcases step_commits (inv_of_after h) hstep with hdb |
      ⟨adder, other, write, event, rfl, hother, hphase, -, hcommits⟩
    · exact .inl (hdb ▸ hfits)
    rw [hcommits.result]
    cases write with
    | addLabel otherId added =>
      by_cases hsame : otherId = memberId
      · subst hsame
        exact .inr ⟨⟨other, added, _, hother, hphase⟩, req, hreq, hpast⟩
      · rw [labelsOf_addLabel, if_neg hsame, List.append_nil]
        exact .inl hfits
    | removeLabel otherId removed =>
      exact .inl (labelFits_of_sublist (sublist_labelsOf_removeLabel otherId removed memberId)
        (hlimit memberId) hfits)
    | _ => exact .inl hfits

lemma request_of_logged (h : After lower choices s) {session : ℕ} {req : Session}
    (hreq : s.sessions session = some req) {memberId label : String}
    {event : Option ActivityEvent} (hphase : req.phase = .logged (.addLabel memberId label) event) :
    ∃ value, req.request = .addLabel memberId value ∧ normalizeRequired value 64 = some label := by
  have hown : IsFor (.addLabel memberId label) req.request := by
    simpa [Own, hphase] using own_of_after h hreq
  cases hrequest : req.request with
  | addLabel otherId value =>
    rw [hrequest] at hown
    obtain ⟨label', hlabel, heq⟩ := hown
    cases heq
    exact ⟨value, rfl, hlabel⟩
  | _ => simp [hrequest, IsFor] at hown

/-- A label that is committed fits, if the requests are spaced. -/
lemma fits_of_checked {before rest : List (Choice Session)} {session : ℕ} {req : Session}
    {memberId label : String} {event : Option ActivityEvent}
    (hspaced : Spaced lower (before ++ .advance session :: rest)) (h : After lower before s)
    (hchecked : Checked lower before s) (hreq : s.sessions session = some req)
    (hphase : req.phase = .logged (.addLabel memberId label) event) :
    labelFits (s.db.labelsOf memberId) label = true := by
  obtain ⟨value, hrequest, hlabel⟩ := request_of_logged h hreq hphase
  have hpast : pastCheck req.phase = true := by rw [hphase]; rfl
  rcases hchecked session req memberId value label hreq hrequest hlabel hpast with hfits | hsince
  · exact hfits
  · rw [labelFits, Bool.or_eq_true, decide_eq_true_eq]
    refine .inr (Nat.lt_of_not_le fun hfull => ?_)
    exact hspaced before session rest s req memberId label event rfl h hreq hphase hfull hsince

/-- **The schedule decides**: every label that is committed passes the check on the labels
committed before it, if no other label of the member was committed since its own check where the
room is used up. -/
theorem stillFits_of_spaced (hlower : ∀ a b, eqIgnoreAsciiCase a b = true → lower a = lower b)
    (hspaced : Spaced lower choices) :
    Along (step (protocol lower)) StillFits (start noWorkspace 0) choices := by
  have hkeeps (before rest : List (Choice Session)) (t : State Db Session Key)
      (hsplit : choices = before ++ rest) (ht : After lower before t) :
      WithinLimit t.db ∧ Checked lower before t := by
    refine inv_of_history (fun before t => WithinLimit t.db ∧ Checked lower before t)
      ⟨fun _ => Nat.zero_le _, by rintro session req memberId value label ⟨⟩⟩ ?_ ht
    rintro earlier c rest' u u' hsplit' hu ⟨hlimit, hchecked⟩ hstep
    refine ⟨?_, checked_step hu hlimit hchecked hstep⟩
    rcases step_commits (inv_of_after hu) hstep with hdb |
      ⟨session, req, write, event, rfl, hreq, hphase, -, hcommits⟩
    · rw [hdb]
      exact hlimit
    refine withinLimit_of_commits hlower hcommits hlimit ?_
    rintro memberId label rfl
    rw [hsplit, hsplit', List.append_assoc] at hspaced
    exact fits_of_checked hspaced hu hchecked hreq hphase
  refine along_of_history fun before c rest t hsplit ht => ?_
  obtain ⟨-, hchecked⟩ := hkeeps before (c :: rest) t hsplit ht
  cases c with
  | advance session =>
    intro req memberId label event hreq hphase
    exact fits_of_checked (hsplit ▸ hspaced) ht hchecked hreq hphase
  | _ => trivial

end

/-! ### Runs at the limit -/

def stillFits (s : State Db Session Key) : Choice Session → Bool
  | .advance session =>
    match (s.sessions session).map Session.phase with
    | some (.logged (.addLabel memberId label) _) => labelFits (s.db.labelsOf memberId) label
    | _ => true
  | _ => true

lemma stillFits_sound (s : State Db Session Key) (c : Choice Session) (h : stillFits s c = true) :
    StillFits s c := by
  cases c with
  | advance session =>
    intro req memberId label event hreq hphase
    simpa [stillFits, hreq, hphase] using h
  | _ => trivial

def addLabel (label : String) : List (Choice Session) :=
  arrival 0 (.addLabel "m" label) ("l" ++ label) :: advances 0 7

lemma oneLabel_fits : checkAlong (step (protocol toAsciiLowercase)) stillFits
    (start noWorkspace 0) (setup ++ addLabel "a") = true := by
  decide +kernel

lemma oneLabel_labels :
    (run (step (protocol toAsciiLowercase)) (start noWorkspace 0) (setup ++ addLabel "a")).map
      (fun s => s.db.labelsOf "m") = some ["a"] := by
  decide +kernel

theorem labels_withinLimit_one : ∃ s, After toAsciiLowercase (setup ++ addLabel "a") s ∧
    s.db.labelsOf "m" = ["a"] ∧ WithinLimit s.db := by
  obtain ⟨s, hrun, hlabels⟩ := Option.map_eq_some_iff.mp oneLabel_labels
  have hlower (a b : String) (h : eqIgnoreAsciiCase a b = true) :
      toAsciiLowercase a = toAsciiLowercase b := by
    simpa [eqIgnoreAsciiCase] using h
  exact ⟨s, hrun, hlabels,
    (labels_withinLimit hlower hrun (along_of_checkAlong stillFits_sound oneLabel_fits)).1⟩

/-- Two requests read the nineteen labels of a member, and then each adds one. -/
def race : List (Choice Session) := List.flatten
  [setup, ["a", "b", "c", "d", "e", "f", "g", "h", "i", "j", "k", "l", "m", "n", "o", "p", "q", "r",
      "s"].flatMap addLabel,
    [arrival 0 (.addLabel "m" "t") "lt", arrival 1 (.addLabel "m" "u") "lu"],
    advances 0 2, advances 1 2, advances 0 5, advances 1 5]

lemma race_labels :
    (run (step (protocol toAsciiLowercase)) (start noWorkspace 0) race).map
      (fun s => (s.db.labelsOf "m").length) = some 21 := by
  decide +kernel

theorem race_overLimit : ∃ s, After toAsciiLowercase race s ∧ (s.db.labelsOf "m").length = 21 ∧
    ¬WithinLimit s.db := by
  obtain ⟨s, hrun, hlabels⟩ := Option.map_eq_some_iff.mp race_labels
  refine ⟨s, hrun, hlabels, fun hlimit => ?_⟩
  have hle := hlimit "m"
  rw [hlabels] at hle
  exact absurd hle (by decide)

end MotherApi.WorkspaceLabels
