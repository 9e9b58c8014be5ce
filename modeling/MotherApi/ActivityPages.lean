import MotherApi.Lib.Groups
import MotherApi.Strings
import Mathlib.Data.Prod.Lex
import Mathlib.Data.String.Basic

/-!
The pages of the activity log of a workspace.

A page is asked for with a limit and a cursor, the public id of an event. The database is asked
for one event more than the limit, and if there is one more, the last event of the page is the
cursor for the next. A client that follows the cursors reads the log from its newest event down,
each event once.

An event has more columns than the listing looks at: they are the payload here.
-/

namespace MotherApi.ActivityPages

open MotherApi.Lib.Groups MotherApi.Strings

/-! ### The log -/

/-- The constraint on public ids: `^wae_[0-9a-f]{32}$`. -/
def PublicIdValid (publicId : String) : Prop :=
  ∃ digits : List Char, publicId.toList = "wae_".toList ++ digits ∧ digits.length = 32 ∧
    ∀ digit ∈ digits, '0' ≤ digit ∧ digit ≤ '9' ∨ 'a' ≤ digit ∧ digit ≤ 'f'

structure ActivityRow (Time Payload : Type) where
  publicId : String
  workspaceId : ℕ
  occurredAt : Time
  payload : Payload
  publicIdValid : PublicIdValid publicId

/-- The events of all workspaces. A public id is unique. -/
structure ActivityLog (Time Payload : Type) where
  rows : List (ActivityRow Time Payload)
  unique : (rows.map (·.publicId)).Nodup

variable {Time Payload : Type} [LinearOrder Time]

/-- Where an event stands in time, and by its public id among those of the same time. -/
def ActivityRow.position (row : ActivityRow Time Payload) : Time ×ₗ String :=
  toLex (row.occurredAt, row.publicId)

/-- The condition on the rows of a listing. The cursor is looked up, and nothing is before a
cursor that is not there. -/
def isBefore (log : ActivityLog Time Payload) (workspaceId : ℕ) (before : Option String)
    (row : ActivityRow Time Payload) : Bool :=
  match before with
  | none => true
  | some cursor =>
    (log.rows.find? fun other => other.workspaceId == workspaceId && other.publicId == cursor).any
      fun other => row.position < other.position

def listActivity (log : ActivityLog Time Payload) (workspaceId : ℕ) (before : Option String)
    (limit : ℕ) : List (ActivityRow Time Payload) :=
  let rows := log.rows.filter fun row =>
    row.workspaceId == workspaceId && isBefore log workspaceId before row
  (rows.insertionSort fun a b => b.position ≤ a.position).take limit

/-! ### Pages -/

structure ActivityQuery where
  limit : Option UInt16
  before : Option String

/-- The characters are ASCII where this holds, so they are the bytes. -/
def isEventId (value : String) : Bool :=
  let characters := value.toList
  characters.length == 36 && characters.take 4 == "wae_".toList &&
    (characters.drop 4).all fun character => isAsciiHexdigit character && !character.isUpper

def activityPage (query : ActivityQuery) : Option (ℕ × Option String) :=
  let limit := query.limit.getD 50
  if limit = 0 ∨ limit > 100 ∨ query.before.any (fun value => !isEventId value) then none
  else some (limit.toNat, query.before)

/-- The events of a page, and the cursor for the next. -/
def activityEvents (log : ActivityLog Time Payload) (workspaceId limit : ℕ)
    (before : Option String) : List (ActivityRow Time Payload) × Option String :=
  let events := listActivity log workspaceId before (limit + 1)
  if events.length > limit then
    let events := events.dropLast
    (events, events.getLast?.map (·.publicId))
  else (events, none)

/-- The pages that a client reads who follows the cursors, up to so many of them: nothing if a
query is refused, or if there are more. -/
def follow (log : ActivityLog Time Payload) (workspaceId : ℕ) :
    ℕ → (ℕ → Option UInt16) → Option String →
      Option (List (List (ActivityRow Time Payload) × Option String))
  | 0, _, _ => none
  | fuel + 1, limits, before => do
    let (limit, before) ← activityPage ⟨limits 0, before⟩
    let page := activityEvents log workspaceId limit before
    match page.2 with
    | none => some [page]
    | some cursor => do
      let pages ← follow log workspaceId fuel (fun index => limits (index + 1)) (some cursor)
      return page :: pages

/-! ### Public ids as cursors -/

lemma hexdigit_of_range {digit : Char}
    (h : '0' ≤ digit ∧ digit ≤ '9' ∨ 'a' ≤ digit ∧ digit ≤ 'f') :
    isAsciiHexdigit digit = true ∧ digit.isUpper = false := by
  have hupper : digit.isUpper = decide (65 ≤ digit.val ∧ digit.val ≤ 90) := rfl
  simp only [Char.le_def, UInt32.le_iff_toNat_le] at h
  simp only [isAsciiHexdigit, Char.isDigit, hupper, Char.le_def, UInt32.le_iff_toNat_le,
    ge_iff_le, Bool.or_eq_true, Bool.and_eq_true, decide_eq_true_eq,
    decide_eq_false_iff_not]
  simp only [UInt32.reduceToNat, Char.reduceVal] at h ⊢
  omega

lemma isEventId_of_publicIdValid {publicId : String} (h : PublicIdValid publicId) :
    isEventId publicId = true := by
  obtain ⟨digits, heq, hlength, hdigits⟩ := h
  have hdrop : publicId.toList.drop 4 = digits := by rw [heq]; rfl
  have htake : publicId.toList.take 4 = "wae_".toList := by rw [heq]; rfl
  have hsize : publicId.toList.length = 36 := by
    rw [heq, List.length_append, hlength]
    rfl
  simp only [isEventId, hsize, htake, hdrop, Bool.and_eq_true, List.all_eq_true]
  refine ⟨⟨rfl, by simp⟩, fun digit hdigit => ?_⟩
  obtain ⟨hhex, hupper⟩ := hexdigit_of_range (hdigits digit hdigit)
  exact ⟨hhex, by rw [hupper]; rfl⟩

lemma activityPage_eq {limit : Option UInt16} {before : Option String}
    (hlimit : 1 ≤ limit.getD 50 ∧ limit.getD 50 ≤ 100)
    (hbefore : ∀ cursor ∈ before, isEventId cursor = true) :
    activityPage ⟨limit, before⟩ = some ((limit.getD 50).toNat, before) := by
  rw [activityPage, if_neg]
  rintro (hzero | hlarge | hrefused)
  · rw [hzero] at hlimit
    exact absurd hlimit.1 (by decide)
  · exact absurd hlarge (UInt16.not_lt.mpr hlimit.2)
  · obtain ⟨cursor, hcursor, hnot⟩ := Option.any_eq_true _ _ |>.mp hrefused
    simp [hbefore cursor hcursor] at hnot

/-! ### One page -/

/-- The events of a workspace, the newest first. -/
def timeline (log : ActivityLog Time Payload) (workspaceId : ℕ) : List (ActivityRow Time Payload) :=
  (log.rows.filter (·.workspaceId == workspaceId)).insertionSort fun a b => b.position ≤ a.position

variable {log : ActivityLog Time Payload} {workspaceId : ℕ}
  {done rest : List (ActivityRow Time Payload)}

omit [LinearOrder Time] in
lemma nodup_position (log : ActivityLog Time Payload) (p : ActivityRow Time Payload → Bool) :
    ((log.rows.filter p).map fun row => OrderDual.toDual row.position).Nodup := by
  have hids : ((log.rows.filter p).map (·.publicId)).Nodup :=
    log.unique.sublist (List.filter_sublist.map _)
  refine (List.Nodup.of_map _ hids).map_on ?_
  intro row hrow other hother heq
  refine List.inj_on_of_nodup_map hids hrow hother ?_
  exact congrArg (fun position => (ofLex position).2) (OrderDual.toDual_inj.mp heq)

lemma timeline_perm : (timeline log workspaceId).Perm
    (log.rows.filter (·.workspaceId == workspaceId)) :=
  List.perm_insertionSort _ _

lemma timeline_descending :
    (timeline log workspaceId).Pairwise fun a b => b.position < a.position :=
  pairwise_lt_insertionSort (nodup_position log _)

/-- Without a cursor a listing starts at the newest event. -/
lemma listActivity_none (limit : ℕ) :
    listActivity log workspaceId none limit = (timeline log workspaceId).take limit := by
  simp [listActivity, isBefore, timeline]

omit [LinearOrder Time] in
lemma find?_cursor {row : ActivityRow Time Payload} (hrow : row ∈ log.rows)
    (hworkspace : row.workspaceId = workspaceId) :
    log.rows.find? (fun other =>
      other.workspaceId == workspaceId && other.publicId == row.publicId) = some row := by
  cases hfind : log.rows.find? fun other =>
      other.workspaceId == workspaceId && other.publicId == row.publicId with
  | none => simpa [hworkspace] using List.find?_eq_none.mp hfind row hrow
  | some found =>
    have hid : found.publicId = row.publicId := by
      have := List.find?_some hfind
      simp only [Bool.and_eq_true, beq_iff_eq] at this
      exact this.2
    rw [List.inj_on_of_nodup_map log.unique (List.mem_of_find?_eq_some hfind) hrow hid]

/-- After the events that were read, a listing goes on with the next. -/
lemma listActivity_some {last : ActivityRow Time Payload}
    (h : timeline log workspaceId = done ++ last :: rest) (limit : ℕ) :
    listActivity log workspaceId (some last.publicId) limit = rest.take limit := by
  have hlast : last ∈ log.rows ∧ last.workspaceId = workspaceId := by
    have hmem : last ∈ timeline log workspaceId := by simp [h]
    simpa using timeline_perm.mem_iff.mp hmem
  have hfilter : (log.rows.filter fun row => row.workspaceId == workspaceId &&
      isBefore log workspaceId (some last.publicId) row) =
      (log.rows.filter (·.workspaceId == workspaceId)).filter fun row =>
        row.position < last.position := by
    rw [List.filter_filter]
    refine List.filter_congr fun row _ => ?_
    simp [isBefore, find?_cursor hlast.1 hlast.2, Bool.and_comm]
  have hsort := filter_insertionSort (nodup_position log (·.workspaceId == workspaceId))
    fun row => row.position < last.position
  have hafter := h ▸ filter_lt_of_pairwise (f := fun row : ActivityRow Time Payload =>
    OrderDual.toDual row.position) (h ▸ timeline_descending)
  rw [listActivity, hfilter]
  exact congrArg (List.take limit) (hsort.symm.trans hafter)

/-- The cursor of the events that were read. -/
def cursorOf (done : List (ActivityRow Time Payload)) : Option String :=
  done.getLast?.map (·.publicId)

lemma listActivity_eq (h : timeline log workspaceId = done ++ rest) (limit : ℕ) :
    listActivity log workspaceId (cursorOf done) limit = rest.take limit := by
  cases hdone : done.getLast? with
  | none =>
    obtain rfl := List.getLast?_eq_none_iff.mp hdone
    rw [cursorOf, List.getLast?_nil, Option.map_none, listActivity_none, h, List.nil_append]
  | some last =>
    obtain ⟨before, rfl⟩ := List.getLast?_eq_some_iff.mp hdone
    rw [cursorOf, hdone, Option.map_some]
    exact listActivity_some (by simpa using h) limit

/-- **A page** is the next events up to the limit, with a cursor exactly if there are more. -/
theorem activityEvents_eq (h : timeline log workspaceId = done ++ rest) (limit : ℕ) :
    activityEvents log workspaceId limit (cursorOf done) =
      (rest.take limit, if limit < rest.length then cursorOf (rest.take limit) else none) := by
  rw [activityEvents, listActivity_eq h]
  by_cases hmore : limit < rest.length
  · have hlength : (rest.take (limit + 1)).length = limit + 1 := by
      rw [List.length_take]
      omega
    have hdrop : (rest.take (limit + 1)).dropLast = rest.take limit := by
      rw [List.dropLast_eq_take, hlength, List.take_take]
      congr 1
      omega
    rw [if_pos hmore, if_pos (by omega)]
    simp only [hdrop]
    rfl
  · have hlength : ¬limit < (rest.take (limit + 1)).length := by
      rw [List.length_take]
      omega
    rw [if_neg hmore, if_neg hlength, List.take_of_length_le (by omega),
      List.take_of_length_le (by omega)]

/-! ### All pages -/

omit [LinearOrder Time] in
lemma cursorOf_append {first second : List (ActivityRow Time Payload)} (hne : second ≠ []) :
    cursorOf (first ++ second) = cursorOf second := by
  rw [cursorOf, List.getLast?_append_of_ne_nil _ hne, cursorOf]

omit [LinearOrder Time] in
lemma isEventId_of_mem_cursorOf {rows : List (ActivityRow Time Payload)} {cursor : String}
    (h : cursor ∈ cursorOf rows) : isEventId cursor = true := by
  obtain ⟨row, -, rfl⟩ := Option.map_eq_some_iff.mp h
  exact isEventId_of_publicIdValid row.publicIdValid

/-- The last page, and only that, has no cursor. -/
def EndsAtLast (pages : List (List (ActivityRow Time Payload) × Option String)) : Prop :=
  ∃ front last, pages = front ++ [last] ∧ last.2 = none ∧ ∀ page ∈ front, page.2.isSome = true

/-- The client who has read some events reads the rest. -/
lemma follow_rest {fuel : ℕ} {limits : ℕ → Option UInt16}
    (hlimits : ∀ index, 1 ≤ (limits index).getD 50 ∧ (limits index).getD 50 ≤ 100)
    (h : timeline log workspaceId = done ++ rest) (hfuel : rest.length < fuel) :
    ∃ pages, follow log workspaceId fuel limits (cursorOf done) = some pages ∧
      pages.flatMap (·.1) = rest ∧ EndsAtLast pages ∧
      ∀ page ∈ pages, ∀ cursor ∈ page.2, isEventId cursor = true := by
  induction fuel generalizing limits done rest with
  | zero => omega
  | succ fuel ih =>
    have hpage : activityPage ⟨limits 0, cursorOf done⟩ =
        some (((limits 0).getD 50).toNat, cursorOf done) :=
      activityPage_eq (hlimits 0) fun cursor hcursor => isEventId_of_mem_cursorOf hcursor
    have hpos : 0 < ((limits 0).getD 50).toNat := UInt16.le_iff_toNat_le.mp (hlimits 0).1
    generalize hlimit : ((limits 0).getD 50).toNat = limit at hpage hpos
    by_cases hmore : limit < rest.length
    · have hne : rest.take limit ≠ [] := by
        rw [← List.length_pos_iff, List.length_take]
        omega
      obtain ⟨cursor, hcursor⟩ : ∃ cursor, cursorOf (rest.take limit) = some cursor :=
        ⟨_, congrArg (Option.map _) (List.getLast?_eq_some_getLast hne)⟩
      have hsplit : timeline log workspaceId = (done ++ rest.take limit) ++ rest.drop limit := by
        rw [h, List.append_assoc, List.take_append_drop]
      have hshorter : (rest.drop limit).length < fuel := by
        rw [List.length_drop]
        omega
      obtain ⟨pages, hfollow, hrest, ⟨front, last, hpages, hlast, hfront⟩, hcursors⟩ :=
        ih (fun index => hlimits (index + 1)) hsplit hshorter
      rw [cursorOf_append hne, hcursor] at hfollow
      refine ⟨(rest.take limit, some cursor) :: pages, ?_, ?_, ?_, ?_⟩
      · rw [follow, hpage]
        simp only [Option.bind_eq_bind, Option.bind_some, activityEvents_eq h, if_pos hmore,
          hcursor, hfollow, Option.pure_def]
      · rw [List.flatMap_cons, hrest, List.take_append_drop]
      · refine ⟨(rest.take limit, some cursor) :: front, last, by rw [hpages]; rfl, hlast, ?_⟩
        intro page hpage
        rcases List.mem_cons.mp hpage with rfl | hpage
        · rfl
        · exact hfront page hpage
      · intro page hpage other hother
        rcases List.mem_cons.mp hpage with rfl | hpage
        · exact isEventId_of_mem_cursorOf (hcursor.trans hother)
        · exact hcursors page hpage other hother
    · refine ⟨[(rest, none)], ?_, by simp, ⟨[], (rest, none), rfl, rfl, by simp⟩, by simp⟩
      rw [follow, hpage]
      simp only [Option.bind_eq_bind, Option.bind_some, activityEvents_eq h, if_neg hmore,
        List.take_of_length_le (not_lt.mp hmore)]

/-- **The pages are the log**: whatever the limits, a client who starts without a cursor and
follows the cursors comes to an end, and has then read the events of the workspace from the newest
down, each once. Only the last page is without a cursor, and every cursor is accepted. -/
theorem follow_enumerates {limits : ℕ → Option UInt16}
    (hlimits : ∀ index, 1 ≤ (limits index).getD 50 ∧ (limits index).getD 50 ≤ 100) {fuel : ℕ}
    (hfuel : (log.rows.filter (·.workspaceId == workspaceId)).length < fuel) :
    ∃ pages, follow log workspaceId fuel limits none = some pages ∧
      (pages.flatMap (·.1)).Perm (log.rows.filter (·.workspaceId == workspaceId)) ∧
      (pages.flatMap (·.1)).Pairwise (fun a b => b.position < a.position) ∧
      EndsAtLast pages ∧
      ∀ page ∈ pages, ∀ cursor ∈ page.2, ∀ limit : Option UInt16,
        1 ≤ limit.getD 50 ∧ limit.getD 50 ≤ 100 →
          activityPage ⟨limit, some cursor⟩ = some ((limit.getD 50).toNat, some cursor) := by
  rw [← timeline_perm.length_eq] at hfuel
  have hall : timeline log workspaceId = [] ++ timeline log workspaceId := (List.nil_append _).symm
  obtain ⟨pages, hfollow, hrest, hends, hcursors⟩ := follow_rest hlimits hall hfuel
  refine ⟨pages, hfollow, hrest ▸ timeline_perm, hrest ▸ timeline_descending, hends, ?_⟩
  intro page hpage cursor hcursor limit hlimit
  refine activityPage_eq hlimit fun other hother => ?_
  rw [← Option.some.inj hother]
  exact hcursors page hpage cursor hcursor

def sampleRow (digit : Char) (hdigit : '0' ≤ digit ∧ digit ≤ '9') (workspaceId occurredAt : ℕ) :
    ActivityRow ℕ Unit where
  publicId := String.ofList ("wae_".toList ++ List.replicate 32 digit)
  workspaceId := workspaceId
  occurredAt := occurredAt
  payload := ()
  publicIdValid := by
    refine ⟨List.replicate 32 digit, String.toList_ofList, List.length_replicate, ?_⟩
    intro other hother
    rw [List.eq_of_mem_replicate hother]
    exact .inl hdigit

/-- Two events at one time, one before them, and one of another workspace. -/
def sampleLog : ActivityLog ℕ Unit where
  rows := [sampleRow '1' (by decide) 7 5, sampleRow '2' (by decide) 7 5,
    sampleRow '3' (by decide) 7 4, sampleRow '4' (by decide) 8 9]
  unique := by decide +kernel

lemma sampleLog_follow : (follow sampleLog 7 4 (fun _ => some 1) none).map
    (fun pages => pages.map fun page => page.1.map fun row => row.publicId.toList.drop 35) =
      some [[['2']], [['1']], [['3']]] := by
  decide +kernel

theorem follow_enumerates_sample : ∃ pages,
    follow sampleLog 7 4 (fun _ => some 1) none = some pages ∧
    pages.length = 3 ∧ (pages.flatMap (·.1)).Pairwise (fun a b => b.position < a.position) ∧
    EndsAtLast pages := by
  have hfuel : (sampleLog.rows.filter (·.workspaceId == 7)).length < 4 := by decide +kernel
  have hlimits (_ : ℕ) : 1 ≤ (some (1 : UInt16)).getD 50 ∧ (some (1 : UInt16)).getD 50 ≤ 100 := by
    decide
  obtain ⟨pages, hfollow, -, hdescending, hends, -⟩ := follow_enumerates hlimits hfuel
  refine ⟨pages, hfollow, ?_, hdescending, hends⟩
  have hpages := sampleLog_follow
  rw [hfollow, Option.map_some, Option.some.injEq] at hpages
  simpa using congrArg List.length hpages

end MotherApi.ActivityPages
