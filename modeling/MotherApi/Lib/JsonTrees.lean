import Mathlib.Data.List.Forall2
import Mathlib.Data.List.Sort
import Mathlib.Data.String.Basic

/-!
JSON trees, their order and their text.

The entries of an object stand in some order. Two trees that differ only in these orders become
equal when the keys are put in order at every depth. The text of a tree can be read back in one
way only: a value ends where a comma or a closing bracket stands that is not inside of it.
-/

namespace MotherApi.Lib.JsonTrees

inductive Value (ν : Type*)
  | null
  | bool (b : Bool)
  | number (n : ν)
  | string (s : String)
  | array (values : List (Value ν))
  | object (entries : List (String × Value ν))

variable {ν : Type*}

lemma sizeOf_lt_array {values : List (Value ν)} {value : Value ν} (h : value ∈ values) :
    sizeOf value < sizeOf (Value.array values) := by
  have hlt := List.sizeOf_lt_of_mem h
  simp only [Value.array.sizeOf_spec]
  omega

lemma sizeOf_lt_object {entries : List (String × Value ν)} {entry : String × Value ν}
    (h : entry ∈ entries) : sizeOf entry.2 < sizeOf (Value.object entries) := by
  have hlt := List.sizeOf_lt_of_mem h
  have hentry : sizeOf entry = 1 + sizeOf entry.1 + sizeOf entry.2 := rfl
  simp only [Value.object.sizeOf_spec]
  omega

/-- Induction over a tree, with what holds of the values inside. -/
@[elab_as_elim]
theorem Value.induct {P : Value ν → Prop} (null : P .null) (bool : ∀ b, P (.bool b))
    (number : ∀ n, P (.number n)) (string : ∀ s, P (.string s))
    (array : ∀ values, (∀ value ∈ values, P value) → P (.array values))
    (object : ∀ entries, (∀ entry ∈ entries, P entry.2) → P (.object entries)) (value : Value ν) :
    P value :=
  match value with
  | .null => null
  | .bool b => bool b
  | .number n => number n
  | .string s => string s
  | .array values =>
    array values fun value _ => Value.induct null bool number string array object value
  | .object entries =>
    object entries fun entry _ => Value.induct null bool number string array object entry.2
termination_by sizeOf value
decreasing_by
  · exact sizeOf_lt_array ‹_›
  · exact sizeOf_lt_object ‹_›

/-- The first tree stands somewhere in the second, which may be all of it. -/
inductive Inside : Value ν → Value ν → Prop
  | whole (v : Value ν) : Inside v v
  | element {v value : Value ν} {values : List (Value ν)} (mem : value ∈ values)
      (inside : Inside v value) : Inside v (.array values)
  | field {v : Value ν} {entry : String × Value ν} {entries : List (String × Value ν)}
      (mem : entry ∈ entries) (inside : Inside v entry.2) : Inside v (.object entries)

/-- No object in the tree has one of the keys. -/
def WithoutKeys (keys : List String) (v : Value ν) : Prop :=
  ∀ entries, Inside (.object entries) v → ∀ key ∈ keys, key ∉ entries.map Prod.fst

variable {keys : List String}

lemma withoutKeys_array {values : List (Value ν)} :
    WithoutKeys keys (.array values) ↔ ∀ value ∈ values, WithoutKeys keys value := by
  refine ⟨fun h value hmem entries hinside => h entries (.element hmem hinside), ?_⟩
  intro h entries hinside
  cases hinside with
  | element hmem hinside => exact h _ hmem entries hinside

lemma withoutKeys_object {entries : List (String × Value ν)} :
    WithoutKeys keys (.object entries) ↔
      (∀ key ∈ keys, key ∉ entries.map Prod.fst) ∧
        ∀ entry ∈ entries, WithoutKeys keys entry.2 := by
  refine ⟨fun h => ⟨h entries (.whole _), fun entry hmem inner hinside =>
    h inner (.field hmem hinside)⟩, ?_⟩
  rintro ⟨hkeys, hentries⟩ inner hinside
  cases hinside with
  | whole => exact hkeys
  | field hmem hinside => exact hentries _ hmem inner hinside

lemma withoutKeys_scalar {v : Value ν} (harray : ∀ values, v ≠ .array values)
    (hobject : ∀ entries, v ≠ .object entries) : WithoutKeys keys v := by
  intro entries hinside
  cases hinside with
  | whole => exact absurd rfl (hobject entries)
  | element _ _ => exact absurd rfl (harray _)
  | field _ _ => exact absurd rfl (hobject _)

/-! ### Order of the keys -/

/-- The same tree up to the order of the keys of its objects. -/
inductive SameUpToOrder : Value ν → Value ν → Prop
  | null : SameUpToOrder .null .null
  | bool (b : Bool) : SameUpToOrder (.bool b) (.bool b)
  | number (n : ν) : SameUpToOrder (.number n) (.number n)
  | string (s : String) : SameUpToOrder (.string s) (.string s)
  | array {values values' : List (Value ν)} (length : values.length = values'.length)
      (same : ∀ (i : ℕ) v v', values[i]? = some v → values'[i]? = some v' → SameUpToOrder v v') :
      SameUpToOrder (.array values) (.array values')
  | object {entries entries' : List (String × Value ν)}
      (keys : ∀ key, key ∈ entries.map Prod.fst ↔ key ∈ entries'.map Prod.fst)
      (same : ∀ key v v', (key, v) ∈ entries → (key, v') ∈ entries' → SameUpToOrder v v') :
      SameUpToOrder (.object entries) (.object entries')

/-- No object has a key twice, at any depth. -/
def DistinctKeys : Value ν → Prop
  | .array values => ∀ value ∈ values, DistinctKeys value
  | .object entries => (entries.map Prod.fst).Nodup ∧ ∀ entry ∈ entries, DistinctKeys entry.2
  | _ => True
termination_by value => sizeOf value
decreasing_by
  · exact sizeOf_lt_array ‹_›
  · exact sizeOf_lt_object ‹_›

/-- The entries in the order of their keys. -/
def sortByKey {α : Type*} (entries : List (String × α)) : List (String × α) :=
  entries.insertionSort fun entry entry' => entry.1 ≤ entry'.1

/-- The tree with the keys in order at every depth. -/
def inOrder : Value ν → Value ν
  | .array values => .array (values.map fun value => inOrder value)
  | .object entries => .object (sortByKey (entries.map fun entry => (entry.1, inOrder entry.2)))
  | value => value
termination_by value => sizeOf value
decreasing_by
  · exact sizeOf_lt_array ‹_›
  · exact sizeOf_lt_object ‹_›

lemma sortByKey_perm {α : Type*} (entries : List (String × α)) :
    (sortByKey entries).Perm entries :=
  List.perm_insertionSort _ entries

lemma map_sortByKey {α β : Type*} (f : α → β) (entries : List (String × α)) :
    (sortByKey entries).map (fun entry => (entry.1, f entry.2)) =
      sortByKey (entries.map fun entry => (entry.1, f entry.2)) :=
  List.map_insertionSort _ _ _ _ fun _ _ _ _ => Iff.rfl

lemma keys_sortByKey {α : Type*} (entries : List (String × α)) :
    (sortByKey entries).map Prod.fst = (entries.map Prod.fst).insertionSort (· ≤ ·) :=
  List.map_insertionSort _ _ _ _ fun _ _ _ _ => Iff.rfl

/-- Entries under distinct keys stand strictly in order. -/
lemma pairwise_sortByKey {α : Type*} {entries : List (String × α)}
    (hnodup : (entries.map Prod.fst).Nodup) :
    (sortByKey entries).Pairwise fun entry entry' => entry.1 < entry'.1 := by
  have hnodup : ((sortByKey entries).map Prod.fst).Nodup := by
    rwa [((sortByKey_perm entries).map Prod.fst).nodup_iff]
  have hsorted : ((sortByKey entries).map Prod.fst).Pairwise (· ≤ ·) := by
    rw [keys_sortByKey]
    exact List.pairwise_insertionSort _ _
  exact List.pairwise_map.mp
    (hsorted.imp₂ (fun _ _ hle hne => lt_of_le_of_ne hle hne) hnodup)

/-- Entries under distinct keys are the same in order as soon as they are the same entries. -/
lemma sortByKey_eq_iff {α : Type*} {entries entries' : List (String × α)}
    (hnodup : (entries.map Prod.fst).Nodup) (hnodup' : (entries'.map Prod.fst).Nodup) :
    sortByKey entries = sortByKey entries' ↔ ∀ entry, entry ∈ entries ↔ entry ∈ entries' := by
  constructor
  · intro heq entry
    rw [← (sortByKey_perm entries).mem_iff, heq, (sortByKey_perm entries').mem_iff]
  · intro hsame
    have hperm : entries.Perm entries' :=
      (List.perm_ext_iff_of_nodup hnodup.of_map hnodup'.of_map).mpr hsame
    have hsorted := pairwise_sortByKey hnodup
    have hsorted' := pairwise_sortByKey hnodup'
    refine List.Perm.eq_of_pairwise (fun entry entry' _ _ hlt hlt' => ?_) hsorted hsorted'
      ((sortByKey_perm _).trans (hperm.trans (sortByKey_perm _).symm))
    exact absurd hlt' hlt.asymm

lemma map_fst_inOrder (entries : List (String × Value ν)) :
    (entries.map fun entry => (entry.1, inOrder entry.2)).map Prod.fst = entries.map Prod.fst := by
  rw [List.map_map]
  rfl

lemma mem_map_inOrder {entries : List (String × Value ν)} {key : String} {value : Value ν} :
    (key, value) ∈ entries.map (fun entry => (entry.1, inOrder entry.2)) ↔
      ∃ v, (key, v) ∈ entries ∧ inOrder v = value := by
  simp [Prod.ext_iff]

lemma eq_of_mem_entries {α : Type*} {entries : List (String × α)}
    (hnodup : (entries.map Prod.fst).Nodup) {key : String} {v v' : α} (h : (key, v) ∈ entries)
    (h' : (key, v') ∈ entries) : v = v' :=
  congrArg Prod.snd (List.inj_on_of_nodup_map hnodup h h' rfl)

lemma inOrder_array {values : List (Value ν)} :
    inOrder (.array values) = .array (values.map inOrder) := by
  rw [inOrder]

lemma inOrder_object {entries : List (String × Value ν)} :
    inOrder (.object entries) =
      .object (sortByKey (entries.map fun entry => (entry.1, inOrder entry.2))) := by
  rw [inOrder]

lemma sameUpToOrder_of_inOrder_eq {v w : Value ν} (hv : DistinctKeys v) (hw : DistinctKeys w)
    (h : inOrder v = inOrder w) : SameUpToOrder v w := by
  induction v using Value.induct generalizing w with
  | null => cases w <;> simp [inOrder] at h; exact .null
  | bool b => cases w <;> simp [inOrder] at h; exact h ▸ .bool b
  | number n => cases w <;> simp [inOrder] at h; exact h ▸ .number n
  | string s => cases w <;> simp [inOrder] at h; exact h ▸ .string s
  | array values ih =>
    cases w with
    | array values' =>
      rw [inOrder_array, inOrder_array, Value.array.injEq] at h
      rw [DistinctKeys] at hv hw
      have hlength := congrArg List.length h
      simp only [List.length_map] at hlength
      refine .array hlength fun i v v' hi hi' => ?_
      have hmem := List.mem_of_getElem? hi
      refine ih v hmem (hv v hmem) (hw v' (List.mem_of_getElem? hi')) ?_
      have hat := congrArg (·[i]?) h
      simpa [hi, hi'] using hat
    | _ => simp [inOrder] at h
  | object entries ih =>
    cases w with
    | object entries' =>
      rw [inOrder_object, inOrder_object, Value.object.injEq] at h
      rw [DistinctKeys] at hv hw
      rw [sortByKey_eq_iff (by rw [map_fst_inOrder]; exact hv.1)
        (by rw [map_fst_inOrder]; exact hw.1)] at h
      refine .object (fun key => ?_) fun key v v' hmem hmem' => ?_
      · rw [← map_fst_inOrder entries, ← map_fst_inOrder entries', List.mem_map, List.mem_map]
        exact exists_congr fun entry => and_congr_left fun _ => h entry
      · refine ih (key, v) hmem (hv.2 _ hmem) (hw.2 _ hmem') ?_
        have hother := (h (key, inOrder v)).mp (mem_map_inOrder.mpr ⟨v, hmem, rfl⟩)
        obtain ⟨found, hfound, heq⟩ := mem_map_inOrder.mp hother
        rw [← heq, eq_of_mem_entries hw.1 hfound hmem']
    | _ => simp [inOrder] at h

lemma inOrder_eq_of_sameUpToOrder {v w : Value ν} (h : SameUpToOrder v w) (hv : DistinctKeys v)
    (hw : DistinctKeys w) : inOrder v = inOrder w := by
  induction h with
  | null => rfl
  | bool b => rfl
  | number n => rfl
  | string s => rfl
  | @array values values' hlength _ ih =>
    rw [DistinctKeys] at hv hw
    rw [inOrder_array, inOrder_array, Value.array.injEq]
    refine List.ext_getElem (by simpa using hlength) fun i hi hi' => ?_
    rw [List.length_map] at hi hi'
    rw [List.getElem_map, List.getElem_map]
    exact ih i _ _ (List.getElem?_eq_getElem hi) (List.getElem?_eq_getElem hi')
      (hv _ (List.getElem_mem hi)) (hw _ (List.getElem_mem hi'))
  | @object entries entries' hkeys _ ih =>
    rw [DistinctKeys] at hv hw
    rw [inOrder_object, inOrder_object, Value.object.injEq, sortByKey_eq_iff
      (by rw [map_fst_inOrder]; exact hv.1) (by rw [map_fst_inOrder]; exact hw.1)]
    have hsub : ∀ {l l' : List (String × Value ν)},
        (∀ key, key ∈ l.map Prod.fst → key ∈ l'.map Prod.fst) →
        (∀ key v v', (key, v) ∈ l → (key, v') ∈ l' → inOrder v = inOrder v') →
        ∀ entry, entry ∈ l.map (fun entry => (entry.1, inOrder entry.2)) →
          entry ∈ l'.map fun entry => (entry.1, inOrder entry.2) := by
      rintro l l' hkeys hsame ⟨key, value⟩ hentry
      obtain ⟨v, hmem, rfl⟩ := mem_map_inOrder.mp hentry
      obtain ⟨⟨_, v'⟩, hmem', rfl⟩ := List.mem_map.mp (hkeys key (List.mem_map_of_mem hmem))
      exact mem_map_inOrder.mpr ⟨v', hmem', (hsame _ v v' hmem hmem').symm⟩
    have hsame : ∀ key v v', (key, v) ∈ entries → (key, v') ∈ entries' →
        inOrder v = inOrder v' := fun key v v' hmem hmem' =>
      ih key v v' hmem hmem' (hv.2 _ hmem) (hw.2 _ hmem')
    intro entry
    exact ⟨hsub (fun key => (hkeys key).mp) hsame entry, hsub (fun key => (hkeys key).mpr)
      (fun key v v' hmem hmem' => (hsame key v' v hmem' hmem).symm) entry⟩

/-- **Putting keys in order** makes two trees equal exactly if they are the same up to the order
of their keys. -/
theorem inOrder_eq_iff {v w : Value ν} (hv : DistinctKeys v) (hw : DistinctKeys w) :
    inOrder v = inOrder w ↔ SameUpToOrder v w :=
  ⟨sameUpToOrder_of_inOrder_eq hv hw, fun h => inOrder_eq_of_sameUpToOrder h hv hw⟩

lemma sameUpToOrder_of_perm {entries entries' : List (String × Value ν)}
    (h : DistinctKeys (.object entries)) (hperm : entries.Perm entries') :
    SameUpToOrder (.object entries) (.object entries') := by
  rw [DistinctKeys] at h
  refine .object (fun key => (hperm.map Prod.fst).mem_iff) fun key v v' hmem hmem' => ?_
  obtain rfl := eq_of_mem_entries h.1 hmem (hperm.mem_iff.mpr hmem')
  exact (inOrder_eq_iff (h.2 _ hmem) (h.2 _ hmem)).mp rfl

/-! ### Text -/

/-- How numbers and strings are written. -/
structure Encoding (ν : Type*) where
  number : ν → List Char
  string : String → List Char

def isStructural (c : Char) : Bool := ['{', '}', '[', ']', ':', ',', '"'].contains c

/-- A text in which no quote stands but after a backslash, and no backslash is the last. -/
inductive Escaped : List Char → Prop
  | nil : Escaped []
  | plain {c : Char} {rest : List Char} (quote : c ≠ '"') (backslash : c ≠ '\\')
      (escaped : Escaped rest) : Escaped (c :: rest)
  | escape {rest : List Char} (c : Char) (escaped : Escaped rest) : Escaped ('\\' :: c :: rest)

/-- A text that is not empty and has no structural character. -/
structure Plain (text : List Char) : Prop where
  ne_nil : text ≠ []
  plain : ∀ c ∈ text, isStructural c = false

/-- Scalars and strings are written one to one, strings between quotes, and scalars without
structural characters. -/
structure Encoding.Lawful (encoding : Encoding ν) : Prop where
  number_injective : Function.Injective encoding.number
  number_plain : ∀ n, Plain (encoding.number n)
  number_ne_literal : ∀ n, encoding.number n ≠ ['n', 'u', 'l', 'l'] ∧
    encoding.number n ≠ ['t', 'r', 'u', 'e'] ∧ encoding.number n ≠ ['f', 'a', 'l', 's', 'e']
  string_injective : Function.Injective encoding.string
  string_quoted : ∀ s, ∃ body, Escaped body ∧ encoding.string s = '"' :: (body ++ ['"'])

section Text

variable (encoding : Encoding ν)

/-- The text of a tree, its entries in the order they stand in. -/
def print : Value ν → List Char
  | .null => ['n', 'u', 'l', 'l']
  | .bool b => if b then ['t', 'r', 'u', 'e'] else ['f', 'a', 'l', 's', 'e']
  | .number n => encoding.number n
  | .string s => encoding.string s
  | .array values => '[' :: ([','].intercalate (values.map fun value => print value) ++ [']'])
  | .object entries => '{' :: ([','].intercalate (entries.map fun entry =>
      encoding.string entry.1 ++ ':' :: print entry.2) ++ ['}'])
termination_by value => sizeOf value
decreasing_by
  · exact sizeOf_lt_array ‹_›
  · exact sizeOf_lt_object ‹_›

def printEntry (entry : String × Value ν) : List Char :=
  encoding.string entry.1 ++ ':' :: print encoding entry.2

lemma print_array (values : List (Value ν)) : print encoding (.array values) =
    '[' :: ([','].intercalate (values.map (print encoding)) ++ [']']) := by
  rw [print]

lemma print_object (entries : List (String × Value ν)) : print encoding (.object entries) =
    '{' :: ([','].intercalate (entries.map (printEntry encoding)) ++ ['}']) := by
  rw [print]
  rfl

end Text

/-! ### Reading in one way -/

/-- What may follow a value: nothing, a comma or a closing bracket. -/
def Ends (rest : List Char) : Prop :=
  ∀ c ∈ rest.head?, c = ',' ∨ c = ']' ∨ c = '}'

lemma ends_nil : Ends [] := by simp [Ends]

lemma ends_cons {c : Char} {rest : List Char} (h : c = ',' ∨ c = ']' ∨ c = '}') :
    Ends (c :: rest) := by
  simpa [Ends] using h

/-- A text that can be told apart from what follows it, among texts of its kind. -/
def Cancels {α : Type*} (text : α → List Char) (a : α) : Prop :=
  ∀ b rest rest', Ends rest → Ends rest' → text a ++ rest = text b ++ rest' →
    a = b ∧ rest = rest'

lemma plain_append_inj {text text' rest rest' : List Char} (h : Plain text) (h' : Plain text')
    (hrest : Ends rest) (hrest' : Ends rest') (heq : text ++ rest = text' ++ rest') :
    text = text' ∧ rest = rest' := by
  have htake : ∀ {text rest : List Char}, Plain text → Ends rest →
      (text ++ rest).takeWhile (fun c => !isStructural c) = text := by
    intro text rest htext hrest
    rw [List.takeWhile_append_of_pos (by simpa using htext.plain)]
    cases rest with
    | nil => simp
    | cons c rest =>
      have hc : isStructural c = true := by
        rcases hrest c rfl with rfl | rfl | rfl <;> decide
      simp [hc]
  have htext : text = text' := by rw [← htake h hrest, heq, htake h' hrest']
  subst htext
  exact ⟨rfl, List.append_cancel_left heq⟩

/-- The quote that closes a string is the first that no backslash stands before. -/
lemma escaped_append_inj {body body' rest rest' : List Char} (h : Escaped body)
    (h' : Escaped body') (heq : body ++ '"' :: rest = body' ++ '"' :: rest') :
    body = body' ∧ rest = rest' := by
  induction h generalizing body' with
  | nil =>
    cases h' with
    | nil => simpa using heq
    | plain hquote _ _ =>
      rw [List.nil_append, List.cons_append, List.cons.injEq] at heq
      exact absurd heq.1.symm hquote
    | escape c _ => simp at heq
  | plain hquote hbackslash _ ih =>
    cases h' with
    | nil =>
      rw [List.nil_append, List.cons_append, List.cons.injEq] at heq
      exact absurd heq.1 hquote
    | plain _ _ h' =>
      rw [List.cons_append, List.cons_append, List.cons.injEq] at heq
      obtain ⟨rfl, rfl⟩ := ih h' heq.2
      exact ⟨by rw [heq.1], rfl⟩
    | escape c _ =>
      rw [List.cons_append, List.cons_append, List.cons.injEq] at heq
      exact absurd heq.1 hbackslash
  | escape c _ ih =>
    cases h' with
    | nil => simp at heq
    | plain _ hbackslash _ =>
      simp only [List.cons_append, List.cons.injEq] at heq
      exact absurd heq.1.symm hbackslash
    | escape c' h' =>
      simp only [List.cons_append, List.cons.injEq, true_and] at heq
      obtain ⟨rfl, rfl⟩ := ih h' heq.2
      exact ⟨by rw [heq.1], rfl⟩

/-- Texts between commas and a closing bracket are read one by one. -/
lemma intercalate_inj {α : Type*} {text : α → List Char} {close : Char}
    (hclose : close = ']' ∨ close = '}')
    (hstart : ∀ a, ∃ c t, text a = c :: t ∧ c ≠ close) {l l' : List α}
    (hcancels : ∀ a ∈ l, Cancels text a) {rest rest' : List Char}
    (heq : [','].intercalate (l.map text) ++ close :: rest =
      [','].intercalate (l'.map text) ++ close :: rest') : l = l' ∧ rest = rest' := by
  have hends : ∀ {rest : List Char}, Ends (close :: rest) :=
    ends_cons (Or.inr hclose)
  -- a list of texts, cut after the first
  have hcut : ∀ (a : α) (l : List α) (rest : List Char), ∃ tail, Ends tail ∧
      [','].intercalate ((a :: l).map text) ++ close :: rest = text a ++ tail ∧
      tail = if l = [] then close :: rest
        else ',' :: ([','].intercalate (l.map text) ++ close :: rest) := by
    intro a l rest
    cases l with
    | nil => exact ⟨_, hends, by simp, rfl⟩
    | cons b l => exact ⟨_, ends_cons (Or.inl rfl), by simp [List.intercalate_cons_cons], rfl⟩
  have hcomma : close ≠ ',' := by rcases hclose with rfl | rfl <;> decide
  induction l generalizing l' with
  | nil =>
    cases l' with
    | nil => simpa using heq
    | cons b l' =>
      obtain ⟨tail, -, hcut, -⟩ := hcut b l' rest'
      obtain ⟨c, t, hstart, hne⟩ := hstart b
      rw [hcut, hstart] at heq
      simp only [List.map_nil, List.intercalate_nil, List.nil_append, List.cons_append,
        List.cons.injEq] at heq
      exact absurd heq.1.symm hne
  | cons a l ih =>
    cases l' with
    | nil =>
      obtain ⟨tail, -, hcut, -⟩ := hcut a l rest
      obtain ⟨c, t, hstart, hne⟩ := hstart a
      rw [hcut, hstart] at heq
      simp only [List.map_nil, List.intercalate_nil, List.nil_append, List.cons_append,
        List.cons.injEq] at heq
      exact absurd heq.1 hne
    | cons b l' =>
      obtain ⟨tail, htail, hcutl, htaill⟩ := hcut a l rest
      obtain ⟨tail', htail', hcutr, htailr⟩ := hcut b l' rest'
      rw [hcutl, hcutr] at heq
      obtain ⟨rfl, rfl⟩ := hcancels a List.mem_cons_self b tail tail' htail htail' heq
      rw [htaill] at htailr
      split at htailr <;> split at htailr
      · rename_i hl hl'
        subst hl hl'
        exact ⟨rfl, (List.cons.inj htailr).2⟩
      · exact absurd (List.cons.inj htailr).1 hcomma
      · exact absurd (List.cons.inj htailr).1.symm hcomma
      · obtain ⟨rfl, rfl⟩ := ih (fun a ha => hcancels a (List.mem_cons_of_mem _ ha))
          (List.cons.inj htailr).2
        exact ⟨rfl, rfl⟩

section

variable {encoding : Encoding ν} (hlawful : encoding.Lawful)

include hlawful

/-- A string can be told apart from whatever follows it. -/
lemma string_append_inj {s s' : String} {rest rest' : List Char}
    (heq : encoding.string s ++ rest = encoding.string s' ++ rest') : s = s' ∧ rest = rest' := by
  obtain ⟨body, hbody, hs⟩ := hlawful.string_quoted s
  obtain ⟨body', hbody', hs'⟩ := hlawful.string_quoted s'
  rw [hs, hs'] at heq
  simp only [List.cons_append, List.append_assoc, List.nil_append, List.cons.injEq,
    true_and] at heq
  obtain ⟨rfl, rfl⟩ := escaped_append_inj hbody hbody' heq
  exact ⟨hlawful.string_injective (hs.trans hs'.symm), rfl⟩

/-- The first character of a text, where it is structural. -/
def opening : Value ν → Option Char
  | .string _ => some '"'
  | .array _ => some '['
  | .object _ => some '{'
  | _ => none

lemma scalar_plain {v : Value ν} (hv : opening v = none) : Plain (print encoding v) := by
  cases v with
  | null => exact ⟨by simp [print], by simp [print, isStructural]⟩
  | bool b => cases b <;> exact ⟨by simp [print], by simp [print, isStructural]⟩
  | number n =>
    rw [print]
    exact hlawful.number_plain n
  | _ => cases hv

/-- The text of a tree starts with a character that tells its kind. -/
lemma print_starts (v : Value ν) : ∃ c t, print encoding v = c :: t ∧
    opening v = if isStructural c then some c else none := by
  have hscalar : opening v = none → ∃ c t, print encoding v = c :: t ∧
      opening v = if isStructural c then some c else none := by
    intro hopening
    have hplain := scalar_plain hlawful hopening
    obtain ⟨c, t, hct⟩ := List.exists_cons_of_ne_nil hplain.ne_nil
    refine ⟨c, t, hct, ?_⟩
    have hc := hplain.plain c (by rw [hct]; exact List.mem_cons_self)
    rw [hopening, hc]
    rfl
  cases v with
  | string s =>
    obtain ⟨body, -, hs⟩ := hlawful.string_quoted s
    exact ⟨'"', _, by rw [print, hs], rfl⟩
  | array values => exact ⟨'[', _, print_array _ _, rfl⟩
  | object entries => exact ⟨'{', _, print_object _ _, rfl⟩
  | _ => exact hscalar rfl

lemma print_start_ne (v : Value ν) {close : Char} (hclose : close = ']' ∨ close = '}') :
    ∃ c t, print encoding v = c :: t ∧ c ≠ close := by
  obtain ⟨c, t, hct, hopening⟩ := print_starts hlawful v
  refine ⟨c, t, hct, ?_⟩
  rintro rfl
  rcases hclose with rfl | rfl <;> cases v <;> simp [opening, isStructural] at hopening

lemma opening_eq {v w : Value ν} {rest rest' : List Char}
    (heq : print encoding v ++ rest = print encoding w ++ rest') : opening v = opening w := by
  obtain ⟨c, t, hct, hopening⟩ := print_starts hlawful v
  obtain ⟨c', t', hct', hopening'⟩ := print_starts hlawful w
  rw [hct, hct', List.cons_append, List.cons_append, List.cons.injEq] at heq
  rw [hopening, hopening', heq.1]

lemma scalar_inj {v w : Value ν} (hv : opening v = none) (hw : opening w = none)
    (heq : print encoding v = print encoding w) : v = w := by
  have hnumber : ∀ n, ∀ v : Value ν, v = .null ∨ v = .bool true ∨ v = .bool false →
      print encoding v ≠ encoding.number n := by
    have hne := hlawful.number_ne_literal
    rintro n v (rfl | rfl | rfl)
    · simpa [print] using (hne n).1.symm
    · simpa [print] using (hne n).2.1.symm
    · simpa [print] using (hne n).2.2.symm
  cases v with
  | null =>
    cases w with
    | null => rfl
    | bool b => cases b <;> simp [print] at heq
    | number n => exact absurd (heq.trans (by rw [print])) (hnumber n .null (by simp))
    | _ => cases hw
  | bool b =>
    cases w with
    | null => cases b <;> simp [print] at heq
    | bool b' => cases b <;> cases b' <;> simp [print] at heq <;> rfl
    | number n =>
      exact absurd (heq.trans (by rw [print])) (hnumber n (.bool b) (by cases b <;> simp))
    | _ => cases hw
  | number n =>
    cases w with
    | null => exact absurd (heq.symm.trans (by rw [print])) (hnumber n .null (by simp))
    | bool b =>
      exact absurd (heq.symm.trans (by rw [print])) (hnumber n (.bool b) (by cases b <;> simp))
    | number n' =>
      rw [print, print] at heq
      rw [hlawful.number_injective heq]
    | _ => cases hw
  | _ => cases hv

lemma scalar_cancels {v : Value ν} (hv : opening v = none) : Cancels (print encoding) v := by
  intro w rest rest' hrest hrest' heq
  have hw : opening w = none := (opening_eq hlawful heq).symm.trans hv
  obtain ⟨htext, hsame⟩ := plain_append_inj (scalar_plain hlawful hv) (scalar_plain hlawful hw)
    hrest hrest' heq
  exact ⟨scalar_inj hlawful hv hw htext, hsame⟩

lemma entry_cancels {entry : String × Value ν} (h : Cancels (print encoding) entry.2) :
    Cancels (printEntry encoding) entry := by
  intro other rest rest' hrest hrest' heq
  unfold printEntry at heq
  rw [List.append_assoc, List.append_assoc] at heq
  obtain ⟨hkey, heq⟩ := string_append_inj hlawful heq
  rw [List.cons_append, List.cons_append, List.cons.injEq] at heq
  obtain ⟨hvalue, hsame⟩ := h other.2 rest rest' hrest hrest' heq.2
  exact ⟨Prod.ext hkey hvalue, hsame⟩

/-- The text of a tree can be told apart from what follows it. -/
lemma print_cancels (v : Value ν) : Cancels (print encoding) v := by
  induction v using Value.induct with
  | null => exact scalar_cancels hlawful rfl
  | bool b => exact scalar_cancels hlawful rfl
  | number n => exact scalar_cancels hlawful rfl
  | string s =>
    intro w rest rest' _ _ heq
    have hopening := opening_eq hlawful heq
    cases w with
    | string s' =>
      rw [print, print] at heq
      obtain ⟨rfl, rfl⟩ := string_append_inj hlawful heq
      exact ⟨rfl, rfl⟩
    | _ => simp [opening] at hopening
  | array values ih =>
    intro w rest rest' _ _ heq
    have hopening := opening_eq hlawful heq
    cases w with
    | array values' =>
      simp only [print_array, List.cons_append, List.append_assoc, List.nil_append,
        List.cons.injEq, true_and] at heq
      obtain ⟨rfl, rfl⟩ := intercalate_inj (Or.inl rfl)
        (fun v => print_start_ne hlawful v (Or.inl rfl)) ih heq
      exact ⟨rfl, rfl⟩
    | _ => simp [opening] at hopening
  | object entries ih =>
    intro w rest rest' _ _ heq
    have hopening := opening_eq hlawful heq
    cases w with
    | object entries' =>
      simp only [print_object, List.cons_append, List.append_assoc, List.nil_append,
        List.cons.injEq, true_and] at heq
      have hstart : ∀ entry, ∃ c t, printEntry encoding entry = c :: t ∧ c ≠ '}' := by
        intro entry
        obtain ⟨body, -, hs⟩ := hlawful.string_quoted entry.1
        exact ⟨'"', _, by rw [printEntry, hs, List.cons_append], by decide⟩
      obtain ⟨rfl, rfl⟩ := intercalate_inj (Or.inr rfl) hstart
        (fun entry hmem => entry_cancels hlawful (ih entry hmem)) heq
      exact ⟨rfl, rfl⟩
    | _ => simp [opening] at hopening

/-- **A tree is determined by its text.** -/
theorem print_injective : Function.Injective (print encoding) := by
  intro v w heq
  refine (print_cancels hlawful v w [] [] ends_nil ends_nil ?_).1
  rw [List.append_nil, List.append_nil, heq]

end

end MotherApi.Lib.JsonTrees
