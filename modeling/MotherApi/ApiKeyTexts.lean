import MotherApi.Lib.Fallible
import MotherApi.Lib.Hex
import MotherApi.Lib.Splits
import MotherApi.RequestAdmission

/-!
The text of an API key, and how a request presents it.

A key is the marker, eight random bytes, a dot and 32 random bytes, in lower-case hexadecimal. What
is before the dot is stored as it is and finds the row; the digest of the whole is stored and
compared. A request presents a key as the second of two words of its only `Authorization` header.
-/

namespace MotherApi.ApiKeyTexts

open MotherApi.Strings MotherApi.RequestAdmission MotherApi.Lib.Fallible MotherApi.Lib.Hex
  MotherApi.Lib.Splits

def KEY_PREFIX_MARKER : String := "ib_live_"
def RANDOM_PREFIX_BYTES : ℕ := 8
def RANDOM_SECRET_BYTES : ℕ := 32
def RANDOM_PREFIX_HEX_LEN : ℕ := RANDOM_PREFIX_BYTES * 2
def RANDOM_SECRET_HEX_LEN : ℕ := RANDOM_SECRET_BYTES * 2

/-- An array of so many bytes. -/
abbrev Bytes (count : ℕ) : Type := { bytes : List UInt8 // bytes.length = count }

structure RawApiKey where
  value : String
  deriving DecidableEq

/-- The key of the random bytes. -/
def RawApiKey.generate (randomPrefix : Bytes RANDOM_PREFIX_BYTES)
    (secret : Bytes RANDOM_SECRET_BYTES) : RawApiKey :=
  ⟨String.ofList (KEY_PREFIX_MARKER.toList ++ encode randomPrefix.val ++ '.' :: encode secret.val)⟩

structure ParsedApiKey where
  keyPrefix : String
  deriving DecidableEq

inductive ApiKeyFormatError
  | missingSeparator | multipleSeparators | unsupportedPrefix | invalidRandomPrefix | invalidSecret
  deriving DecidableEq

/-- The lengths of the source are in bytes. A text with a longer character in it fails the test
after `||`, with the same error. -/
def parsePresentedApiKey (value : String) : Except ApiKeyFormatError ParsedApiKey :=
  match value.toList.span (· ≠ '.') with
  | (_, []) => .error .missingSeparator
  | (keyPrefix, _ :: secret) =>
    if secret.contains '.' then .error .multipleSeparators
    else if !KEY_PREFIX_MARKER.toList.isPrefixOf keyPrefix then .error .unsupportedPrefix
    else
      let randomPrefix := keyPrefix.drop KEY_PREFIX_MARKER.length
      if randomPrefix.length ≠ RANDOM_PREFIX_HEX_LEN || !randomPrefix.all isLowerHex then
        .error .invalidRandomPrefix
      else if secret.length ≠ RANDOM_SECRET_HEX_LEN || !secret.all isLowerHex then
        .error .invalidSecret
      else .ok ⟨String.ofList keyPrefix⟩

def isAsciiWhitespace (c : Char) : Bool :=
  c == ' ' || c == '\t' || c == '\n' || c == '\x0c' || c == '\r'

/-- The values of the header `Authorization`, each with its text, if it is one. -/
def bearerCredential (values : List (Option String)) : Except AuthError String :=
  match values with
  | [some value] =>
    match words isAsciiWhitespace value.toList with
    | [scheme, credential] =>
      if eqIgnoreAsciiCase (String.ofList scheme) "Bearer" then .ok (String.ofList credential)
      else .error .unauthorized
    | _ => .error .unauthorized
  | _ => .error .unauthorized

/-- The first two lines of `authenticate`: the text that is presented, and its parts. -/
def presentedKey (values : List (Option String)) : Except AuthError (String × ParsedApiKey) := do
  let presented ← bearerCredential values
  let parsed ← (parsePresentedApiKey presented).mapError fun _ => AuthError.unauthorized
  .ok (presented, parsed)

/-- The check of the column `key_prefix`, for a text without blanks around it:
`^[a-z0-9]+(_[a-z0-9]+)*$`. -/
def isKeyPrefixNormalized (text : List Char) : Bool :=
  (text.splitOnP (· == '_')).all fun part =>
    !part.isEmpty && part.all fun c => c.isLower || c.isDigit

/-! ### Texts -/

/-- What is stored of the text besides its digest. -/
def keyPrefixOf (randomPrefix : Bytes RANDOM_PREFIX_BYTES) : String :=
  String.ofList (KEY_PREFIX_MARKER.toList ++ encode randomPrefix.val)

section

variable {randomPrefix : Bytes RANDOM_PREFIX_BYTES} {secret : Bytes RANDOM_SECRET_BYTES}

lemma ne_dot_of_isLowerHex {c : Char} (h : isLowerHex c = true) : c ≠ '.' := by
  rintro rfl
  cases h

lemma ne_dot_of_mem_keyPrefix (bytes : List UInt8) :
    ∀ c ∈ KEY_PREFIX_MARKER.toList ++ encode bytes, c ≠ '.' := by
  intro c hc
  rcases List.mem_append.mp hc with hmarker | hhex
  · have hnone : KEY_PREFIX_MARKER.toList.contains '.' = false := by decide
    rintro rfl
    rw [List.contains_iff_mem.mpr hmarker] at hnone
    cases hnone
  · exact ne_dot_of_isLowerHex (isLowerHex_encode bytes c hhex)

lemma span_generate : (RawApiKey.generate randomPrefix secret).value.toList.span (· ≠ '.') =
    (KEY_PREFIX_MARKER.toList ++ encode randomPrefix.val, '.' :: encode secret.val) := by
  rw [RawApiKey.generate, String.toList_ofList]
  refine span_append (fun c hc => ?_) (by decide)
  exact decide_eq_true (ne_dot_of_mem_keyPrefix _ c hc)

lemma parse_generate : parsePresentedApiKey (RawApiKey.generate randomPrefix secret).value =
    .ok ⟨keyPrefixOf randomPrefix⟩ := by
  have hsecret : (encode secret.val).contains '.' = false := by
    rw [Bool.eq_false_iff, ne_eq, List.contains_iff_mem]
    exact fun hmem => ne_dot_of_isLowerHex (isLowerHex_encode _ _ hmem) rfl
  have hmarker : KEY_PREFIX_MARKER.toList.isPrefixOf
      (KEY_PREFIX_MARKER.toList ++ encode randomPrefix.val) = true :=
    List.isPrefixOf_iff_prefix.mpr (List.prefix_append _ _)
  have hdrop : (KEY_PREFIX_MARKER.toList ++ encode randomPrefix.val).drop
      KEY_PREFIX_MARKER.length = encode randomPrefix.val := List.drop_left
  have hall (bytes : List UInt8) : (encode bytes).all isLowerHex = true :=
    List.all_eq_true.mpr (isLowerHex_encode bytes)
  have hprefixLength : (encode randomPrefix.val).length = RANDOM_PREFIX_HEX_LEN := by
    rw [length_encode, randomPrefix.property]
    rfl
  have hsecretLength : (encode secret.val).length = RANDOM_SECRET_HEX_LEN := by
    rw [length_encode, secret.property]
    rfl
  rw [parsePresentedApiKey, span_generate]
  simp only [hsecret, hmarker, hdrop, hall, hprefixLength, hsecretLength, ne_eq,
    not_true_eq_false, decide_false, Bool.not_true, Bool.or_self, Bool.false_eq_true, if_false]
  rfl

lemma exists_bytes {count : ℕ} {text : List Char}
    (h : ¬ (decide (text.length ≠ count * 2) || !text.all isLowerHex) = true) :
    ∃ bytes : Bytes count, text = encode bytes.val := by
  simp only [ne_eq, Bool.or_eq_true, decide_eq_true_eq, Bool.not_eq_true', not_or,
    Decidable.not_not, Bool.not_eq_false, List.all_eq_true] at h
  obtain ⟨hlength, hall⟩ := h
  obtain ⟨bytes, hcount, rfl⟩ := exists_encode (hlength.trans (Nat.mul_comm _ _)) hall
  exact ⟨⟨bytes, hcount⟩, rfl⟩

/-- **What is accepted could have been generated**, and nothing else is accepted. -/
theorem parse_eq_ok {value keyPrefix : String} :
    parsePresentedApiKey value = .ok ⟨keyPrefix⟩ ↔ ∃ randomPrefix secret,
      value = (RawApiKey.generate randomPrefix secret).value ∧
        keyPrefix = keyPrefixOf randomPrefix := by
  constructor
  · intro h
    unfold parsePresentedApiKey at h
    split at h
    · cases h
    rename_i before dot after hspan
    obtain ⟨hvalue, -, hdot⟩ := of_span_eq hspan
    obtain rfl : dot = '.' := by simpa using hdot dot rfl
    split at h
    · cases h
    split at h
    · cases h
    rename_i hmarker
    simp only [Bool.not_eq_true', Bool.not_eq_false, List.isPrefixOf_iff_prefix] at hmarker
    obtain ⟨rest, rfl⟩ := hmarker
    have hdrop : (KEY_PREFIX_MARKER.toList ++ rest).drop KEY_PREFIX_MARKER.length = rest :=
      List.drop_left
    rw [hdrop] at h
    dsimp only at h
    split at h
    · cases h
    rename_i hrest
    split at h
    · cases h
    rename_i hafter
    obtain ⟨randomPrefix, rfl⟩ := exists_bytes hrest
    obtain ⟨secret, rfl⟩ := exists_bytes hafter
    cases h
    refine ⟨randomPrefix, secret, ?_, rfl⟩
    rw [RawApiKey.generate, ← hvalue, String.ofList_toList]
  · rintro ⟨randomPrefix, secret, rfl, rfl⟩
    exact parse_generate

/-- The text says which bytes were drawn. -/
lemma generate_injective {randomPrefix' : Bytes RANDOM_PREFIX_BYTES}
    {secret' : Bytes RANDOM_SECRET_BYTES}
    (h : RawApiKey.generate randomPrefix secret = .generate randomPrefix' secret') :
    randomPrefix = randomPrefix' ∧ secret = secret' := by
  have hspan := congrArg (fun key : RawApiKey => key.value.toList.span (· ≠ '.')) h
  simp only [span_generate, Prod.mk.injEq, List.append_cancel_left_eq, List.cons.injEq,
    true_and] at hspan
  exact ⟨Subtype.ext (encode_injective hspan.1), Subtype.ext (encode_injective hspan.2)⟩

end

/-! ### Headers -/

lemma bearerCredential_eq_ok {values : List (Option String)} {credential : String} :
    bearerCredential values = .ok credential ↔ ∃ value scheme, values = [some value] ∧
      words isAsciiWhitespace value.toList = [scheme, credential.toList] ∧
        eqIgnoreAsciiCase (String.ofList scheme) "Bearer" = true := by
  unfold bearerCredential
  constructor
  · intro h
    split at h
    · rename_i value
      split at h
      · rename_i scheme word hwords
        split at h
        · rename_i hscheme
          cases h
          exact ⟨value, scheme, rfl, by rw [hwords, String.toList_ofList], hscheme⟩
        · cases h
      · cases h
    · cases h
  · rintro ⟨value, scheme, rfl, hwords, hscheme⟩
    simp only [hwords, hscheme, if_true, String.ofList_toList]

lemma presentedKey_eq_ok {values : List (Option String)} {text keyPrefix : String} :
    presentedKey values = .ok (text, ⟨keyPrefix⟩) ↔
      bearerCredential values = .ok text ∧ parsePresentedApiKey text = .ok ⟨keyPrefix⟩ := by
  unfold presentedKey
  rw [bind_eq_ok]
  constructor
  · rintro ⟨presented, hpresented, h⟩
    obtain ⟨parsed, hparsed, h⟩ := bind_eq_ok.mp h
    cases h
    exact ⟨hpresented, mapError_eq_ok.mp hparsed⟩
  · rintro ⟨hpresented, hparsed⟩
    exact ⟨text, hpresented, bind_eq_ok.mpr ⟨⟨keyPrefix⟩, mapError_eq_ok.mpr hparsed, rfl⟩⟩

lemma isAsciiWhitespace_of_isLowerHex {c : Char} (h : isLowerHex c = true) :
    isAsciiWhitespace c = false := by
  rw [Bool.eq_false_iff]
  intro hblank
  simp only [isAsciiWhitespace, Bool.or_eq_true, beq_iff_eq] at hblank
  rcases hblank with (((rfl | rfl) | rfl) | rfl) | rfl <;> cases h

lemma generate_toList_ne_nil (randomPrefix : Bytes RANDOM_PREFIX_BYTES)
    (secret : Bytes RANDOM_SECRET_BYTES) :
    (RawApiKey.generate randomPrefix secret).value.toList ≠ [] := by
  rw [RawApiKey.generate, String.toList_ofList]
  simp

lemma not_blank_generate (randomPrefix : Bytes RANDOM_PREFIX_BYTES)
    (secret : Bytes RANDOM_SECRET_BYTES) :
    ∀ c ∈ (RawApiKey.generate randomPrefix secret).value.toList, isAsciiWhitespace c = false := by
  intro c hc
  have hmarker : KEY_PREFIX_MARKER.toList.any isAsciiWhitespace = false := by decide
  rw [RawApiKey.generate, String.toList_ofList, List.mem_append, List.mem_append,
    List.mem_cons] at hc
  rcases hc with (hc | hc) | rfl | hc
  · simpa using List.any_eq_false.mp hmarker c hc
  · exact isAsciiWhitespace_of_isLowerHex (isLowerHex_encode _ c hc)
  · rfl
  · exact isAsciiWhitespace_of_isLowerHex (isLowerHex_encode _ c hc)

lemma not_blank_scheme {scheme : List Char}
    (h : eqIgnoreAsciiCase (String.ofList scheme) "Bearer" = true) :
    scheme ≠ [] ∧ ∀ c ∈ scheme, isAsciiWhitespace c = false := by
  simp only [eqIgnoreAsciiCase, toAsciiLowercase, beq_iff_eq, String.ofList_inj,
    String.toList_ofList] at h
  have hletters : ∀ c ∈ scheme, c.toLower ∈ ("Bearer" : String).toList.map Char.toLower :=
    fun c hc => h ▸ List.mem_map_of_mem hc
  refine ⟨?_, fun c hc => ?_⟩
  · rintro rfl
    cases h
  · rw [Bool.eq_false_iff]
    intro hblank
    have hmem := hletters c hc
    simp only [isAsciiWhitespace, Bool.or_eq_true, beq_iff_eq] at hblank
    rcases hblank with (((rfl | rfl) | rfl) | rfl) | rfl <;> revert hmem <;> decide

/-- The header that a client may send: the scheme and the key, with blanks around them. -/
def headerOf (lead scheme gap : List Char) (text : String) (trail : List Char) : String :=
  String.ofList (lead ++ scheme ++ gap ++ text.toList ++ trail)

lemma presentedKey_headerOf {lead scheme gap trail : List Char}
    (randomPrefix : Bytes RANDOM_PREFIX_BYTES) (secret : Bytes RANDOM_SECRET_BYTES)
    (hlead : ∀ c ∈ lead, isAsciiWhitespace c = true)
    (hscheme : eqIgnoreAsciiCase (String.ofList scheme) "Bearer" = true) (hgap : gap ≠ [])
    (hgap' : ∀ c ∈ gap, isAsciiWhitespace c = true)
    (htrail : ∀ c ∈ trail, isAsciiWhitespace c = true) :
    presentedKey
      [some (headerOf lead scheme gap (RawApiKey.generate randomPrefix secret).value trail)] =
      .ok ((RawApiKey.generate randomPrefix secret).value, ⟨keyPrefixOf randomPrefix⟩) := by
  obtain ⟨hschemeNe, hschemeBlank⟩ := not_blank_scheme hscheme
  refine presentedKey_eq_ok.mpr ⟨bearerCredential_eq_ok.mpr ⟨_, scheme, rfl, ?_, hscheme⟩,
    parse_generate⟩
  rw [headerOf, String.toList_ofList, words_append_blank htrail, List.append_assoc,
    List.append_assoc, words_blank_append hlead,
    words_append_blank_append hgap hgap', words_word hschemeNe hschemeBlank,
    words_word (generate_toList_ne_nil _ _) (not_blank_generate _ _)]
  rfl

/-! ### What is accepted -/

lemma isLower_or_isDigit {c : Char} (h : isLowerHex c = true) :
    (c.isLower || c.isDigit) = true := by
  simp only [isLowerHex, Bool.or_eq_true, Bool.and_eq_true, decide_eq_true_eq] at h
  rcases h with hdigit | ⟨hge, hle⟩
  · rw [hdigit, Bool.or_true]
  · have hz : c ≤ 'z' := Char.le_trans hle (by decide)
    unfold Char.isLower
    simp only [ge_iff_le, Bool.or_eq_true, Bool.and_eq_true, decide_eq_true_eq]
    exact .inl ⟨hge, hz⟩

lemma isKeyPrefixNormalized_keyPrefixOf (randomPrefix : Bytes RANDOM_PREFIX_BYTES) :
    isKeyPrefixNormalized (keyPrefixOf randomPrefix).toList = true := by
  have hhex : ∀ c ∈ encode randomPrefix.val, (c == '_') = false := by
    intro c hc
    rw [beq_eq_false_iff_ne]
    rintro rfl
    cases isLowerHex_encode _ _ hc
  have hpart : (encode randomPrefix.val).all (fun c => c.isLower || c.isDigit) = true := by
    rw [List.all_eq_true]
    exact fun c hc => isLower_or_isDigit (isLowerHex_encode _ c hc)
  have hne : (encode randomPrefix.val).isEmpty = false := by
    rw [List.isEmpty_eq_false_iff, ← List.length_pos_iff, length_encode, randomPrefix.property]
    decide
  have hsplit : (keyPrefixOf randomPrefix).toList.splitOnP (· == '_') =
      ["ib".toList, "live".toList, encode randomPrefix.val] := by
    rw [keyPrefixOf, String.toList_ofList]
    change ("ib".toList ++ '_' :: ("live".toList ++ '_' :: encode randomPrefix.val)).splitOnP _ = _
    rw [List.splitOnP_append_cons _ _ (by decide), List.splitOnP_append_cons _ _ (by decide),
      List.splitOnP_eq_singleton hhex]
    rfl
  rw [isKeyPrefixNormalized, hsplit]
  simp only [List.all_cons, hpart, hne, List.all_nil, Bool.not_false, Bool.and_self, Bool.and_true]
  decide

/-- **A request presents a key exactly if** its only header is the scheme and a text that could have
been generated; the text is read back whatever blanks are around it, it says which bytes were drawn,
and what is stored of it passes the check of the table. -/
theorem presentedKey_exact :
    (∀ (values : List (Option String)) (text keyPrefix : String),
      presentedKey values = .ok (text, ⟨keyPrefix⟩) ↔ ∃ value scheme randomPrefix secret,
        values = [some value] ∧ words isAsciiWhitespace value.toList = [scheme, text.toList] ∧
        eqIgnoreAsciiCase (String.ofList scheme) "Bearer" = true ∧
        text = (RawApiKey.generate randomPrefix secret).value ∧
        keyPrefix = keyPrefixOf randomPrefix) ∧
    (∀ (lead scheme gap trail : List Char) (randomPrefix : Bytes RANDOM_PREFIX_BYTES)
      (secret : Bytes RANDOM_SECRET_BYTES),
      (∀ c ∈ lead, isAsciiWhitespace c = true) →
      eqIgnoreAsciiCase (String.ofList scheme) "Bearer" = true → gap ≠ [] →
      (∀ c ∈ gap, isAsciiWhitespace c = true) → (∀ c ∈ trail, isAsciiWhitespace c = true) →
      presentedKey
        [some (headerOf lead scheme gap (RawApiKey.generate randomPrefix secret).value trail)] =
        .ok ((RawApiKey.generate randomPrefix secret).value, ⟨keyPrefixOf randomPrefix⟩)) ∧
    (∀ (randomPrefix randomPrefix' : Bytes RANDOM_PREFIX_BYTES)
      (secret secret' : Bytes RANDOM_SECRET_BYTES),
      RawApiKey.generate randomPrefix secret = .generate randomPrefix' secret' →
        randomPrefix = randomPrefix' ∧ secret = secret') ∧
    ∀ randomPrefix, isKeyPrefixNormalized (keyPrefixOf randomPrefix).toList = true := by
  refine ⟨fun values text keyPrefix => ?_, fun lead scheme gap trail randomPrefix secret hlead
    hscheme hgap hgap' htrail => presentedKey_headerOf randomPrefix secret hlead hscheme hgap hgap'
    htrail, fun _ _ _ _ => generate_injective, isKeyPrefixNormalized_keyPrefixOf⟩
  rw [presentedKey_eq_ok, bearerCredential_eq_ok, parse_eq_ok]
  constructor
  · rintro ⟨⟨value, scheme, hvalues, hwords, hscheme⟩, randomPrefix, secret, htext, hprefix⟩
    exact ⟨value, scheme, randomPrefix, secret, hvalues, hwords, hscheme, htext, hprefix⟩
  · rintro ⟨value, scheme, randomPrefix, secret, hvalues, hwords, hscheme, htext, hprefix⟩
    exact ⟨⟨value, scheme, hvalues, hwords, hscheme⟩, randomPrefix, secret, htext, hprefix⟩

end MotherApi.ApiKeyTexts
