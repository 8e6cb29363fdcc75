import Chancela.Api.CollectionPage
import Chancela.Crates.ReadJson

/-! # Walks through a collection

A client that follows its cursors sees what keyset pagination says, as long as the envelopes of
the cursors are short: an encoded cursor has no limit, and a decoded one has
(`Chancela.Collection.decodeCursor_encodeCursor`).
-/

namespace Chancela.Collection

open Outcome Keyset Framing

section Walk

variable [Crates] [Base64Crate] [CursorJson]

/-- The envelope of a position is short enough for its cursor to be accepted: 1536 bytes are
2048 characters. -/
def CursorFits (collection fingerprint : String) (position : CursorPosition) : Prop :=
  (envelopeBytes (cursorEnvelope collection fingerprint position)).length ≤ 1536

instance (collection fingerprint : String) (position : CursorPosition) :
    Decidable (CursorFits collection fingerprint position) :=
  inferInstanceAs (Decidable (_ ≤ _))

variable {collection fingerprint : String}

omit [CursorJson] in
theorem byteLen_encodeCursor (collection fingerprint : String) (position : CursorPosition) :
    Text.byteLen (encodeCursor collection fingerprint position) =
      (4 * (envelopeBytes (cursorEnvelope collection fingerprint position)).length + 2) / 3 := by
  rw [← Base64Crate.length_urlSafeNoPad, Text.byteLen, encodeCursor, Text.utf8_eq_flatMap,
    String.toList_ofList]
  have single := Base64Crate.ascii_urlSafeNoPad
    (envelopeBytes (cursorEnvelope collection fingerprint position))
  generalize Base64Crate.urlSafeNoPad.encode _ = chars at single ⊢
  induction chars with
  | nil => rfl
  | cons c rest ih =>
      rw [List.flatMap_cons, Text.utf8EncodeChar_ascii (single c List.mem_cons_self),
        List.length_append, ih fun other member => single other (List.mem_cons_of_mem _ member)]
      exact Nat.add_comm 1 rest.length

/-- **When a cursor is accepted.** -/
theorem decodeCursor_encodeCursor (expectedCollection expectedFingerprint : String)
    (position : CursorPosition) :
    decodeCursor (encodeCursor collection fingerprint position) expectedCollection
        expectedFingerprint =
      if CursorFits collection fingerprint position ∧ collection = expectedCollection ∧
        fingerprint = expectedFingerprint then .ok position else .error invalidCursor := by
  have size := byteLen_encodeCursor collection fingerprint position
  have some_ := List.length_pos_iff.mpr (CursorJson.envelopeBytes_ne_nil
    (cursorEnvelope collection fingerprint position))
  have written : encodeCursor collection fingerprint position ≠ "" := by
    intro empty
    rw [empty] at size
    have none_ : Text.byteLen "" = 0 := rfl
    omega
  have bytes :
      Base64Crate.urlSafeNoPad.decode (encodeCursor collection fingerprint position).toList =
      some (envelopeBytes (cursorEnvelope collection fingerprint position)) := by
    rw [encodeCursor, String.toList_ofList, Base64Engine.decode_encode]
  have bound : maxCursorBytes < Text.byteLen (encodeCursor collection fingerprint position) ↔
      ¬CursorFits collection fingerprint position := by
    rw [size, CursorFits, maxCursorBytes]
    omega
  rw [decodeCursor, bytes]
  simp only [written, bound, false_or, CursorJson.fromSlice_envelopeBytes]
  by_cases fits : CursorFits collection fingerprint position
  · by_cases same : collection = expectedCollection ∧ fingerprint = expectedFingerprint
    · obtain ⟨rfl, rfl⟩ := same
      simp [fits, cursorEnvelope]
    · simp only [fits, not_true, ↓reduceIte, true_and, same]
      rw [if_pos]
      by_cases named : collection = expectedCollection
      · exact .inr (.inr (.inl fun also_ => same ⟨named, also_⟩))
      · exact .inr (.inl named)
  · simp [fits]

variable {ρ : Type} {position : ρ → CursorPosition}

omit [CursorJson] in
theorem fromKeysetSorted_eq (rows : List ρ) (limit : Nat) (cursorMode : Bool) :
    (fromKeysetSorted position rows 0 limit cursorMode collection fingerprint).items =
        rows.take limit ∧
      (fromKeysetSorted position rows 0 limit cursorMode collection fingerprint).nextCursor =
        (lastOfPage limit rows).map fun last =>
          encodeCursor collection fingerprint (position last) := by
  have whole : (if (!cursorMode && decide ((0 : Nat) ≠ 0)) = true then rows.drop 0 else rows) =
      rows := by simp
  simp only [fromKeysetSorted, whole, lastOfPage]
  by_cases more : limit < rows.length
  · have long : limit < (rows.take (limit + 1)).length := by
      rw [List.length_take]
      omega
    have page : (rows.take (limit + 1)).dropLast = rows.take limit := by
      rw [List.dropLast_eq_take, List.take_take, List.length_take]
      congr 1
      omega
    simp [more, page, Option.map_map, Function.comp_def]
  · have short : ¬limit < (rows.take (limit + 1)).length := by
      rw [List.length_take]
      omega
    have page : rows.take (limit + 1) = rows.take limit := by
      rw [List.take_of_length_le (by omega), List.take_of_length_le (by omega)]
    simp [more, page]

omit [Crates] [Base64Crate] [CursorJson] in
theorem applyKeyset_eq (rows : List ρ) (cursor : Option CursorPosition) (descending : Bool) :
    applyKeyset position rows cursor descending =
      beyond (Before descending) position rows cursor := by
  cases cursor with
  | none => rfl
  | some mark => cases descending <;> simp [applyKeyset, beyond, Before]

/-- A query from the first page on, with the cursor that is used for the next. -/
structure Paged (query : CollectionPageQuery) (descending : Bool) : Prop where
  offset : query.offset = 0
  order : query.descending = .ok descending

def Fit (collection fingerprint : String) (marks : List CursorPosition) : Prop :=
  ∀ mark ∈ marks, CursorFits collection fingerprint mark

instance (collection fingerprint : String) (marks : List CursorPosition) :
    Decidable (Fit collection fingerprint marks) :=
  inferInstanceAs (Decidable (∀ mark ∈ marks, CursorFits collection fingerprint mark))

theorem cursorPosition_eq (collection fingerprint : String) {query : CollectionPageQuery}
    {descending : Bool}
    (paged : Paged query descending) (mark : Option CursorPosition) :
    { query with cursor := mark.map (encodeCursor collection fingerprint) }.cursorPosition
        collection fingerprint =
      if Fit collection fingerprint mark.toList then .ok mark else .error invalidCursor := by
  cases mark with
  | none => simp [CollectionPageQuery.cursorPosition, Fit]
  | some mark =>
      have decoded := @decodeCursor_encodeCursor _ _ _ collection fingerprint collection fingerprint
        mark
      simp only [and_true] at decoded
      simp only [CollectionPageQuery.cursorPosition, paged.offset, Option.map_some, ne_eq,
        not_true_eq_false, and_false, ↓reduceIte, decoded, Fit, Option.toList_some,
        List.mem_singleton, forall_eq]
      split <;> rfl

theorem listPage_eq (collection fingerprint : String) {query : CollectionPageQuery}
    {descending : Bool} (paged : Paged query descending) (position : ρ → CursorPosition)
    (rows : List ρ) (mark : Option CursorPosition) :
    if Fit collection fingerprint mark.toList then
      ∃ page, listPage position
          { query with cursor := mark.map (encodeCursor collection fingerprint) } collection
          fingerprint rows = .ok page ∧
        page.items = (beyond (Before descending) position rows mark).take query.pageLimit ∧
        page.nextCursor =
          (lastOfPage query.pageLimit (beyond (Before descending) position rows mark)).map
            fun last => encodeCursor collection fingerprint (position last)
    else listPage position
        { query with cursor := mark.map (encodeCursor collection fingerprint) } collection
        fingerprint rows = .error invalidCursor := by
  have first := cursorPosition_eq collection fingerprint paged mark
  have order : { query with cursor := mark.map (encodeCursor collection fingerprint) }.descending =
      .ok descending := paged.order
  have offset : { query with cursor := mark.map (encodeCursor collection fingerprint) }.offset =
      0 := paged.offset
  rw [listPage, first, order, offset]
  split
  · next fits =>
      refine ⟨_, rfl, ?_⟩
      rw [applyKeyset_eq]
      exact fromKeysetSorted_eq _ _ _
  · next refused => rfl

omit [Base64Crate] [CursorJson] in
theorem fit_append {front back : List CursorPosition} :
    Fit collection fingerprint (front ++ back) ↔
      Fit collection fingerprint front ∧ Fit collection fingerprint back :=
  List.forall_mem_append

/-- **The walk is the visit**, while the cursors fit. -/
theorem walk_eq (collection fingerprint : String) {query : CollectionPageQuery} {descending : Bool}
    (paged : Paged query descending) (position : ρ → CursorPosition) (snapshots : List (List ρ))
    (mark : Option CursorPosition) :
    walk position query collection fingerprint snapshots
        (mark.map (encodeCursor collection fingerprint)) =
      let visited := visit (Before descending) position query.pageLimit snapshots mark
      if Fit collection fingerprint (mark.toList ++ visited.marks) then
        .ok ⟨visited.items, visited.finished⟩
      else .error invalidCursor := by
  induction snapshots generalizing mark with
  | nil =>
      rw [walk, cursorPosition_eq collection fingerprint paged]
      simp only [visit, List.append_nil]
      split <;> rfl
  | cons rows later ih =>
      have here := listPage_eq collection fingerprint paged position rows mark
      simp only [walk, visit, fit_append]
      by_cases fits : Fit collection fingerprint mark.toList
      · rw [if_pos fits] at here
        obtain ⟨page, answered, items, next⟩ := here
        rw [answered]
        simp only [bind, Except.bind, next, items]
        cases ended : lastOfPage query.pageLimit
            (beyond (Before descending) position rows mark) with
        | none =>
            have empty : Fit collection fingerprint [] := fun _ member =>
              absurd member List.not_mem_nil
            simp [fits, empty, pure, Except.pure]
        | some last =>
            have rest := ih (some (position last))
            simp only [Option.map_some, Option.toList_some, List.singleton_append] at rest ⊢
            rw [rest]
            by_cases others : Fit collection fingerprint (position last ::
                (visit (Before descending) position query.pageLimit later
                  (some (position last))).marks)
            · simp [fits, others, pure, Except.pure]
            · simp [others]
      · rw [if_neg fits] at here
        rw [here, if_neg fun both => fits both.1]
        rfl

/-! ## Fingerprints -/

omit [Crates] [Base64Crate] [CursorJson] in
theorem fingerprintBytes_inj {fields other : List (String × String)}
    (sized : ∀ field ∈ fields, Text.byteLen field.1 < 2 ^ 64 ∧ Text.byteLen field.2 < 2 ^ 64)
    (sized' : ∀ field ∈ other, Text.byteLen field.1 < 2 ^ 64 ∧ Text.byteLen field.2 < 2 ^ 64)
    (same : fingerprintBytes fields = fingerprintBytes other) : fields.Perm other := by
  let domain : Set (String × String) :=
    {field | Text.byteLen field.1 < 2 ^ 64 ∧ Text.byteLen field.2 < 2 ^ 64}
  have splits : Splits domain (fun field => (field.1, field.2)) fun field =>
      frameText field.1 ++ frameText field.2 :=
    (Splits.of_lengthPrefixed 8 (fun _ fits => fits.1)
        fun _ _ _ _ same => Text.utf8_injective same).append
      (Splits.of_lengthPrefixed 8 (fun _ fits => fits.2)
        fun _ _ _ _ same => Text.utf8_injective same)
  have sorted := splits.flatMap (fun field _ empty => by
      have lengths := congrArg List.length empty
      simp [frameText] at lengths)
    (fun field member => sized field ((Selection.sortBy_perm _ _).subset member))
    (fun field member => sized' field ((Selection.sortBy_perm _ _).subset member)) same
  simp only [Prod.mk.eta, List.map_id'] at sorted
  exact (Selection.sortBy_perm Prod.fst fields).symm.trans
    (sorted ▸ Selection.sortBy_perm Prod.fst other)

omit [Base64Crate] [CursorJson] in
/-- **Different queries have different fingerprints**, where SHA-256 tells them apart. -/
theorem perm_of_queryFingerprint_eq {fields other : List (String × String)}
    (sized : ∀ field ∈ fields, Text.byteLen field.1 < 2 ^ 64 ∧ Text.byteLen field.2 < 2 ^ 64)
    (sized' : ∀ field ∈ other, Text.byteLen field.1 < 2 ^ 64 ∧ Text.byteLen field.2 < 2 ^ 64)
    (injective : Set.InjOn sha256 {fingerprintBytes fields, fingerprintBytes other})
    (same : queryFingerprint fields = queryFingerprint other) : fields.Perm other := by
  refine fingerprintBytes_inj sized sized' (injective (by simp) (by simp) ?_)
  exact Vector.toList_inj.mp (flatMap_hexByte_injective (String.ofList_injective same))

/-- **Pagination is complete exactly while the cursors are short.** Every cursor that is handed
out is accepted, rows are seen in order and once, a walk that ends has seen each row that was
there throughout, and rows that do not change are seen whole, if and only if the envelopes of
the rows that end a page before others are short. A cursor of another collection or of other
query fields is refused. -/
theorem walk_complete_iff {query : CollectionPageQuery} {descending : Bool}
    (paged : Paged query descending) (position : ρ → CursorPosition) (collection : String)
    {fields : List (String × String)}
    (sized : ∀ field ∈ fields, Text.byteLen field.1 < 2 ^ 64 ∧ Text.byteLen field.2 < 2 ^ 64)
    {snapshots : List (List ρ)}
    (ordered : ∀ rows ∈ snapshots, Ordered (Before descending) position rows) :
    ((∃ seen, walk position query collection (queryFingerprint fields) snapshots none = .ok seen ∧
        seen.items.Nodup ∧ Ordered (Before descending) position seen.items ∧
        (seen.finished = true → ∀ row, (∀ rows ∈ snapshots, row ∈ rows) → row ∈ seen.items) ∧
        ∀ rows requests, snapshots = List.replicate requests rows → rows.length < requests →
          seen.finished = true ∧ seen.items = rows) ↔
      ∀ mark ∈ (visit (Before descending) position query.pageLimit snapshots none).marks,
        CursorFits collection (queryFingerprint fields) mark) ∧
    ∀ (place : CursorPosition) (other : String) (others : List (String × String)),
      (∀ field ∈ others, Text.byteLen field.1 < 2 ^ 64 ∧ Text.byteLen field.2 < 2 ^ 64) →
      Set.InjOn sha256 {fingerprintBytes fields, fingerprintBytes others} →
      (collection ≠ other ∨ ¬fields.Perm others) →
      decodeCursor (encodeCursor collection (queryFingerprint fields) place) other
        (queryFingerprint others) = .error invalidCursor := by
  have walked : walk position query collection (queryFingerprint fields) snapshots none =
      if Fit collection (queryFingerprint fields)
          (visit (Before descending) position query.pageLimit snapshots none).marks then
        .ok ⟨_, _⟩ else .error invalidCursor :=
    walk_eq collection (queryFingerprint fields) paged position snapshots none
  have sorted : Ordered (Before descending) position
      (visit (Before descending) position query.pageLimit snapshots none).items :=
    (@pairwise_visit _ _ (Before descending) _ position query.pageLimit (before_trans descending)
      snapshots ordered none).1
  refine ⟨⟨?_, fun fits => ?_⟩, ?_⟩
  · rintro ⟨seen, accepted, -⟩
    by_contra long
    rw [walked, if_neg fun fits : Fit _ _ _ => long fits] at accepted
    cases accepted
  · refine ⟨_, walked.trans (if_pos fits), ?_, sorted, fun finished row present => ?_, ?_⟩
    · refine List.Pairwise.imp ?_ sorted
      rintro first second before rfl
      exact before_irrefl descending _ before
    · exact mem_visit query.pageLimit_pos ordered finished present fun _ none_ => nomatch none_
    · rintro rows requests rfl enough
      have still : Ordered (Before descending) position rows :=
        ordered rows (List.mem_replicate.mpr ⟨by omega, rfl⟩)
      exact @visit_replicate _ _ (Before descending) _ position query.pageLimit rows
        (before_irrefl descending) (before_trans descending) query.pageLimit_pos still requests none
        enough
  · intro place other others sizedOthers injective different
    rw [decodeCursor_encodeCursor, if_neg]
    rintro ⟨-, named, same⟩
    rcases different with renamed | changed
    · exact renamed named
    · exact changed (perm_of_queryFingerprint_eq sized sizedOthers injective same)

end Walk

section Witness

open scoped Reference
open Reference

def readEnvelope (text : List Char) : Option CursorEnvelope := do
  let text ← expect ('\x7b' :: (jsonString "version" ++ [':'])) text
  let (version, text) := readNat text
  let (collection, text) ← readField "collection" text
  let (fingerprint, text) ← readField "fingerprint" text
  let text ← expect (',' :: (jsonString "position" ++
    ':' :: '\x7b' :: (jsonString "key" ++ [':']))) text
  let (key, text) ← readString text
  let (id, text) ← readField "id" text
  let text ← expect ['\x7d'] text
  let (integrity, _) ← readField "integrity" text
  return { version, collection, fingerprint, position := ⟨key, id⟩, integrity }

def envelopeText (envelope : CursorEnvelope) : List Char :=
  '\x7b' :: (jsonString "version" ++ [':']) ++ ((toString (envelope.version : Int)).toList ++
    ',' :: (jsonString "collection" ++ ':' :: (jsonString envelope.collection ++
    ',' :: (jsonString "fingerprint" ++ ':' :: (jsonString envelope.fingerprint ++
    (',' :: (jsonString "position" ++ ':' :: '\x7b' :: (jsonString "key" ++ [':'])) ++
      (jsonString envelope.position.key ++
    ',' :: (jsonString "id" ++ ':' :: (jsonString envelope.position.id ++ (['\x7d'] ++
    ',' :: (jsonString "integrity" ++ ':' :: (jsonString envelope.integrity ++ ['\x7d']))))))))))))

theorem envelopeBytes_eq (envelope : CursorEnvelope) :
    envelopeBytes envelope = Text.utf8 (String.ofList (envelopeText envelope)) := by
  simp only [envelopeBytes, serialize, jsonToVec, jsonToString, jsonChars, jsonFields, envelopeText]
  simp

theorem readEnvelope_envelopeBytes (envelope : CursorEnvelope) :
    ((readUtf8 (envelopeBytes envelope)).map String.toList).bind readEnvelope = some envelope := by
  rw [envelopeBytes_eq, readUtf8_utf8, Option.map_some, String.toList_ofList, Option.bind_some]
  rw [readEnvelope, envelopeText, expect_append]
  simp only [bind, Option.bind_some, readNat_toString envelope.version (by decide :
    ','.isDigit = false), readField_jsonString, expect_append, readString_jsonString]
  rfl

scoped instance cursorJson : CursorJson where
  fromSlice bytes := ((readUtf8 bytes).map String.toList).bind readEnvelope
  fromSlice_envelopeBytes := readEnvelope_envelopeBytes
  envelopeBytes_ne_nil envelope empty := by
    have read := readEnvelope_envelopeBytes envelope
    have blank : readUtf8 [] = some "" := readUtf8_utf8 ""
    rw [empty, blank] at read
    cases read

def twoRows (key : String) : List CursorPosition := [⟨key, "1"⟩, ⟨key, "2"⟩]

theorem ordered_twoRows (key : String) : Ordered (Before false) id (twoRows key) := by
  refine List.pairwise_pair.mpr ?_
  have ids : "1" < "2" := by decide
  exact (Prod.Lex.toLex_lt_toLex).mpr (.inr ⟨rfl, ids⟩)

def pagesOf (limit : Nat) : CollectionPageQuery where
  offset := 0
  cursor := none
  limit := some limit
  order := none

theorem paged_pagesOf (limit : Nat) : Paged (pagesOf limit) false := ⟨rfl, rfl⟩

/-- Two rows on a page of five, and a cursor of another collection. -/
theorem walk_complete_iff_twoRows :
    (∃ seen, walk id (pagesOf 5) "users" (queryFingerprint [])
        (List.replicate 3 (twoRows "a")) none = .ok seen ∧ seen.items = twoRows "a") ∧
      decodeCursor (encodeCursor "users" (queryFingerprint []) ⟨"a", "1"⟩) "books"
        (queryFingerprint []) = .error invalidCursor := by
  have ordered : ∀ rows ∈ List.replicate 3 (twoRows "a"), Ordered (Before false) id rows := by
    intro rows member
    rw [(List.mem_replicate.mp member).2]
    exact ordered_twoRows "a"
  obtain ⟨accepted, refused⟩ := walk_complete_iff (paged_pagesOf 5) id "users"
    (fun _ member => (nomatch member) : ∀ field ∈ ([] : List (String × String)), _) ordered
  constructor
  · obtain ⟨seen, walked, -, -, -, still⟩ := accepted.mpr fun _ member => nomatch member
    exact ⟨seen, walked, (still (twoRows "a") 3 rfl (by decide)).2⟩
  · refine refused _ _ _ (fun _ member => nomatch member) ?_ (.inl (by decide))
    rw [Set.pair_eq_singleton]
    exact Set.injOn_singleton _ _

def letters (count : Nat) : String := String.ofList (List.replicate count 'a')

theorem length_jsonString_letters (count : Nat) :
    (jsonString (letters count)).length = count + 2 := by
  have same : (List.replicate count 'a').flatMap jsonChar = List.replicate count 'a' := by
    induction count with
    | zero => rfl
    | succ count ih =>
        rw [List.replicate_succ, List.flatMap_cons, ih]
        rfl
  rw [jsonString, letters, String.toList_ofList, same]
  simp

theorem length_le_length_utf8 (chars : List Char) :
    chars.length ≤ (Text.utf8 (String.ofList chars)).length := by
  rw [Text.utf8_eq_flatMap, String.toList_ofList]
  induction chars with
  | nil => exact Nat.le_refl _
  | cons c rest ih =>
      have positive := c.utf8Size_pos
      rw [List.flatMap_cons, List.length_append, List.length_cons, String.length_utf8EncodeChar]
      omega

theorem not_cursorFits_letters (collection fingerprint id : String) {count : Nat}
    (long : 1536 < count) : ¬CursorFits collection fingerprint ⟨letters count, id⟩ := by
  rw [CursorFits, envelopeBytes_eq, Nat.not_le]
  refine Nat.lt_of_lt_of_le ?_ (length_le_length_utf8 _)
  have key := length_jsonString_letters count
  simp only [envelopeText, cursorEnvelope, List.length_append, List.length_cons]
  omega

/-- The cursor of a row with a key of 2000 letters is handed out and refused. -/
theorem not_walk_longKey :
    ¬∀ (rows : List CursorPosition) (requests : Nat), Ordered (Before false) id rows →
      ∃ seen, walk id (pagesOf 1) "users" (queryFingerprint [])
        (List.replicate requests rows) none = .ok seen := by
  intro always
  obtain ⟨seen, accepted⟩ := always (twoRows (letters 2000)) 1 (ordered_twoRows _)
  have walked := walk_eq "users" (queryFingerprint []) (paged_pagesOf 1) id
    (List.replicate 1 (twoRows (letters 2000))) none
  have refused : ¬Fit "users" (queryFingerprint []) [⟨letters 2000, "1"⟩] := fun fits =>
    not_cursorFits_letters _ _ _ (by decide) (fits _ List.mem_cons_self)
  rw [Option.map_none, accepted] at walked
  generalize letters 2000 = key at walked refused
  have alone : .ok seen = if Fit "users" (queryFingerprint []) [⟨key, "1"⟩] then
      Except.ok ⟨[⟨key, "1"⟩], false⟩ else .error invalidCursor := walked
  rw [if_neg refused] at alone
  cases alone

end Witness

end Chancela.Collection
