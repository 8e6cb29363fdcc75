import Chancela.Search.Document
import Mathlib.Logic.Function.Basic

/-! # The inverted index

The mutable index: documents by id, posting sets by token, gram sets by window of three
characters, and the ids in order. Over any history of updates it represents the plain list
of documents the same history leaves (`Chancela.Search.represents_history`).
-/

namespace Chancela.Search

/-- A `HashMap<String, BTreeSet<String>>`. -/
abbrev Postings := String → Option (Finset String)

namespace Postings

def ids (postings : Postings) (key : String) : Finset String := (postings key).getD ∅

/-- `entry(key).or_default().insert(id)`. -/
def add (id : String) (postings : Postings) (key : String) : Postings :=
  Function.update postings key (some (insert id (postings.ids key)))

/-- Take an id from the set under a key, and the key with its last id. -/
def drop (id : String) (postings : Postings) (key : String) : Postings :=
  match postings key with
  | none => postings
  | some held =>
      Function.update postings key (if held.erase id = ∅ then none else some (held.erase id))

theorem ids_update (postings : Postings) (key : String) (entry : Option (Finset String))
    (query : String) : ids (Function.update postings key entry) query =
      if query = key then entry.getD ∅ else postings.ids query := by
  by_cases same : query = key
  · subst same
    simp [ids]
  · simp [ids, same]

variable {postings : Postings}

theorem mem_ids_add {id other key query : String} :
    other ∈ (postings.add id key).ids query ↔
      other ∈ postings.ids query ∨ (query = key ∧ other = id) := by
  rw [add, ids_update]
  by_cases same : query = key
  · subst same
    simp [or_comm]
  · simp [same]

theorem mem_ids_foldl_add {id other query : String} {keys : List String} :
    other ∈ (keys.foldl (add id) postings).ids query ↔
      other ∈ postings.ids query ∨ (query ∈ keys ∧ other = id) := by
  induction keys generalizing postings with
  | nil => simp
  | cons key rest ih =>
      rw [List.foldl_cons, ih, mem_ids_add]
      simp only [List.mem_cons]
      tauto

theorem mem_ids_drop {id other key query : String} :
    other ∈ (postings.drop id key).ids query ↔
      other ∈ postings.ids query ∧ ¬(query = key ∧ other = id) := by
  rw [drop]
  cases held : postings key with
  | none =>
      simp only [iff_self_and]
      rintro member ⟨rfl, -⟩
      simp [ids, held] at member
  | some set =>
      rw [ids_update]
      by_cases same : query = key
      · subst same
        have known : postings.ids query = set := by simp [ids, held]
        rw [if_pos rfl, known]
        by_cases empty : set.erase id = ∅
        · have onlyId : ∀ x ∈ set, x = id := fun x member => by
            by_contra different
            have kept := Finset.mem_erase.mpr ⟨different, member⟩
            rw [empty] at kept
            exact absurd kept (Finset.notMem_empty x)
          rw [if_pos empty]
          simp only [Option.getD_none, Finset.notMem_empty, true_and, false_iff, not_and, not_not]
          exact onlyId other
        · rw [if_neg empty]
          simp [and_comm]
      · rw [if_neg same]
        simp [same]

theorem mem_ids_foldl_drop {id other query : String} {keys : List String} :
    other ∈ (keys.foldl (drop id) postings).ids query ↔
      other ∈ postings.ids query ∧ ¬(query ∈ keys ∧ other = id) := by
  induction keys generalizing postings with
  | nil => simp
  | cons key rest ih =>
      rw [List.foldl_cons, ih, mem_ids_drop]
      simp only [List.mem_cons]
      tauto

end Postings

structure InMemoryIndex where
  documents : String → Option IndexedDocument
  postings : Postings
  grams : Postings
  orderedIds : Finset String

/-- `InMemoryIndex::default`. -/
def InMemoryIndex.empty : InMemoryIndex where
  documents _ := none
  postings _ := none
  grams _ := none
  orderedIds := ∅

/-- What the loop of `delete` carries from token to token. -/
structure DeleteState where
  postings : Postings
  grams : Postings
  empty : List String

/-- One token of the loop of `delete`. Tokens left without ids are removed after the loop,
grams at once. -/
def deleteToken (id : String) (state : DeleteState) (token : String) : DeleteState :=
  let grams := (tokenGrams token).sort.foldl (Postings.drop id) state.grams
  match state.postings token with
  | none => { state with grams }
  | some held =>
      { postings := Function.update state.postings token (some (held.erase id))
        grams
        empty := if held.erase id = ∅ then state.empty ++ [token] else state.empty }

/-- `InMemoryIndex::delete`, with whether the id was held. -/
def InMemoryIndex.delete (index : InMemoryIndex) (id : String) : InMemoryIndex × Bool :=
  match index.documents id with
  | none => (index, false)
  | some previous =>
      let state := previous.tokens.sort.foldl (deleteToken id) ⟨index.postings, index.grams, []⟩
      ({ documents := Function.update index.documents id none
         postings := state.empty.foldl (fun held token => Function.update held token none)
           state.postings
         grams := state.grams
         orderedIds := index.orderedIds.erase id }, true)

inductive IndexOperation where
  | upsert (document : SearchDocument)
  | delete (id : String)

/-- The calls that change an index. -/
inductive Update where
  | upsert (document : SearchDocument)
  | delete (id : String)
  | apply (operations : List IndexOperation)
  | replace (documents : List SearchDocument)

section Updates

variable [Unicode]

def InMemoryIndex.upsert (index : InMemoryIndex) (document : SearchDocument) : InMemoryIndex :=
  let index := (index.delete document.id).1
  let indexed := IndexedDocument.new document
  { documents := Function.update index.documents document.id (some indexed)
    postings := indexed.tokens.sort.foldl (Postings.add document.id) index.postings
    grams := indexed.tokens.sort.foldl
      (fun grams token => (tokenGrams token).sort.foldl (Postings.add document.id) grams)
      index.grams
    orderedIds := insert document.id index.orderedIds }

/-- One operation of `InMemoryIndex::apply`. -/
def InMemoryIndex.operate (index : InMemoryIndex) : IndexOperation → InMemoryIndex
  | .upsert document => index.upsert document
  | .delete id => (index.delete id).1

def InMemoryIndex.apply (index : InMemoryIndex) (operations : List IndexOperation) :
    InMemoryIndex := operations.foldl InMemoryIndex.operate index

/-- `InMemoryIndex::replace`, which clears every map first. -/
def InMemoryIndex.replace (documents : List SearchDocument) : InMemoryIndex :=
  documents.foldl InMemoryIndex.upsert .empty

def InMemoryIndex.update (index : InMemoryIndex) : Update → InMemoryIndex
  | .upsert document => index.upsert document
  | .delete id => (index.delete id).1
  | .apply operations => index.apply operations
  | .replace documents => .replace documents

def InMemoryIndex.history (updates : List Update) : InMemoryIndex :=
  updates.foldl InMemoryIndex.update .empty

def InMemoryIndex.get (index : InMemoryIndex) (id : String) : Option SearchDocument :=
  (index.documents id).map IndexedDocument.document

end Updates

/-! ## The plain list of documents -/

abbrev Corpus := List SearchDocument

namespace Corpus

def delete (corpus : Corpus) (id : String) : Corpus := corpus.filter (·.id ≠ id)

def upsert (corpus : Corpus) (document : SearchDocument) : Corpus :=
  corpus.delete document.id ++ [document]

def operate (corpus : Corpus) : IndexOperation → Corpus
  | .upsert document => corpus.upsert document
  | .delete id => corpus.delete id

def update (corpus : Corpus) : Update → Corpus
  | .upsert document => corpus.upsert document
  | .delete id => corpus.delete id
  | .apply operations => operations.foldl operate corpus
  | .replace documents => documents.foldl upsert []

def history (updates : List Update) : Corpus := updates.foldl update []

theorem mem_delete {corpus : Corpus} {id : String} {document : SearchDocument} :
    document ∈ corpus.delete id ↔ document ∈ corpus ∧ document.id ≠ id := by
  simp [delete]

def Distinct (corpus : Corpus) : Prop := (corpus.map SearchDocument.id).Nodup

theorem Distinct.eq_of_id {corpus : Corpus} (distinct : corpus.Distinct)
    {first second : SearchDocument} (member : first ∈ corpus) (member' : second ∈ corpus)
    (same : first.id = second.id) : first = second :=
  List.inj_on_of_nodup_map distinct member member' same

theorem Distinct.delete {corpus : Corpus} (distinct : corpus.Distinct) (id : String) :
    (corpus.delete id).Distinct :=
  distinct.sublist (List.filter_sublist.map _)

theorem Distinct.upsert {corpus : Corpus} (distinct : corpus.Distinct)
    (document : SearchDocument) : (corpus.upsert document).Distinct := by
  rw [Distinct, Corpus.upsert, List.map_append, List.map_singleton]
  refine List.Nodup.append (distinct.delete document.id) (List.nodup_singleton _) ?_
  intro id member single
  obtain ⟨other, kept, rfl⟩ := List.mem_map.mp member
  exact (mem_delete.mp kept).2 (List.mem_singleton.mp single)

end Corpus

section Represents

variable [Unicode] {index : InMemoryIndex} {corpus : Corpus}

/-- An index represents a list of documents: every map holds what the documents determine. -/
structure Represents (index : InMemoryIndex) (corpus : Corpus) : Prop where
  distinct : corpus.Distinct
  documents : ∀ id indexed, index.documents id = some indexed ↔
    ∃ document ∈ corpus, document.id = id ∧ indexed = .new document
  orderedIds : ∀ id, id ∈ index.orderedIds ↔ ∃ document ∈ corpus, document.id = id
  postings : ∀ token id, id ∈ index.postings.ids token ↔
    ∃ document ∈ corpus, document.id = id ∧ token ∈ (IndexedDocument.new document).tokens
  grams : ∀ gram id, id ∈ index.grams.ids gram ↔
    ∃ document ∈ corpus, document.id = id ∧
      ∃ token ∈ (IndexedDocument.new document).tokens, gram ∈ tokenGrams token

theorem represents_empty : Represents .empty [] where
  distinct := List.nodup_nil
  documents _ _ := by simp [InMemoryIndex.empty]
  orderedIds _ := by simp [InMemoryIndex.empty]
  postings _ _ := by simp [InMemoryIndex.empty, Postings.ids]
  grams _ _ := by simp [InMemoryIndex.empty, Postings.ids]

omit [Unicode] in
/-- What the loop of `delete` leaves: the id is gone from the sets of the tokens and of
their grams, and the keys set aside have no ids left. -/
theorem foldl_deleteToken (id : String) (tokens : List String) (state : DeleteState)
    (aside : ∀ token ∈ state.empty, state.postings.ids token = ∅) :
    let result := tokens.foldl (deleteToken id) state
    (∀ query other, other ∈ result.postings.ids query ↔
      other ∈ state.postings.ids query ∧ ¬(query ∈ tokens ∧ other = id)) ∧
    (∀ query other, other ∈ result.grams.ids query ↔
      other ∈ state.grams.ids query ∧
        ¬((∃ token ∈ tokens, query ∈ tokenGrams token) ∧ other = id)) ∧
    ∀ token ∈ result.empty, result.postings.ids token = ∅ := by
  induction tokens generalizing state with
  | nil => simpa using aside
  | cons token rest ih =>
      have postings : ∀ query other, other ∈ (deleteToken id state token).postings.ids query ↔
          other ∈ state.postings.ids query ∧ ¬(query = token ∧ other = id) := by
        intro query other
        rw [deleteToken]
        cases held : state.postings token with
        | none =>
            simp only [iff_self_and]
            rintro member ⟨rfl, -⟩
            simp [Postings.ids, held] at member
        | some set =>
            simp only [Postings.ids_update]
            by_cases same : query = token
            · subst same
              simp [Postings.ids, held, and_comm]
            · simp [same]
      have grams : ∀ query other, other ∈ (deleteToken id state token).grams.ids query ↔
          other ∈ state.grams.ids query ∧ ¬(query ∈ tokenGrams token ∧ other = id) := by
        intro query other
        have dropped : (deleteToken id state token).grams =
            (tokenGrams token).sort.foldl (Postings.drop id) state.grams := by
          rw [deleteToken]
          cases state.postings token <;> rfl
        rw [dropped, Postings.mem_ids_foldl_drop, Finset.mem_sort]
      have set_aside : ∀ key ∈ (deleteToken id state token).empty,
          (deleteToken id state token).postings.ids key = ∅ := by
        intro key member
        by_cases old : key ∈ state.empty
        · have gone := aside key old
          ext other
          rw [postings, gone]
          simp
        · rw [deleteToken] at member ⊢
          cases held : state.postings token with
          | none =>
              rw [held] at member
              exact absurd member old
          | some set =>
              simp only [held] at member ⊢
              split at member
              · next emptied =>
                  rcases List.mem_append.mp member with before | new
                  · exact absurd before old
                  · rw [Postings.ids_update, if_pos (List.mem_singleton.mp new), Option.getD_some]
                    exact emptied
              · exact absurd member old
      obtain ⟨left, right, last⟩ := ih (deleteToken id state token) set_aside
      refine ⟨fun query other => ?_, fun query other => ?_, last⟩
      · rw [List.foldl_cons, left, postings]
        simp only [List.mem_cons]
        tauto
      · rw [List.foldl_cons, right, grams]
        simp only [List.mem_cons, exists_eq_or_imp]
        rw [or_and_right, not_or, and_assoc]

omit [Unicode] in
theorem ids_foldl_remove {keys : List String} (empty : ∀ key ∈ keys, postings.ids key = ∅)
    (query : String) :
    Postings.ids (keys.foldl (fun held key => Function.update held key none) postings) query =
      postings.ids query := by
  suffices general : ∀ held : Postings, held.ids = postings.ids →
      Postings.ids (keys.foldl (fun held key => Function.update held key none) held) =
        postings.ids by
    exact congrFun (general postings rfl) query
  induction keys with
  | nil => exact fun _ equal => equal
  | cons key rest ih =>
      intro held equal
      apply ih fun other member => empty other (List.mem_cons_of_mem key member)
      ext1 other
      rw [Postings.ids_update, equal]
      split
      · next named =>
          rw [named, empty key List.mem_cons_self]
          rfl
      · rfl

/-- **Deleting refines deleting.** -/
theorem Represents.delete (represents : Represents index corpus) (id : String) :
    Represents (index.delete id).1 (corpus.delete id) := by
  rw [InMemoryIndex.delete]
  cases held : index.documents id with
  | none =>
      have absent : ∀ document ∈ corpus, document.id ≠ id := by
        intro document member same
        have present := (represents.documents id (.new document)).mpr
          ⟨document, member, same, rfl⟩
        rw [held] at present
        cases present
      have unchanged : corpus.delete id = corpus :=
        List.filter_eq_self.mpr fun document member => by simpa using absent document member
      rw [unchanged]
      exact represents
  | some previous =>
      obtain ⟨removed, member, rfl, rfl⟩ := (represents.documents id previous).mp held
      have unique : ∀ document ∈ corpus, document.id = removed.id → document = removed :=
        fun document member' same => represents.distinct.eq_of_id member' member same
      obtain ⟨postings, grams, aside⟩ := foldl_deleteToken removed.id
        (IndexedDocument.new removed).tokens.sort ⟨index.postings, index.grams, []⟩
        (fun _ m => nomatch m)
      refine ⟨represents.distinct.delete removed.id, fun id indexed => ?_, fun id => ?_,
        fun token id => ?_, fun gram id => ?_⟩
      · by_cases same : id = removed.id
        · subst same
          simp only [Function.update_self]
          constructor
          · exact fun absent => nomatch absent
          · rintro ⟨document, kept, named, -⟩
            exact absurd named (Corpus.mem_delete.mp kept).2
        · simp only [Function.update_of_ne same, represents.documents, Corpus.mem_delete]
          constructor
          · rintro ⟨document, inside, rfl, rfl⟩
            exact ⟨document, ⟨inside, same⟩, rfl, rfl⟩
          · rintro ⟨document, ⟨inside, -⟩, named, equal⟩
            exact ⟨document, inside, named, equal⟩
      · simp only [Finset.mem_erase, represents.orderedIds, Corpus.mem_delete]
        constructor
        · rintro ⟨different, document, inside, rfl⟩
          exact ⟨document, ⟨inside, different⟩, rfl⟩
        · rintro ⟨document, ⟨inside, different⟩, rfl⟩
          exact ⟨different, document, inside, rfl⟩
      · simp only [ids_foldl_remove aside, postings, represents.postings, Finset.mem_sort,
          Corpus.mem_delete]
        constructor
        · rintro ⟨⟨document, inside, rfl, carried⟩, kept⟩
          refine ⟨document, ⟨inside, fun same => kept ⟨?_, same⟩⟩, rfl, carried⟩
          rw [← unique document inside same]
          exact carried
        · rintro ⟨document, ⟨inside, different⟩, rfl, carried⟩
          exact ⟨⟨document, inside, rfl, carried⟩, fun both => different both.2⟩
      · simp only [grams, represents.grams, Finset.mem_sort, Corpus.mem_delete]
        constructor
        · rintro ⟨⟨document, inside, rfl, carried⟩, kept⟩
          refine ⟨document, ⟨inside, fun same => kept ⟨?_, same⟩⟩, rfl, carried⟩
          rw [← unique document inside same]
          exact carried
        · rintro ⟨document, ⟨inside, different⟩, rfl, carried⟩
          exact ⟨⟨document, inside, rfl, carried⟩, fun both => different both.2⟩

omit [Unicode] in
theorem mem_ids_foldl_grams {grams : Postings} {id other query : String} {tokens : List String} :
    other ∈ Postings.ids (tokens.foldl
        (fun grams token => (tokenGrams token).sort.foldl (Postings.add id) grams) grams) query ↔
      other ∈ grams.ids query ∨ ((∃ token ∈ tokens, query ∈ tokenGrams token) ∧ other = id) := by
  induction tokens generalizing grams with
  | nil => simp
  | cons token rest ih =>
      rw [List.foldl_cons, ih, Postings.mem_ids_foldl_add, Finset.mem_sort]
      simp only [List.mem_cons, exists_eq_or_imp]
      tauto

/-- **Upserting refines upserting.** -/
theorem Represents.upsert (represents : Represents index corpus) (document : SearchDocument) :
    Represents (index.upsert document) (corpus.upsert document) := by
  have cleared := represents.delete document.id
  refine ⟨represents.distinct.upsert document, fun id indexed => ?_, fun id => ?_,
    fun token id => ?_, fun gram id => ?_⟩
  · simp only [InMemoryIndex.upsert, Function.update_apply, Corpus.upsert, List.mem_append,
      List.mem_singleton]
    by_cases same : id = document.id
    · subst same
      rw [if_pos rfl, Option.some.injEq]
      constructor
      · rintro rfl
        exact ⟨document, .inr rfl, rfl, rfl⟩
      · rintro ⟨other, old | rfl, named, rfl⟩
        · exact absurd named (Corpus.mem_delete.mp old).2
        · rfl
    · rw [if_neg same, cleared.documents]
      constructor
      · rintro ⟨other, old, named, equal⟩
        exact ⟨other, .inl old, named, equal⟩
      · rintro ⟨other, old | rfl, named, equal⟩
        · exact ⟨other, old, named, equal⟩
        · exact absurd named.symm same
  · simp only [InMemoryIndex.upsert, Finset.mem_insert, cleared.orderedIds, Corpus.upsert,
      List.mem_append, List.mem_singleton]
    constructor
    · rintro (rfl | ⟨other, old, rfl⟩)
      · exact ⟨document, .inr rfl, rfl⟩
      · exact ⟨other, .inl old, rfl⟩
    · rintro ⟨other, old | rfl, rfl⟩
      · exact .inr ⟨other, old, rfl⟩
      · exact .inl rfl
  · simp only [InMemoryIndex.upsert, Postings.mem_ids_foldl_add, Finset.mem_sort,
      cleared.postings, Corpus.upsert, List.mem_append, List.mem_singleton]
    constructor
    · rintro (⟨other, old, rfl, carried⟩ | ⟨carried, rfl⟩)
      · exact ⟨other, .inl old, rfl, carried⟩
      · exact ⟨document, .inr rfl, rfl, carried⟩
    · rintro ⟨other, old | rfl, rfl, carried⟩
      · exact .inl ⟨other, old, rfl, carried⟩
      · exact .inr ⟨carried, rfl⟩
  · simp only [InMemoryIndex.upsert, mem_ids_foldl_grams, Finset.mem_sort, cleared.grams,
      Corpus.upsert, List.mem_append, List.mem_singleton]
    constructor
    · rintro (⟨other, old, rfl, carried⟩ | ⟨carried, rfl⟩)
      · exact ⟨other, .inl old, rfl, carried⟩
      · exact ⟨document, .inr rfl, rfl, carried⟩
    · rintro ⟨other, old | rfl, rfl, carried⟩
      · exact .inl ⟨other, old, rfl, carried⟩
      · exact .inr ⟨carried, rfl⟩

theorem Represents.operate (represents : Represents index corpus) (operation : IndexOperation) :
    Represents (index.operate operation) (corpus.operate operation) := by
  cases operation with
  | upsert document => exact represents.upsert document
  | delete id => exact represents.delete id

theorem Represents.update (represents : Represents index corpus) (update : Update) :
    Represents (index.update update) (corpus.update update) := by
  cases update with
  | upsert document => exact represents.upsert document
  | delete id => exact represents.delete id
  | apply operations =>
      exact List.foldl_rel (r := Represents) represents
        fun operation _ _ _ current => current.operate operation
  | replace documents =>
      exact List.foldl_rel (r := Represents) represents_empty
        fun document _ _ _ current => current.upsert document

/-- **The index represents the documents its history leaves.** -/
theorem represents_history (updates : List Update) :
    Represents (.history updates) (Corpus.history updates) :=
  List.foldl_rel (r := Represents) represents_empty
    fun update _ _ _ current => current.update update

/-- `get` reads the documents. -/
theorem Represents.get_eq_some_iff (represents : Represents index corpus) {id : String}
    {document : SearchDocument} :
    index.get id = some document ↔ document ∈ corpus ∧ document.id = id := by
  rw [InMemoryIndex.get, Option.map_eq_some_iff]
  constructor
  · rintro ⟨indexed, held, rfl⟩
    obtain ⟨document, member, named, rfl⟩ := (represents.documents id indexed).mp held
    exact ⟨member, named⟩
  · rintro ⟨member, named⟩
    exact ⟨.new document, (represents.documents id _).mpr ⟨document, member, named, rfl⟩, rfl⟩

end Represents

end Chancela.Search
