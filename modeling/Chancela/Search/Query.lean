import Chancela.Search.Facets
import Chancela.Search.Index
import Mathlib.Order.WithBot

/-! # Queries

`search_with_access` narrows the documents to one posting or gram set, reads each candidate
in the tier the caller's access selects, and makes a page of what passes. Candidate
narrowing drops no document that passes (`Chancela.Search.admittedIn_candidateIds`), so the
page is that of all visible documents (`Chancela.Search.searchWithAccess_eq`).
-/

namespace Chancela.Search

structure SearchQuery where
  text : String
  filters : SearchFilters
  offset : Nat
  limit : Nat
  snippetChars : Nat
  facetLimit : Nat

structure SearchHit where
  id : String
  kind : SearchKind
  title : String
  snippet : String
  contentTruncated : Bool
  score : Nat
  tenantId : Option String
  entityId : Option String
  entityName : Option String
  bookId : Option String
  bookLabel : Option String
  actId : Option String
  author : Option String
  law : Option String
  status : Option String
  occurredAt : Option String
deriving DecidableEq, Repr

structure SearchPage where
  total : Nat
  offset : Nat
  limit : Nat
  hasMore : Bool
  hits : List SearchHit
  facets : SearchFacets
  facetsTruncated : Bool
deriving DecidableEq, Repr

structure RankedCandidate where
  score : Nat
  indexed : IndexedDocument
  access : SearchAccess

/-- `Ord` of a ranked candidate: score descending, time descending, id ascending. An absent
time comes before every present one, so last. -/
def rankOf (score : Nat) (document : SearchDocument) :
    Natᵒᵈ ×ₗ (WithBot String)ᵒᵈ ×ₗ String :=
  toLex (OrderDual.toDual score,
    toLex (OrderDual.toDual (document.occurredAt : WithBot String), document.id))

def RankedCandidate.rank (candidate : RankedCandidate) : Natᵒᵈ ×ₗ (WithBot String)ᵒᵈ ×ₗ String :=
  rankOf candidate.score candidate.indexed.document

namespace SearchQuery

/-- `query.limit.max(1)`. -/
def pageLimit (query : SearchQuery) : Nat := max query.limit 1

/-- `query.facet_limit.max(1).saturating_mul(4).clamp(4, 4_096)`. -/
def facetCapacity (query : SearchQuery) : Nat := min (max (max query.facetLimit 1 * 4) 4) 4096

def emptyPage (query : SearchQuery) : SearchPage where
  total := 0
  offset := query.offset
  limit := query.pageLimit
  hasMore := false
  hits := []
  facets := .empty
  facetsTruncated := false

variable [Unicode]

/-- `normalize(query.text.trim())`. -/
def phrase (query : SearchQuery) : String := normalize (Text.trim query.text)

/-- `tokenize(&normalized_query)`. -/
def tokens (query : SearchQuery) : List String := tokenize query.phrase

/-- A nonempty query holds a token of one character, and is answered with nothing. -/
def HasShortToken (query : SearchQuery) : Prop :=
  query.phrase ≠ "" ∧ ∃ token ∈ query.tokens, token.toList.length < 2

instance (query : SearchQuery) : Decidable query.HasShortToken :=
  inferInstanceAs (Decidable (_ ∧ _))

end SearchQuery

/-- The ids under which a query token may be found: by its first gram, or by the whole token
when it is shorter. -/
def InMemoryIndex.tokenIds (index : InMemoryIndex) (queryToken : String) : Option (Finset String) :=
  match firstTokenGram queryToken with
  | some gram => index.grams gram
  | none => index.postings queryToken

/-- The loop of `candidate_ids`: the smallest set so far. -/
def InMemoryIndex.narrow (index : InMemoryIndex) :
    Option (Finset String) → List String → Option (Finset String)
  | candidate, [] => candidate
  | candidate, queryToken :: rest =>
      match index.tokenIds queryToken with
      | none => none
      | some tokenIds =>
          index.narrow (if candidate.all (fun existing => tokenIds.card < existing.card)
            then some tokenIds else candidate) rest

def InMemoryIndex.candidateIds (index : InMemoryIndex) (queryTokens : List String) :
    Option (Finset String) :=
  if queryTokens = [] then some index.orderedIds else index.narrow none queryTokens

/-- What the first pass accumulates. -/
structure ScanState where
  ranked : List RankedCandidate
  total : Nat
  facets : SearchFacets
  facetsTruncated : Bool

section Search

variable [Unicode]

/-- The checks both passes make on an id: held, accessible, within the filters, matching
every query token. -/
def InMemoryIndex.admit_ (index : InMemoryIndex) (query : SearchQuery)
    (access : SearchDocument → Option SearchAccess) (id : String) :
    Option (IndexedDocument × SearchAccess) := do
  let indexed ← index.documents id
  let tier ← access indexed.document
  let (indexedContent, content) := indexed.projection tier
  guard (matchesFilters indexed.document content query.filters)
  guard (query.tokens = [] ∨ query.tokens.all indexedContent.matchesToken)
  return (indexed, tier)

/-- The rest of the first pass on an id that passed them. -/
def visit (query : SearchQuery) (state : ScanState) (admitted : IndexedDocument × SearchAccess) :
    ScanState :=
  let (indexed, access) := admitted
  let (indexedContent, content) := indexed.projection access
  let score := score indexedContent query.phrase query.tokens
  if query.phrase ≠ "" ∧ score = 0 then state
  else
    let (facets, cut) := addFacets state.facets indexed.document content query.facetCapacity
    let retainedLimit := query.offset + query.pageLimit
    { ranked :=
        if retainedLimit = 0 then state.ranked
        else Selection.offer RankedCandidate.rank retainedLimit state.ranked
          { score, indexed, access }
      total := state.total + 1
      facets
      facetsTruncated := state.facetsTruncated || cut }

/-- The first pass: ranking, counting and the discovery of facet keys. -/
def InMemoryIndex.firstPass (index : InMemoryIndex) (query : SearchQuery)
    (access : SearchDocument → Option SearchAccess) (candidates : Finset String) : ScanState :=
  candidates.sort.foldl
    (fun state id => match index.admit_ query access id with
      | none => state
      | some admitted => visit query state admitted)
    ⟨[], 0, .empty, false⟩

/-- The second pass: exact counts of the facet keys. It makes the checks of the first pass
but the last, on the score. -/
def InMemoryIndex.secondPass (index : InMemoryIndex) (query : SearchQuery)
    (access : SearchDocument → Option SearchAccess) (candidates : Finset String)
    (facets : SearchFacets) : SearchFacets :=
  candidates.sort.foldl
    (fun facets id => match index.admit_ query access id with
      | none => facets
      | some admitted =>
          addSelectedFacets facets admitted.1.document (admitted.1.projection admitted.2).2)
    facets

def RankedCandidate.hit (query : SearchQuery) (candidate : RankedCandidate) : SearchHit :=
  let document := candidate.indexed.document
  let content := (candidate.indexed.projection candidate.access).2
  { id := document.id
    kind := document.kind
    title := content.title
    snippet := snippet content.body query.tokens (max query.snippetChars 32)
    contentTruncated := content.contentTruncated
    score := candidate.score
    tenantId := document.tenantId
    entityId := document.entityId
    entityName := content.entityName
    bookId := document.bookId
    bookLabel := content.bookLabel
    actId := document.actId
    author := content.author
    law := content.law
    status := content.status
    occurredAt := document.occurredAt }

/-- `InMemoryIndex::search_with_access`. The heap is the ranked list of what it holds. -/
def InMemoryIndex.searchWithAccess (index : InMemoryIndex) (query : SearchQuery)
    (access : SearchDocument → Option SearchAccess) : SearchPage :=
  if query.HasShortToken then query.emptyPage
  else
    match index.candidateIds query.tokens with
    | none => query.emptyPage
    | some candidates =>
        let first := index.firstPass query access candidates
        let facetLimit := max query.facetLimit 1
        let recounted :=
          index.secondPass query access candidates first.facets.resetSelectedCounts
        let ranked := Selection.sortBy RankedCandidate.rank first.ranked
        let hits := ((ranked.drop query.offset).take query.pageLimit).map
          (RankedCandidate.hit query)
        { total := first.total
          offset := query.offset
          limit := query.pageLimit
          hasMore := decide (query.offset + hits.length < first.total)
          hits
          facets := recounted.truncate facetLimit
          facetsTruncated := first.facetsTruncated || first.facets.exceeds facetLimit }

def InMemoryIndex.search (index : InMemoryIndex) (query : SearchQuery) : SearchPage :=
  index.searchWithAccess query fun _ => some .privileged

def InMemoryIndex.searchWith (index : InMemoryIndex) (query : SearchQuery)
    (allowed : SearchDocument → Bool) : SearchPage :=
  index.searchWithAccess query fun document => if allowed document then some .public else none

/-! ## Pages of visible documents -/

def view (access : SearchDocument → Option SearchAccess) (document : SearchDocument) :
    Option SearchDocument := (access document).map document.visible

namespace SearchQuery

/-- A visible document is within the filters and matches every query token. -/
def admits (query : SearchQuery) (document : SearchDocument) : Bool :=
  matchesFilters document (.public document) query.filters &&
    decide (query.tokens = [] ∨ query.tokens.all
      (IndexedContent.new document.title document.body).matchesToken)

def scoreOf (query : SearchQuery) (document : SearchDocument) : Nat :=
  score (IndexedContent.new document.title document.body) query.phrase query.tokens

def scores (query : SearchQuery) (document : SearchDocument) : Bool :=
  decide (¬(query.phrase ≠ "" ∧ query.scoreOf document = 0))

def rank (query : SearchQuery) (document : SearchDocument) :
    Natᵒᵈ ×ₗ (WithBot String)ᵒᵈ ×ₗ String := rankOf (query.scoreOf document) document

def hit (query : SearchQuery) (document : SearchDocument) : SearchHit where
  id := document.id
  kind := document.kind
  title := document.title
  snippet := snippet document.body query.tokens (max query.snippetChars 32)
  contentTruncated := document.contentTruncated
  score := query.scoreOf document
  tenantId := document.tenantId
  entityId := document.entityId
  entityName := document.entityName
  bookId := document.bookId
  bookLabel := document.bookLabel
  actId := document.actId
  author := document.author
  law := document.law
  status := document.status
  occurredAt := document.occurredAt

def discover (query : SearchQuery) (found : SearchFacets × Bool) (document : SearchDocument) :
    SearchFacets × Bool :=
  let (facets, cut) := addFacets found.1 document (.public document) query.facetCapacity
  (facets, found.2 || cut)

/-- The hits of a page: the window of the documents in rank order. -/
def window (query : SearchQuery) (limit : Nat) (documents : List SearchDocument) :
    List SearchHit :=
  (((Selection.sortBy query.rank documents).drop query.offset).take limit).map query.hit

/-- The page made of the admitted visible documents, in id order. -/
def page (query : SearchQuery) (documents : List SearchDocument) : SearchPage :=
  let scored := documents.filter query.scores
  let found := scored.foldl query.discover (.empty, false)
  let hits := query.window query.pageLimit scored
  { total := scored.length
    offset := query.offset
    limit := query.pageLimit
    hasMore := decide (query.offset + hits.length < scored.length)
    hits
    facets := (found.1.recount documents).truncate (max query.facetLimit 1)
    facetsTruncated := found.2 || found.1.exceeds (max query.facetLimit 1) }

omit [Unicode] in
theorem truncate_empty (limit : Nat) : SearchFacets.empty.truncate limit = .empty := by
  simp [SearchFacets.truncate, SearchFacets.empty, truncateFacet, truncateLabeledFacet,
    truncateWith]

theorem page_nil (query : SearchQuery) : query.page [] = query.emptyPage := by
  have exceeds : SearchFacets.empty.exceeds (max query.facetLimit 1) = false := by
    simp [SearchFacets.exceeds, SearchFacets.empty]
  have recounted : SearchFacets.empty.recount [] = .empty := rfl
  simp [page, emptyPage, window, Selection.sortBy, recounted, truncate_empty, exceeds]

end SearchQuery

section Passes

variable {query : SearchQuery}

abbrev Authorized := SearchDocument × SearchAccess

def seen (authorized : Authorized) : SearchDocument := authorized.1.visible authorized.2

def indexedPair (authorized : Authorized) : IndexedDocument × SearchAccess :=
  (.new authorized.1, authorized.2)

def SearchQuery.candidate (query : SearchQuery) (authorized : Authorized) : RankedCandidate where
  score := query.scoreOf (seen authorized)
  indexed := .new authorized.1
  access := authorized.2

theorem rank_candidate (authorized : Authorized) :
    (query.candidate authorized).rank = query.rank (seen authorized) := by
  simp [RankedCandidate.rank, SearchQuery.candidate, SearchQuery.rank, rankOf, seen,
    IndexedDocument.new]

theorem hit_candidate (authorized : Authorized) :
    (query.candidate authorized).hit query = query.hit (seen authorized) := by
  obtain ⟨document, access⟩ := authorized
  rcases IndexedDocument.projection_new_cases document access with ⟨shown, same⟩ | ⟨_, shown, same⟩
  all_goals
    simp only [RankedCandidate.hit, SearchQuery.candidate, SearchQuery.hit, seen, shown, same]
    rfl

theorem visit_indexedPair (state : ScanState) (authorized : Authorized) :
    visit query state (indexedPair authorized) =
      if query.scores (seen authorized) then
        let found := query.discover (state.facets, state.facetsTruncated) (seen authorized)
        { ranked := Selection.offer RankedCandidate.rank (query.offset + query.pageLimit)
            state.ranked (query.candidate authorized)
          total := state.total + 1
          facets := found.1
          facetsTruncated := found.2 }
      else state := by
  have positive : query.offset + query.pageLimit ≠ 0 := by
    have bound := Nat.le_max_right query.limit 1
    rw [SearchQuery.pageLimit]
    omega
  have scored : score ((IndexedDocument.new authorized.1).projection authorized.2).1 query.phrase
      query.tokens = query.scoreOf (seen authorized) := by
    rw [IndexedDocument.new_projection]
    rfl
  have facets := addFacets_visible state.facets authorized.1 authorized.2 query.facetCapacity
  by_cases zero : query.phrase ≠ "" ∧ query.scoreOf (seen authorized) = 0
  · have fails : query.scores (seen authorized) = false := decide_eq_false (not_not.mpr zero)
    simp only [visit, indexedPair, scored, fails]
    rw [if_pos zero]
    rfl
  · have holds : query.scores (seen authorized) = true := decide_eq_true zero
    simp only [visit, indexedPair, scored, holds, positive, ↓reduceIte]
    rw [if_neg zero, show (IndexedDocument.new authorized.1).document = authorized.1 from rfl,
      facets]
    rfl

/-- **The first pass, in terms of what is seen.** -/
theorem foldl_visit (authorized : List Authorized) (state : ScanState) :
    (authorized.map indexedPair).foldl (visit query) state =
      let scored := authorized.filter fun pair => query.scores (seen pair)
      let found := (scored.map seen).foldl query.discover (state.facets, state.facetsTruncated)
      { ranked := (scored.map query.candidate).foldl
          (Selection.offer RankedCandidate.rank (query.offset + query.pageLimit)) state.ranked
        total := state.total + scored.length
        facets := found.1
        facetsTruncated := found.2 } := by
  induction authorized generalizing state with
  | nil => rfl
  | cons pair rest ih =>
      rw [List.map_cons, List.foldl_cons, ih, visit_indexedPair]
      by_cases scored : query.scores (seen pair) = true
      · simp only [scored, ↓reduceIte, List.filter_cons_of_pos, List.map_cons, List.foldl_cons,
          List.length_cons]
        congr 1
        omega
      · simp only [scored, Bool.false_eq_true, ↓reduceIte, not_false_eq_true,
          List.filter_cons_of_neg]

theorem foldl_addSelectedFacets (authorized : List Authorized) (facets : SearchFacets) :
    (authorized.map indexedPair).foldl (fun facets pair =>
        addSelectedFacets facets pair.1.document (pair.1.projection pair.2).2) facets =
      (authorized.map seen).foldl
        (fun facets document => addSelectedFacets facets document (.public document)) facets := by
  rw [List.foldl_map, List.foldl_map]
  congr 1
  ext1 facets
  ext1 pair
  exact addSelectedFacets_visible facets pair.1 pair.2

end Passes

section Narrowing

variable {index : InMemoryIndex} {corpus : Corpus} {query : SearchQuery}
  {access : SearchDocument → Option SearchAccess}

/-- A document with its tier, where the query admits what is seen of it. -/
def SearchQuery.select (query : SearchQuery) (access : SearchDocument → Option SearchAccess)
    (document : SearchDocument) : Option Authorized :=
  (access document).bind fun tier =>
    if query.admits (document.visible tier) then some (document, tier) else none

theorem SearchQuery.select_eq_some_iff {document : SearchDocument} {authorized : Authorized} :
    query.select access document = some authorized ↔
      authorized.1 = document ∧ access document = some authorized.2 ∧
        query.admits (seen authorized) = true := by
  obtain ⟨other, tier⟩ := authorized
  rw [select, Option.bind_eq_some_iff]
  constructor
  · rintro ⟨tier', granted, picked⟩
    split at picked
    · next admitted =>
        cases picked
        exact ⟨rfl, granted, admitted⟩
    · cases picked
  · rintro ⟨rfl, granted, admitted⟩
    exact ⟨tier, granted, if_pos admitted⟩

theorem Represents.admit_eq (represents : Represents index corpus) (id : String) :
    index.admit_ query access id =
      ((index.get id).bind (query.select access)).map indexedPair := by
  cases held : index.documents id with
  | none => simp [InMemoryIndex.admit_, InMemoryIndex.get, held]
  | some indexed =>
      obtain ⟨document, -, -, rfl⟩ := (represents.documents id indexed).mp held
      have got : index.get id = some document := by
        rw [InMemoryIndex.get, held]
        rfl
      have same : (IndexedDocument.new document).document = document := rfl
      rw [got, Option.bind_some, SearchQuery.select, InMemoryIndex.admit_]
      simp only [held, same, Option.bind_eq_bind, Option.bind_some, matchesFilters_visible,
        IndexedDocument.new_projection]
      cases access document with
      | none => rfl
      | some tier =>
          by_cases filtered : matchesFilters (document.visible tier)
              (.public (document.visible tier)) query.filters = true
          · by_cases matched : query.tokens = [] ∨ ∀ token ∈ query.tokens, (IndexedContent.new
                (document.visible tier).title (document.visible tier).body).matchesToken token
            · simp [SearchQuery.admits, filtered, matched, guard, indexedPair]
            · simp [SearchQuery.admits, filtered, matched, guard]
          · simp [SearchQuery.admits, filtered, guard]

/-- The authorized documents among some ids, in id order. -/
def InMemoryIndex.authorizedIn (index : InMemoryIndex) (query : SearchQuery)
    (access : SearchDocument → Option SearchAccess) (ids : Finset String) : List Authorized :=
  ids.sort.filterMap fun id => (index.get id).bind (query.select access)

omit [Unicode] in
theorem narrow_eq_some {tokens : List String} {candidate : Option (Finset String)}
    {ids : Finset String} (narrowed : index.narrow candidate tokens = some ids) :
    candidate = some ids ∨ ∃ token ∈ tokens, index.tokenIds token = some ids := by
  induction tokens generalizing candidate with
  | nil => exact .inl narrowed
  | cons token rest ih =>
      rw [InMemoryIndex.narrow] at narrowed
      cases held : index.tokenIds token with
      | none =>
          rw [held] at narrowed
          cases narrowed
      | some set =>
          rw [held] at narrowed
          rcases ih narrowed with chosen | ⟨later, member, found⟩
          · split at chosen
            · exact .inr ⟨token, List.mem_cons_self, held.trans chosen⟩
            · exact .inl chosen
          · exact .inr ⟨later, List.mem_cons_of_mem _ member, found⟩

omit [Unicode] in
theorem narrow_eq_none {tokens : List String} {candidate : Option (Finset String)}
    (narrowed : index.narrow candidate tokens = none) :
    (candidate = none ∧ tokens = []) ∨ ∃ token ∈ tokens, index.tokenIds token = none := by
  induction tokens generalizing candidate with
  | nil => exact .inl ⟨narrowed, rfl⟩
  | cons token rest ih =>
      rw [InMemoryIndex.narrow] at narrowed
      cases held : index.tokenIds token with
      | none => exact .inr ⟨token, List.mem_cons_self, held⟩
      | some set =>
          rw [held] at narrowed
          rcases ih narrowed with ⟨nothing, -⟩ | ⟨later, member, found⟩
          · split at nothing
            · cases nothing
            · next kept =>
                rw [nothing] at kept
                exact absurd rfl kept
          · exact .inr ⟨later, List.mem_cons_of_mem _ member, found⟩

/-- **A document is under each token it matches.** -/
theorem Represents.mem_tokenIds (represents : Represents index corpus) {document : SearchDocument}
    {tier : SearchAccess} {token : String} (member : document ∈ corpus)
    (isMatch : (IndexedContent.new (document.visible tier).title
      (document.visible tier).body).matchesToken token = true) :
    document.id ∈ (index.tokenIds token).getD ∅ := by
  rw [← IndexedDocument.new_projection] at isMatch
  simp only [IndexedContent.matchesToken, Bool.or_eq_true, Bool.and_eq_true,
    decide_eq_true_eq] at isMatch
  have carried : ∀ other ∈ ((IndexedDocument.new document).projection tier).1.tokens,
      other ∈ (IndexedDocument.new document).tokens :=
    fun other inside => IndexedDocument.tokens_projection_subset document tier inside
  rw [InMemoryIndex.tokenIds]
  cases first : firstTokenGram token with
  | none =>
      have short := (firstTokenGram_eq_none_iff token).mp first
      rcases isMatch with whole | ⟨long, -⟩
      · exact (represents.postings token document.id).mpr
          ⟨document, member, rfl, carried token whole⟩
      · omega
  | some gram =>
      apply (represents.grams gram document.id).mpr
      rcases isMatch with whole | ⟨-, other, held, inside⟩
      · exact ⟨document, member, rfl, token, carried token whole,
          mem_tokenGrams_of_isInfix List.infix_rfl first⟩
      · exact ⟨document, member, rfl, other, carried other held,
          mem_tokenGrams_of_isInfix ((contains_iff other token).mp inside) first⟩

theorem Represents.tokenIds_subset (represents : Represents index corpus) {token : String}
    {ids : Finset String} (found : index.tokenIds token = some ids) : ids ⊆ index.orderedIds := by
  intro id member
  apply (represents.orderedIds id).mpr
  rw [InMemoryIndex.tokenIds] at found
  cases first : firstTokenGram token with
  | none =>
      rw [first] at found
      have present : index.postings token = some ids := found
      have held : id ∈ index.postings.ids token := by
        rw [Postings.ids, present]
        exact member
      obtain ⟨document, inside, named, -⟩ := (represents.postings token id).mp held
      exact ⟨document, inside, named⟩
  | some gram =>
      rw [first] at found
      have present : index.grams gram = some ids := found
      have held : id ∈ index.grams.ids gram := by
        rw [Postings.ids, present]
        exact member
      obtain ⟨document, inside, named, -⟩ := (represents.grams gram id).mp held
      exact ⟨document, inside, named⟩

theorem Represents.mem_tokenIds_of_select (represents : Represents index corpus) {id token : String}
    {authorized : Authorized} (inQuery : token ∈ query.tokens)
    (selected : (index.get id).bind (query.select access) = some authorized) :
    id ∈ (index.tokenIds token).getD ∅ := by
  obtain ⟨document, got, picked⟩ := Option.bind_eq_some_iff.mp selected
  obtain ⟨member, rfl⟩ := represents.get_eq_some_iff.mp got
  obtain ⟨rfl, -, admitted⟩ := SearchQuery.select_eq_some_iff.mp picked
  simp only [SearchQuery.admits, Bool.and_eq_true, decide_eq_true_eq] at admitted
  rcases admitted.2 with none | every
  · rw [none] at inQuery
    cases inQuery
  · exact represents.mem_tokenIds member (List.all_eq_true.mp every token inQuery)

theorem Represents.select_eq_none (represents : Represents index corpus) {id token : String}
    (inQuery : token ∈ query.tokens) (outside : id ∉ (index.tokenIds token).getD ∅) :
    (index.get id).bind (query.select access) = none := by
  by_contra some_authorized
  obtain ⟨authorized, selected⟩ := Option.ne_none_iff_exists'.mp some_authorized
  exact outside (represents.mem_tokenIds_of_select inQuery selected)

theorem Represents.authorizedIn_eq_nil (represents : Represents index corpus)
    (missing : index.candidateIds query.tokens = none) :
    index.authorizedIn query access index.orderedIds = [] := by
  rw [InMemoryIndex.candidateIds] at missing
  split at missing
  · cases missing
  · next some_token =>
      rcases narrow_eq_none missing with ⟨-, none⟩ | ⟨token, member, absent⟩
      · exact absurd none some_token
      · apply List.filterMap_eq_nil_iff.mpr
        intro id _
        apply represents.select_eq_none member
        rw [absent]
        exact Finset.notMem_empty id

/-- **Narrowing drops no admitted document.** -/
theorem Represents.authorizedIn_candidateIds (represents : Represents index corpus)
    {ids : Finset String} (candidates : index.candidateIds query.tokens = some ids) :
    index.authorizedIn query access ids = index.authorizedIn query access index.orderedIds := by
  rw [InMemoryIndex.candidateIds] at candidates
  split at candidates
  · cases candidates
    rfl
  · rcases narrow_eq_some candidates with none | ⟨token, member, found⟩
    · cases none
    · refine (Selection.filterMap_sort (represents.tokenIds_subset found) ?_).symm
      intro id _ outside
      apply represents.select_eq_none member
      rw [found]
      exact outside

end Narrowing

end Search

end Chancela.Search
