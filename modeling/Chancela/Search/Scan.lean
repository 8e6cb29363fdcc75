import Chancela.Search.Query

/-! # The index against a plain scan

A page is a function of the visible documents alone (`Chancela.Search.searchWithAccess_eq`).
It follows that the index returns what a pass over the documents of its history returns
(`Chancela.Search.searchWithAccess_history`), and that what a caller may not see leaves no
trace in a page (`Chancela.Search.searchWithAccess_congr`).
-/

namespace Chancela.Search

section Pages

variable [Unicode] {index : InMemoryIndex} {corpus : Corpus} {query : SearchQuery}
  {access : SearchDocument → Option SearchAccess}

omit [Unicode] in
theorem rankOf_id {score score' : Nat} {first second : SearchDocument}
    (same : rankOf score first = rankOf score' second) : first.id = second.id := by
  have inner := congrArg (fun key => (ofLex (ofLex key).2).2) same
  exact inner

theorem Represents.of_mem_authorizedIn (represents : Represents index corpus) {ids : Finset String}
    {authorized : Authorized} (member : authorized ∈ index.authorizedIn query access ids) :
    index.get authorized.1.id = some authorized.1 ∧ access authorized.1 = some authorized.2 ∧
      query.admits (seen authorized) = true := by
  obtain ⟨id, -, selected⟩ := List.mem_filterMap.mp member
  obtain ⟨document, got, picked⟩ := Option.bind_eq_some_iff.mp selected
  obtain ⟨rfl, granted, admitted⟩ := SearchQuery.select_eq_some_iff.mp picked
  obtain ⟨-, rfl⟩ := represents.get_eq_some_iff.mp got
  exact ⟨got, granted, admitted⟩

theorem Represents.eq_of_id (represents : Represents index corpus) {ids : Finset String}
    {first second : Authorized} (member : first ∈ index.authorizedIn query access ids)
    (member' : second ∈ index.authorizedIn query access ids)
    (same : first.1.id = second.1.id) : first = second := by
  obtain ⟨got, granted, -⟩ := represents.of_mem_authorizedIn member
  obtain ⟨got', granted', -⟩ := represents.of_mem_authorizedIn member'
  have document : first.1 = second.1 := by
    rw [same, got'] at got
    exact (Option.some.inj got).symm
  have tier : first.2 = second.2 := by
    rw [document, granted'] at granted
    exact (Option.some.inj granted).symm
  exact Prod.ext document tier

theorem Represents.foldl_admitted {σ : Type} (represents : Represents index corpus)
    (ids : Finset String) (step : σ → IndexedDocument × SearchAccess → σ) (start : σ) :
    ids.sort.foldl (fun state id => match index.admit_ query access id with
        | none => state
        | some admitted => step state admitted) start =
      ((index.authorizedIn query access ids).map indexedPair).foldl step start := by
  rw [InMemoryIndex.authorizedIn, List.map_filterMap, List.foldl_filterMap]
  congr 1
  ext1 state
  ext1 id
  rw [represents.admit_eq]
  cases ((index.get id).bind (query.select access)).map indexedPair <;> rfl

theorem Represents.firstPass_eq (represents : Represents index corpus) (ids : Finset String) :
    index.firstPass query access ids =
      ((index.authorizedIn query access ids).map indexedPair).foldl (visit query)
        ⟨[], 0, .empty, false⟩ :=
  represents.foldl_admitted ids (visit query) _

theorem Represents.secondPass_eq (represents : Represents index corpus) (ids : Finset String)
    (facets : SearchFacets) :
    index.secondPass query access ids facets.resetSelectedCounts =
      facets.recount ((index.authorizedIn query access ids).map seen) := by
  refine (represents.foldl_admitted ids (fun facets admitted => addSelectedFacets facets
    admitted.1.document (admitted.1.projection admitted.2).2) _).trans ?_
  exact foldl_addSelectedFacets _ _

theorem window_ranked (scored : List Authorized)
    (apart : ∀ first ∈ scored, ∀ second ∈ scored, first.1.id = second.1.id → first = second) :
    (((Selection.sortBy RankedCandidate.rank ((scored.map query.candidate).foldl
        (Selection.offer RankedCandidate.rank (query.offset + query.pageLimit)) [])).drop
      query.offset).take query.pageLimit).map (RankedCandidate.hit query) =
      query.window query.pageLimit (scored.map seen) := by
  have distinct : ∀ a ∈ scored.map query.candidate, ∀ b ∈ scored.map query.candidate,
      a.rank = b.rank → a = b := by
    intro a member b member' same
    obtain ⟨first, inside, rfl⟩ := List.mem_map.mp member
    obtain ⟨second, inside', rfl⟩ := List.mem_map.mp member'
    exact congrArg query.candidate (apart first inside second inside' (rankOf_id same))
  have ranks : (fun pair => (query.candidate pair).rank) = fun pair => query.rank (seen pair) :=
    funext fun pair => rank_candidate pair
  have ranked : Selection.Ranked RankedCandidate.rank
      ((Selection.sortBy RankedCandidate.rank (scored.map query.candidate)).take
        (query.offset + query.pageLimit)) :=
    (Selection.ranked_sortBy RankedCandidate.rank _).sublist (List.take_sublist _ _)
  have hits : RankedCandidate.hit query ∘ query.candidate = query.hit ∘ seen :=
    funext fun pair => hit_candidate pair
  rw [Selection.foldl_offer _ _ distinct, ranked.sortBy_eq, List.drop_take,
    Nat.add_sub_cancel_left, List.take_take, Nat.min_self, SearchQuery.window,
    Selection.sortBy_map, Selection.sortBy_map, ranks]
  simp only [List.map_take, List.map_drop, List.map_map, hits]

/-- **A page is that of the visible documents.** -/
theorem Represents.searchWithAccess_eq (represents : Represents index corpus)
    (long : ¬query.HasShortToken) :
    index.searchWithAccess query access =
      query.page ((index.authorizedIn query access index.orderedIds).map seen) := by
  rw [InMemoryIndex.searchWithAccess, if_neg long]
  cases candidates : index.candidateIds query.tokens with
  | none =>
      rw [represents.authorizedIn_eq_nil candidates]
      exact query.page_nil.symm
  | some ids =>
      have narrowing : index.authorizedIn query access ids =
          index.authorizedIn query access index.orderedIds :=
        represents.authorizedIn_candidateIds candidates
      have apart : ∀ first ∈ (index.authorizedIn query access index.orderedIds).filter
            (fun pair => query.scores (seen pair)),
          ∀ second ∈ (index.authorizedIn query access index.orderedIds).filter
            (fun pair => query.scores (seen pair)),
          first.1.id = second.1.id → first = second := by
        intro first member second member' same
        exact represents.eq_of_id (List.mem_filter.mp member).1 (List.mem_filter.mp member').1 same
      simp only [represents.firstPass_eq, represents.secondPass_eq, narrowing, foldl_visit,
        window_ranked _ apart, Nat.zero_add]
      rw [SearchQuery.page, List.filter_map, List.length_map]
      rfl

end Pages

/-! ## A pass over the documents -/

section Scan

variable [Unicode] {index : InMemoryIndex} {corpus : Corpus} {query : SearchQuery}
  {access : SearchDocument → Option SearchAccess}

/-- What is seen of the documents a query matches: accessible, within the filters, matching
every token, and scoring where the query is not empty. -/
def Corpus.matched (corpus : Corpus) (query : SearchQuery)
    (access : SearchDocument → Option SearchAccess) : List SearchDocument :=
  (corpus.filterMap (view access)).filter fun document =>
    query.admits document && query.scores document

/-- A page returns the number of some documents and a window of them. -/
structure ReturnsSlice (page : SearchPage) (query : SearchQuery) (limit : Nat)
    (documents : List SearchDocument) : Prop where
  total : page.total = documents.length
  hits : page.hits = query.window limit documents
  hasMore : page.hasMore = decide (query.offset + page.hits.length < page.total)

/-- Every facet count of a page is the number of documents that carry the value. -/
def CountsFacets (page : SearchPage) (documents : List SearchDocument) : Prop :=
  ∀ name key number, (key, number) ∈ page.facets.counts name →
    number = documents.countP fun document => document.facetValue name = some key

/-- Every match of the query scores above zero: it is empty, or has a token and not so many
that the score leaves a `u32`. -/
def SearchQuery.EveryMatchScores (query : SearchQuery) : Prop :=
  query.phrase = "" ∨ (query.tokens ≠ [] ∧ 590 + 120 * query.tokens.length < 2 ^ 32)

theorem SearchQuery.scores_of_admits (every : query.EveryMatchScores) {document : SearchDocument}
    (admitted : query.admits document = true) : query.scores document = true := by
  apply decide_eq_true
  rintro ⟨nonempty, zero⟩
  rcases every with empty | ⟨some_token, fits⟩
  · exact nonempty empty
  · simp only [admits, Bool.and_eq_true, decide_eq_true_eq] at admitted
    have positive : 0 < query.scoreOf document :=
      score_pos some_token fits (fun _ member => member)
        (List.all_eq_true.mp (admitted.2.resolve_left some_token))
    omega

theorem map_seen_select (document : SearchDocument) :
    (query.select access document).map seen = (view access document).filter query.admits := by
  rw [SearchQuery.select, view]
  cases access document with
  | none => rfl
  | some tier =>
      by_cases admitted : query.admits (document.visible tier) = true
      · simp [admitted, seen, Option.filter]
      · simp [admitted, Option.filter]

theorem Represents.authorizedIn_perm (represents : Represents index corpus) :
    ((index.authorizedIn query access index.orderedIds).map seen).Perm
      ((corpus.filterMap (view access)).filter query.admits) := by
  have ids : index.orderedIds.sort.Perm (corpus.map SearchDocument.id) := by
    apply (List.perm_ext_iff_of_nodup (Finset.sort_nodup _ _) represents.distinct).mpr
    intro id
    rw [Finset.mem_sort, represents.orderedIds, List.mem_map]
  have picked : (corpus.map SearchDocument.id).filterMap
      (fun id => (index.get id).bind (query.select access)) =
        corpus.filterMap (query.select access) := by
    rw [List.filterMap_map]
    apply List.filterMap_congr
    intro document member
    have got := represents.get_eq_some_iff.mpr ⟨member, rfl⟩
    rw [Function.comp_apply, got, Option.bind_some]
  have authorized : (index.authorizedIn query access index.orderedIds).Perm
      (corpus.filterMap (query.select access)) := picked ▸ ids.filterMap _
  refine (authorized.map seen).trans (List.Perm.of_eq ?_)
  rw [List.map_filterMap, List.filter_filterMap]
  exact List.filterMap_congr fun document _ => map_seen_select document

theorem Represents.matched_perm (represents : Represents index corpus) :
    (((index.authorizedIn query access index.orderedIds).map seen).filter query.scores).Perm
      (corpus.matched query access) := by
  have split : corpus.matched query access =
      ((corpus.filterMap (view access)).filter query.admits).filter query.scores := by
    rw [List.filter_filter, Corpus.matched]
    simp only [Bool.and_comm]
  rw [split]
  exact represents.authorizedIn_perm.filter query.scores

theorem Represents.returnsSlice (represents : Represents index corpus)
    (long : ¬query.HasShortToken) :
    ReturnsSlice (index.searchWithAccess query access) query query.pageLimit
      (corpus.matched query access) := by
  have apart : ∀ a ∈ ((index.authorizedIn query access index.orderedIds).map seen).filter
        query.scores, ∀ b ∈ ((index.authorizedIn query access index.orderedIds).map seen).filter
        query.scores, query.rank a = query.rank b → a = b := by
    intro a member b member' same
    obtain ⟨first, inside, rfl⟩ := List.mem_map.mp (List.mem_filter.mp member).1
    obtain ⟨second, inside', rfl⟩ := List.mem_map.mp (List.mem_filter.mp member').1
    have ids := rankOf_id same
    rw [seen, seen, SearchDocument.id_visible, SearchDocument.id_visible] at ids
    rw [represents.eq_of_id inside inside' ids]
  rw [represents.searchWithAccess_eq long]
  refine ⟨represents.matched_perm.length_eq, ?_, rfl⟩
  change query.window query.pageLimit _ = _
  rw [SearchQuery.window, SearchQuery.window,
    Selection.sortBy_eq_of_perm represents.matched_perm apart]

theorem Represents.countsFacets (represents : Represents index corpus)
    (long : ¬query.HasShortToken) (every : query.EveryMatchScores) :
    CountsFacets (index.searchWithAccess query access) (corpus.matched query access) := by
  intro name key number member
  rw [represents.searchWithAccess_eq long] at member
  have counted := SearchFacets.mem_counts_recount (SearchFacets.mem_counts_of_truncate member)
  have whole : ((index.authorizedIn query access index.orderedIds).map seen).filter
      query.scores = (index.authorizedIn query access index.orderedIds).map seen := by
    apply List.filter_eq_self.mpr
    intro document inside
    obtain ⟨authorized, inIndex, rfl⟩ := List.mem_map.mp inside
    exact SearchQuery.scores_of_admits every (represents.of_mem_authorizedIn inIndex).2.2
  rw [counted, ← represents.matched_perm.countP_eq, whole]

end Scan

/-- **The index refines a scan.** After every history, a query with a token of one character
is answered with nothing. Every other query is answered from the documents it matches: their
number, the window of at least one document in rank order, and whether there are more; the
facet counts are theirs whenever every match scores. -/
theorem searchWithAccess_history [Unicode] (updates : List Update) (query : SearchQuery)
    (access : SearchDocument → Option SearchAccess) :
    if query.HasShortToken then
      (InMemoryIndex.history updates).searchWithAccess query access = query.emptyPage
    else
      ReturnsSlice ((InMemoryIndex.history updates).searchWithAccess query access) query
        query.pageLimit ((Corpus.history updates).matched query access) ∧
      (query.EveryMatchScores →
        CountsFacets ((InMemoryIndex.history updates).searchWithAccess query access)
          ((Corpus.history updates).matched query access)) := by
  split
  · next short =>
      rw [InMemoryIndex.searchWithAccess, if_pos short]
  · next long =>
      have represents := represents_history updates
      exact ⟨represents.returnsSlice long, represents.countsFacets long⟩

/-! ## What a caller may not see -/

section Visibility

variable [Unicode] {index : InMemoryIndex} {corpus : Corpus} {query : SearchQuery}
  {access : SearchDocument → Option SearchAccess}

/-- Two rows look the same to a caller: both are held and read in one tier, equal as far as
the tier shows them; or whatever is held is not accessible. -/
def LooksSame (access : SearchDocument → Option SearchAccess)
    (first second : Option SearchDocument) : Prop :=
  (∃ document other, first = some document ∧ second = some other ∧
    access document = access other ∧
    (access document = some .public →
      { document with privileged := none } = { other with privileged := none }) ∧
    (access document = some .privileged → document = other)) ∨
  ((∀ document, first = some document → access document = none) ∧
    ∀ document, second = some document → access document = none)

omit [Unicode] in
theorem LooksSame.bind_view {first second : Option SearchDocument}
    (same : LooksSame access first second) :
    first.bind (view access) = second.bind (view access) := by
  rcases same with ⟨document, other, rfl, rfl, tiers, shown, full⟩ | ⟨hidden, hidden'⟩
  · rw [Option.bind_some, Option.bind_some, view, view, ← tiers]
    cases tier : access document with
    | none => rfl
    | some granted =>
        cases granted with
        | «public» =>
            rw [Option.map_some, Option.map_some]
            exact congrArg some (shown tier)
        | privileged => rw [full tier]
  · have unseen : ∀ row : Option SearchDocument,
        (∀ document, row = some document → access document = none) →
        row.bind (view access) = none := by
      intro row hidden
      cases row with
      | none => rfl
      | some document => rw [Option.bind_some, view, hidden document rfl, Option.map_none]
    rw [unseen first hidden, unseen second hidden']

theorem map_seen_authorizedIn (index : InMemoryIndex) (ids : Finset String) :
    (index.authorizedIn query access ids).map seen =
      ids.sort.filterMap fun id => ((index.get id).bind (view access)).filter query.admits := by
  rw [InMemoryIndex.authorizedIn, List.map_filterMap]
  apply List.filterMap_congr
  intro id _
  cases index.get id with
  | none => rfl
  | some document => exact map_seen_select document

theorem Represents.get_eq_none (represents : Represents index corpus) {id : String}
    (absent : id ∉ index.orderedIds) : index.get id = none := by
  apply Option.eq_none_iff_forall_ne_some.mpr
  intro document got
  obtain ⟨member, named⟩ := represents.get_eq_some_iff.mp got
  exact absent ((represents.orderedIds id).mpr ⟨document, member, named⟩)

end Visibility

/-- **What a caller may not see leaves no trace.** Two indexes whose rows look the same to
the caller answer every query with the same page. -/
theorem searchWithAccess_congr [Unicode] (first second : List Update)
    (access : SearchDocument → Option SearchAccess)
    (same : ∀ id, LooksSame access ((InMemoryIndex.history first).get id)
      ((InMemoryIndex.history second).get id)) (query : SearchQuery) :
    (InMemoryIndex.history first).searchWithAccess query access =
      (InMemoryIndex.history second).searchWithAccess query access := by
  have represents := represents_history first
  have represents' := represents_history second
  by_cases short : query.HasShortToken
  · rw [InMemoryIndex.searchWithAccess, if_pos short, InMemoryIndex.searchWithAccess,
      if_pos short]
  · have views : ∀ id, ((InMemoryIndex.history first).get id).bind (view access) =
        ((InMemoryIndex.history second).get id).bind (view access) := fun id => (same id).bind_view
    rw [represents.searchWithAccess_eq short, represents'.searchWithAccess_eq short,
      map_seen_authorizedIn, map_seen_authorizedIn]
    congr 1
    -- Both sides are what the rows of either index show, in id order.
    calc (InMemoryIndex.history first).orderedIds.sort.filterMap (fun id =>
          (((InMemoryIndex.history first).get id).bind (view access)).filter query.admits)
      _ = ((InMemoryIndex.history first).orderedIds ∪
            (InMemoryIndex.history second).orderedIds).sort.filterMap (fun id =>
          (((InMemoryIndex.history first).get id).bind (view access)).filter query.admits) := by
        refine (Selection.filterMap_sort Finset.subset_union_left fun id _ outside => ?_).symm
        rw [represents.get_eq_none outside]
        rfl
      _ = (InMemoryIndex.history second).orderedIds.sort.filterMap (fun id =>
          (((InMemoryIndex.history first).get id).bind (view access)).filter query.admits) := by
        refine Selection.filterMap_sort Finset.subset_union_right fun id _ outside => ?_
        rw [views, represents'.get_eq_none outside]
        rfl
      _ = (InMemoryIndex.history second).orderedIds.sort.filterMap (fun id =>
          (((InMemoryIndex.history second).get id).bind (view access)).filter query.admits) := by
        simp only [views]

section Examples

open scoped Reference

/-- A document known by its id, its title and its privileged content. -/
def titled (id title : String) (privileged : Option SearchDocumentContent) : SearchDocument where
  id := id
  kind := .act
  tenantId := none
  entityId := none
  entityName := none
  bookId := none
  bookLabel := none
  actId := none
  title := title
  body := ""
  contentTruncated := false
  author := none
  law := none
  status := none
  requiredPermission := none
  occurredAt := none
  sourceVersion := "v1"
  privileged := privileged

def byText (text : String) : SearchQuery where
  text := text
  filters := ⟨∅, none, none, none, none, none, none, none, none, none⟩
  offset := 0
  limit := 100
  snippetChars := 240
  facetLimit := 50

/-- The query "a" matches the document titled "a", and is answered with nothing. -/
theorem not_returnsSlice_oneCharacter :
    ¬(ReturnsSlice ((InMemoryIndex.history [.upsert (titled "act:1" "a" none)]).searchWithAccess
          (byText "a") fun _ => some .public) (byText "a") (byText "a").limit
        ((Corpus.history [.upsert (titled "act:1" "a" none)]).matched (byText "a")
          fun _ => some .public) ∧
      CountsFacets ((InMemoryIndex.history [.upsert (titled "act:1" "a" none)]).searchWithAccess
          (byText "a") fun _ => some .public)
        ((Corpus.history [.upsert (titled "act:1" "a" none)]).matched (byText "a")
          fun _ => some .public)) := by
  intro claimed
  have short : (byText "a").HasShortToken := by decide +kernel
  have one : ((Corpus.history [.upsert (titled "act:1" "a" none)]).matched (byText "a")
      fun _ => some .public).length = 1 := by decide +kernel
  have total := claimed.1.total
  rw [InMemoryIndex.searchWithAccess, if_pos short, one] at total
  cases total

/-- A caller to whom only one row is accessible, in its public tier. -/
def onlyPublic (document : SearchDocument) : Option SearchAccess :=
  if document.id = "act:1" then some .public else none

def secret (title : String) : SearchDocumentContent :=
  ⟨title, "", false, none, none, none, none, none⟩

/-- Neither a hidden row nor other privileged content changes a page. -/
theorem searchWithAccess_congr_hidden :
    (InMemoryIndex.history [.upsert (titled "act:1" "ata" (some (secret "prova"))),
        .upsert (titled "act:2" "ata" none)]).searchWithAccess (byText "ata") onlyPublic =
      (InMemoryIndex.history [.upsert (titled "act:1" "ata" (some (secret "acordo")))]
        ).searchWithAccess (byText "ata") onlyPublic := by
  apply searchWithAccess_congr
  intro id
  by_cases shown : id = "act:1"
  · subst shown
    refine .inl ⟨titled "act:1" "ata" (some (secret "prova")),
      titled "act:1" "ata" (some (secret "acordo")), ?_, ?_, rfl, fun _ => rfl, ?_⟩
    · exact (represents_history _).get_eq_some_iff.mpr ⟨by decide, rfl⟩
    · exact (represents_history _).get_eq_some_iff.mpr ⟨by decide, rfl⟩
    · intro granted
      cases granted
  · refine .inr ⟨fun document got => ?_, fun document got => ?_⟩
    all_goals
      rw [onlyPublic, ((represents_history _).get_eq_some_iff.mp got).2, if_neg shown]

end Examples

end Chancela.Search
