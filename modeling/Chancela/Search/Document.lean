import Chancela.Search.Text
import Mathlib.Algebra.GroupWithZero.Nat
import Mathlib.Algebra.Order.BigOperators.Group.List
import Mathlib.Data.Finset.Basic

/-! # Search documents and their visible projection

A document carries public fields and, optionally, a privileged version of those whose
visibility depends on the caller. What a caller sees of a document is again a document,
without privileged content (`Chancela.Search.SearchDocument.visible`). Filters and scores
read the projection the access tier selects, and so depend on nothing else
(`Chancela.Search.matchesFilters_visible`, `Chancela.Search.IndexedDocument.new_projection`).
-/

namespace Chancela.Search

/-- `SearchKind`, a searchable corpus family. -/
inductive SearchKind where
  | act
  | entity
  | book
  | template
  | lawArticle
  | operationalAction
  | ledgerEvent
  | followUp
  | importedDocument
  | paperBook
  | ocrDraft
  | generatedDocument
deriving DecidableEq, Repr

def SearchKind.asStr : SearchKind → String
  | act => "act"
  | entity => "entity"
  | book => "book"
  | template => "template"
  | lawArticle => "law_article"
  | operationalAction => "operational_action"
  | ledgerEvent => "ledger_event"
  | followUp => "follow_up"
  | importedDocument => "imported_document"
  | paperBook => "paper_book"
  | ocrDraft => "ocr_draft"
  | generatedDocument => "generated_document"

/-- `SearchDocumentContent`: the fields that vary with the caller's tier. -/
structure SearchDocumentContent where
  title : String
  body : String
  contentTruncated : Bool
  entityName : Option String
  bookLabel : Option String
  author : Option String
  law : Option String
  status : Option String
deriving DecidableEq, Repr

/-- `SearchDocument`, one durable search projection. -/
structure SearchDocument where
  id : String
  kind : SearchKind
  tenantId : Option String
  entityId : Option String
  entityName : Option String
  bookId : Option String
  bookLabel : Option String
  actId : Option String
  title : String
  body : String
  contentTruncated : Bool
  author : Option String
  law : Option String
  status : Option String
  requiredPermission : Option String
  occurredAt : Option String
  sourceVersion : String
  privileged : Option SearchDocumentContent
deriving DecidableEq, Repr

/-- `SearchAccess`, the projection selected after the source row is authorized. -/
inductive SearchAccess where
  | «public»
  | privileged
deriving DecidableEq, Repr

structure SearchFilters where
  kinds : Finset SearchKind
  tenantId : Option String
  entityId : Option String
  bookId : Option String
  actId : Option String
  author : Option String
  law : Option String
  status : Option String
  dateFrom : Option String
  dateTo : Option String

inductive SearchContentRef where
  | «public» (document : SearchDocument)
  | privileged (content : SearchDocumentContent)

namespace SearchContentRef

def title : SearchContentRef → String
  | «public» document => document.title
  | privileged content => content.title

def body : SearchContentRef → String
  | «public» document => document.body
  | privileged content => content.body

def contentTruncated : SearchContentRef → Bool
  | «public» document => document.contentTruncated
  | privileged content => content.contentTruncated

def entityName : SearchContentRef → Option String
  | «public» document => document.entityName
  | privileged content => content.entityName

def bookLabel : SearchContentRef → Option String
  | «public» document => document.bookLabel
  | privileged content => content.bookLabel

def author : SearchContentRef → Option String
  | «public» document => document.author
  | privileged content => content.author

def law : SearchContentRef → Option String
  | «public» document => document.law
  | privileged content => content.law

def status : SearchContentRef → Option String
  | «public» document => document.status
  | privileged content => content.status

end SearchContentRef

/-- `IndexedContent`: a title and a body as the index compares them. -/
structure IndexedContent where
  normalizedTitle : String
  normalizedBody : String
  tokens : Finset String

structure IndexedDocument where
  document : SearchDocument
  «public» : IndexedContent
  privileged : Option IndexedContent
  tokens : Finset String

/-- `IndexedDocument::projection`: the indexed and the plain content of a tier. -/
def IndexedDocument.projection (indexed : IndexedDocument) (access : SearchAccess) :
    IndexedContent × SearchContentRef :=
  match access, indexed.privileged, indexed.document.privileged with
  | .privileged, some content, some plain => (content, .privileged plain)
  | _, _, _ => (indexed.public, .public indexed.document)

def admitsExact (actual expected : Option String) : Bool :=
  match expected with
  | none => true
  | some _ => actual == expected

section Unicode

variable [Unicode]

def IndexedContent.new (title body : String) : IndexedContent :=
  let normalizedTitle := normalize title
  let normalizedBody := normalize body
  { normalizedTitle, normalizedBody
    tokens := (tokenize (normalizedTitle ++ " " ++ normalizedBody)).toFinset }

/-- `IndexedContent::matches_token`: a whole token, or a part of one from three characters
on. -/
def IndexedContent.matchesToken (content : IndexedContent) (queryToken : String) : Bool :=
  decide (queryToken ∈ content.tokens) ||
    (decide (3 ≤ queryToken.toList.length) &&
      decide (∃ token ∈ content.tokens, Text.contains token queryToken = true))

def IndexedDocument.new (document : SearchDocument) : IndexedDocument :=
  let «public» := IndexedContent.new document.title document.body
  let privileged := document.privileged.map fun content =>
    IndexedContent.new content.title content.body
  { document, «public», privileged
    tokens := «public».tokens ∪ (privileged.map IndexedContent.tokens).getD ∅ }

def tokenScore (indexed : IndexedContent) (token : String) : Nat :=
  let title := indexed.normalizedTitle
  (if splitWhitespace title.toList |>.any (· == token.toList) then 60
    else if Text.contains title token then 30 else 0) +
    min (countMatches token.toList 0 indexed.normalizedBody.toList) 10 * 6

/-- The sum that `score` accumulates. -/
def rawScore (indexed : IndexedContent) (phrase : String) (tokens : List String) : Nat :=
  (if indexed.normalizedTitle = phrase then 500
    else if Text.contains indexed.normalizedTitle phrase then 180 else 0) +
    (if Text.contains indexed.normalizedBody phrase then 90 else 0) +
    (tokens.map (tokenScore indexed)).sum

/-- `score`, a `u32`. -/
def score (indexed : IndexedContent) (phrase : String) (tokens : List String) : Nat :=
  if phrase = "" then 1 else rawScore indexed phrase tokens % 2 ^ 32

def admitsFolded (actual expected : Option String) : Bool :=
  match expected with
  | none => true
  | some expected => actual.any fun actual => normalize actual == normalize expected

def matchesFilters (document : SearchDocument) (content : SearchContentRef)
    (filters : SearchFilters) : Bool :=
  (decide (filters.kinds = ∅) || decide (document.kind ∈ filters.kinds)) &&
    admitsExact document.tenantId filters.tenantId &&
    admitsExact document.entityId filters.entityId &&
    admitsExact document.bookId filters.bookId &&
    admitsExact document.actId filters.actId &&
    admitsFolded content.author filters.author &&
    admitsFolded content.law filters.law &&
    admitsFolded content.status filters.status &&
    filters.dateFrom.all (fun low =>
      document.occurredAt.any fun actual => !decide (actual < low)) &&
    filters.dateTo.all fun high => document.occurredAt.any fun actual => !decide (high < actual)

end Unicode

def SearchDocument.visible (document : SearchDocument) (access : SearchAccess) : SearchDocument :=
  match access, document.privileged with
  | .privileged, some content =>
      { document with
        title := content.title
        body := content.body
        contentTruncated := content.contentTruncated
        entityName := content.entityName
        bookLabel := content.bookLabel
        author := content.author
        law := content.law
        status := content.status
        privileged := none }
  | _, _ => { document with privileged := none }

@[simp] theorem SearchDocument.id_visible (document : SearchDocument) (access : SearchAccess) :
    (document.visible access).id = document.id := by
  unfold visible
  split <;> rfl

@[simp] theorem SearchDocument.occurredAt_visible (document : SearchDocument)
    (access : SearchAccess) : (document.visible access).occurredAt = document.occurredAt := by
  unfold visible
  split <;> rfl

section Unicode

variable [Unicode]

theorem IndexedDocument.projection_new_cases (document : SearchDocument) (access : SearchAccess) :
    (((new document).projection access).2 = .public document ∧
      document.visible access = { document with privileged := none }) ∨
    ∃ content, ((new document).projection access).2 = .privileged content ∧
      document.visible access =
        { document with
          title := content.title
          body := content.body
          contentTruncated := content.contentTruncated
          entityName := content.entityName
          bookLabel := content.bookLabel
          author := content.author
          law := content.law
          status := content.status
          privileged := none } := by
  cases access with
  | «public» => exact .inl ⟨rfl, rfl⟩
  | privileged =>
      cases held : document.privileged with
      | none => exact .inl (by simp [projection, new, SearchDocument.visible, held])
      | some content =>
          exact .inr ⟨content, by simp [projection, new, SearchDocument.visible, held]⟩

theorem IndexedDocument.new_projection (document : SearchDocument) (access : SearchAccess) :
    ((new document).projection access).1 =
      .new (document.visible access).title (document.visible access).body := by
  cases access with
  | «public» => rfl
  | privileged =>
      cases held : document.privileged with
      | none => simp [projection, new, SearchDocument.visible, held]
      | some content => simp [projection, new, SearchDocument.visible, held]

theorem IndexedDocument.tokens_projection_subset (document : SearchDocument)
    (access : SearchAccess) :
    ((new document).projection access).1.tokens ⊆ (new document).tokens := by
  intro token member
  cases access with
  | «public» => exact Finset.mem_union_left _ member
  | privileged =>
      cases held : document.privileged with
      | none =>
          simp only [projection, new, held, Option.map_none] at member
          exact Finset.mem_union_left _ member
      | some content =>
          simp only [projection, new, held, Option.map_some] at member
          apply Finset.mem_union_right
          simpa [held] using member

theorem matchesFilters_visible (document : SearchDocument) (access : SearchAccess)
    (filters : SearchFilters) :
    matchesFilters document ((IndexedDocument.new document).projection access).2 filters =
      matchesFilters (document.visible access) (.public (document.visible access)) filters := by
  rcases IndexedDocument.projection_new_cases document access with ⟨shown, seen⟩ | ⟨_, shown, seen⟩
  all_goals
    rw [shown, seen]
    rfl

section Score

variable {indexed : IndexedContent} {phrase token : String} {tokens : List String}

omit [Unicode] in
theorem tokenScore_le (indexed : IndexedContent) (token : String) :
    tokenScore indexed token ≤ 120 := by
  have bound := Nat.min_le_right (countMatches token.toList 0 indexed.normalizedBody.toList) 10
  rw [tokenScore]
  split
  · omega
  · split <;> omega

omit [Unicode] in
theorem rawScore_le (indexed : IndexedContent) (phrase : String) (tokens : List String) :
    rawScore indexed phrase tokens ≤ 590 + 120 * tokens.length := by
  have each : (tokens.map (tokenScore indexed)).sum ≤ tokens.length * 120 := by
    have bound := List.sum_le_card_nsmul (tokens.map (tokenScore indexed)) 120 (by
      intro value member
      obtain ⟨token, -, rfl⟩ := List.mem_map.mp member
      exact tokenScore_le indexed token)
    simpa using bound
  have title : (if indexed.normalizedTitle = phrase then 500
      else if Text.contains indexed.normalizedTitle phrase then 180 else 0) ≤ 500 := by
    split
    · omega
    · split <;> omega
  have body : (if Text.contains indexed.normalizedBody phrase then 90 else 0) ≤ 90 := by
    split <;> omega
  rw [rawScore]
  omega

omit [Unicode] in
theorem tokenScore_pos (nonempty : token.toList ≠ [])
    (inside : token.toList <:+: indexed.normalizedTitle.toList ∨
      token.toList <:+: indexed.normalizedBody.toList) : 0 < tokenScore indexed token := by
  rw [tokenScore]
  rcases inside with title | body
  · have found := (contains_iff indexed.normalizedTitle token).mpr title
    split
    · omega
    · omega
  · have counted := countMatches_pos nonempty body
    omega

theorem infix_of_matchesToken {title body query : String} (member : token ∈ tokenize query)
    (isMatch : (IndexedContent.new title body).matchesToken token = true) :
    token.toList <:+: (normalize title).toList ∨ token.toList <:+: (normalize body).toList := by
  obtain ⟨-, -, alphanumeric⟩ := token_of_mem_tokenize member
  apply infix_or_infix_of_token alphanumeric
  simp only [IndexedContent.matchesToken, IndexedContent.new, List.mem_toFinset, Bool.or_eq_true,
    Bool.and_eq_true, decide_eq_true_eq] at isMatch
  rcases isMatch with whole | ⟨-, other, held, inside⟩
  · exact (token_of_mem_tokenize whole).2.1
  · exact ((contains_iff other token).mp inside).trans (token_of_mem_tokenize held).2.1

/-- **A match scores.** Where the sum stays in a `u32`, a document that matches every token
of a query with at least one scores above zero. -/
theorem score_pos {title body query : String} (some_token : tokens ≠ [])
    (fits : 590 + 120 * tokens.length < 2 ^ 32) (members : ∀ token ∈ tokens, token ∈ tokenize query)
    (isMatch : ∀ token ∈ tokens, (IndexedContent.new title body).matchesToken token = true) :
    0 < score (IndexedContent.new title body) phrase tokens := by
  rw [score]
  split
  · omega
  · have bound := rawScore_le (IndexedContent.new title body) phrase tokens
    rw [Nat.mod_eq_of_lt (bound.trans_lt fits)]
    obtain ⟨token, rest, rfl⟩ := List.exists_cons_of_ne_nil some_token
    have first := List.mem_cons_self (a := token) (l := rest)
    have positive : 0 < tokenScore (IndexedContent.new title body) token :=
      tokenScore_pos (token_of_mem_tokenize (members token first)).1
        (infix_of_matchesToken (members token first) (isMatch token first))
    rw [rawScore, List.map_cons, List.sum_cons]
    omega

end Score

end Unicode

end Chancela.Search
