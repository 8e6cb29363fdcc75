import Chancela.Crates.Reference
import Chancela.Ledger.Chain

/-! # Chain texts

The canonical text of a chain is read back by `FromStr`, which takes nothing but canonical texts.
What a scope makes an event join always reads back, is never empty, and never mixes the
application chain with others (`Chancela.chains_canonical`).
-/

namespace Chancela

/-- `ChainIdParseError`, with the text that names no chain. -/
structure ChainIdParseError where
  text : String
deriving DecidableEq

namespace ChainId

/-- `FromStr`. -/
def fromStr (text : String) : Except ChainIdParseError ChainId :=
  if text = "global" then .ok .global
  else if text = "application" then .ok .application
  else
    match Text.stripPrefix text "tenant:" with
    | some id => if id = "" then .error ⟨text⟩ else .ok (.tenant id)
    | none =>
        match Text.stripPrefix text "company:" with
        | some id => if id = "" then .error ⟨text⟩ else .ok (.company id)
        | none =>
            match Text.stripPrefix text "book:" with
            | some id => if id = "" then .error ⟨text⟩ else .ok (.book id)
            | none => .error ⟨text⟩

def Named : ChainId → Prop
  | global | application => True
  | tenant id | company id | book id => id ≠ ""

theorem stripPrefix_append (lead id : String) : Text.stripPrefix (lead ++ id) lead = some id := by
  unfold Text.stripPrefix
  rw [String.toList_append, if_pos (List.isPrefixOf_iff_prefix.mpr (List.prefix_append ..)),
    List.drop_left, String.ofList_toList]

theorem eq_append_of_stripPrefix {text lead id : String}
    (stripped : Text.stripPrefix text lead = some id) : text = lead ++ id := by
  unfold Text.stripPrefix at stripped
  split at stripped
  · rename_i leads
    obtain ⟨rest, split⟩ := List.isPrefixOf_iff_prefix.mp leads
    rw [← split, List.drop_left, Option.some.injEq] at stripped
    rw [← String.toList_inj, String.toList_append, ← stripped, String.toList_ofList, split]
  · cases stripped

theorem stripPrefix_of_head_ne {text lead : String} (apart : text.toList.head? ≠ lead.toList.head?)
    (long : lead.toList ≠ []) : Text.stripPrefix text lead = none := by
  unfold Text.stripPrefix
  rw [if_neg]
  intro leads
  obtain ⟨rest, split⟩ := List.isPrefixOf_iff_prefix.mp leads
  apply apart
  rw [← split, List.head?_append_of_ne_nil _ long]

theorem head?_append {lead id : String} (long : lead.toList ≠ []) :
    (lead ++ id).toList.head? = lead.toList.head? := by
  rw [String.toList_append, List.head?_append_of_ne_nil _ long]

theorem append_ne {lead id text : String} (long : lead.toList ≠ [])
    (apart : lead.toList.head? ≠ text.toList.head?) : lead ++ id ≠ text := by
  intro same
  apply apart
  rw [← same, head?_append long]

/-- **The canonical text of a chain reads back.** -/
theorem fromStr_canonical {chain : ChainId} (named : chain.Named) :
    fromStr chain.canonical = .ok chain := by
  cases chain with
  | global => rfl
  | application => rfl
  | tenant id =>
      have tenant : "tenant:".toList ≠ [] := by decide
      unfold fromStr canonical
      dsimp only
      rw [if_neg (append_ne tenant (by decide)), if_neg (append_ne tenant (by decide)),
        stripPrefix_append]
      exact if_neg named
  | company id =>
      have company : "company:".toList ≠ [] := by decide
      have noTenant : Text.stripPrefix ("company:" ++ id) "tenant:" = none := by
        apply stripPrefix_of_head_ne _ (by decide)
        rw [head?_append company]
        decide
      unfold fromStr canonical
      dsimp only
      rw [if_neg (append_ne company (by decide)), if_neg (append_ne company (by decide)), noTenant,
        stripPrefix_append]
      exact if_neg named
  | book id =>
      have book : "book:".toList ≠ [] := by decide
      have unlike : ∀ lead : String, lead.toList ≠ [] → "book:".toList.head? ≠ lead.toList.head? →
          Text.stripPrefix ("book:" ++ id) lead = none := by
        intro lead long apart
        apply stripPrefix_of_head_ne _ long
        rw [head?_append book]
        exact apart
      unfold fromStr canonical
      dsimp only
      rw [if_neg (append_ne book (by decide)), if_neg (append_ne book (by decide)),
        unlike "tenant:" (by decide) (by decide), unlike "company:" (by decide) (by decide),
        stripPrefix_append]
      exact if_neg named

/-- **What is read is the canonical text of what it is read as.** -/
theorem canonical_of_fromStr {text : String} {chain : ChainId} (read : fromStr text = .ok chain) :
    chain.canonical = text := by
  unfold fromStr at read
  split at read
  · rename_i here
    cases read
    exact here.symm
  split at read
  · rename_i here
    cases read
    exact here.symm
  split at read
  · rename_i id stripped
    split at read
    · cases read
    · cases read
      exact (eq_append_of_stripPrefix stripped).symm
  split at read
  · rename_i id stripped
    split at read
    · cases read
    · cases read
      exact (eq_append_of_stripPrefix stripped).symm
  split at read
  · rename_i id stripped
    split at read
    · cases read
    · cases read
      exact (eq_append_of_stripPrefix stripped).symm
  · cases read

end ChainId

section Memberships

variable [Crates]

theorem ne_empty_of_parseUuid {text : String} (parsed : parseUuid text = true) : text ≠ "" := by
  rintro rfl
  have lengths := Crates.parseUuid_length "" parsed
  rw [String.length_empty] at lengths
  omega

omit [Crates] in
theorem ne_empty_of_filter {segment : Option String} {id : String}
    (kept : segment.filter (· ≠ "") = some id) : id ≠ "" :=
  of_decide_eq_true (Option.filter_eq_some_iff.mp kept).2

/-- A chain of a tenant, a company or a book, with its name. -/
inductive ChainId.Scoped : ChainId → Prop where
  | tenant {id : String} (named : id ≠ "") : Scoped (.tenant id)
  | company {id : String} (named : id ≠ "") : Scoped (.company id)
  | book {id : String} (named : id ≠ "") : Scoped (.book id)

omit [Crates] in
theorem ChainId.Scoped.named {chain : ChainId} (owned : chain.Scoped) : chain.Named := by
  cases owned with
  | tenant named => exact named
  | company named => exact named
  | book named => exact named

omit [Crates] in
theorem ChainId.not_scoped_application : ¬ChainId.application.Scoped := by
  intro owned
  cases owned

theorem unsortedMemberships_cases (scope : String) :
    unsortedMemberships scope = [.application] ∨
      (unsortedMemberships scope ≠ [] ∧ ∀ chain ∈ unsortedMemberships scope, chain.Scoped) := by
  unfold unsortedMemberships
  cases tenant : (segmentValue scope "tenant:").filter (· ≠ "") with
  | none =>
      cases entity : (segmentValue scope "entity:").filter (· ≠ "") with
      | none =>
          cases book : (segmentValue scope "book:").filter (· ≠ "") with
          | none =>
              dsimp only
              split
              · rename_i uuid
                right
                simpa using ChainId.Scoped.company (ne_empty_of_parseUuid uuid.2)
              · exact .inl rfl
          | some bid => simpa using ChainId.Scoped.book (ne_empty_of_filter book)
      | some eid =>
          have company := ChainId.Scoped.company (ne_empty_of_filter entity)
          cases book : (segmentValue scope "book:").filter (· ≠ "") with
          | none => simpa using company
          | some bid => simpa using ⟨company, ChainId.Scoped.book (ne_empty_of_filter book)⟩
  | some tid =>
      have owner := ChainId.Scoped.tenant (ne_empty_of_filter tenant)
      cases entity : (segmentValue scope "entity:").filter (· ≠ "") with
      | none =>
          cases book : (segmentValue scope "book:").filter (· ≠ "") with
          | none => simpa using owner
          | some bid => simpa using ⟨owner, ChainId.Scoped.book (ne_empty_of_filter book)⟩
      | some eid =>
          have company := ChainId.Scoped.company (ne_empty_of_filter entity)
          cases book : (segmentValue scope "book:").filter (· ≠ "") with
          | none => simpa using ⟨owner, company⟩
          | some bid =>
              simpa using ⟨owner, company, ChainId.Scoped.book (ne_empty_of_filter book)⟩

theorem named_of_mem_memberships {scope kind : String} {chain : ChainId}
    (joined : chain ∈ memberships scope kind) : chain.Named := by
  rw [mem_memberships] at joined
  rcases unsortedMemberships_cases scope with alone | ⟨-, owned⟩
  · rw [alone, List.mem_singleton] at joined
    rw [joined]
    exact trivial
  · exact (owned chain joined).named

theorem memberships_ne_nil (scope kind : String) : memberships scope kind ≠ [] := by
  intro nothing
  have none : unsortedMemberships scope = [] :=
    (nothing ▸ List.perm_insertionSort _ _ : [].Perm _).nil_eq.symm
  rcases unsortedMemberships_cases scope with alone | ⟨some, -⟩
  · rw [alone] at none
    cases none
  · exact some none

theorem memberships_eq_of_application_mem {scope kind : String}
    (joined : .application ∈ memberships scope kind) : memberships scope kind = [.application] := by
  rcases unsortedMemberships_cases scope with alone | ⟨-, owned⟩
  · rw [memberships, alone]
    rfl
  · rw [mem_memberships] at joined
    exact absurd (owned _ joined) ChainId.not_scoped_application

theorem memberships_strict (scope kind : String) : (memberships scope kind).Pairwise (· < ·) := by
  have both := (memberships_sorted scope kind).and (memberships_nodup scope kind)
  exact both.imp fun ordered => lt_of_le_of_ne ordered.1 ordered.2

/-- **Chains and their texts.** What a scope yields reads back from its canonical text, and what
reads is canonical; texts tell chains apart; and memberships are never empty, never global, in
strict order, and of the application alone where they are of it. -/
theorem chains_canonical :
    (∀ scope kind chain, chain ∈ memberships scope kind →
      ChainId.fromStr chain.canonical = .ok chain) ∧
    (∀ text chain, ChainId.fromStr text = .ok chain → chain.canonical = text) ∧
    Function.Injective ChainId.canonical ∧
    ∀ scope kind, memberships scope kind ≠ [] ∧ .global ∉ memberships scope kind ∧
      (memberships scope kind).Pairwise (· < ·) ∧
      (.application ∈ memberships scope kind → memberships scope kind = [.application]) := by
  refine ⟨fun scope kind chain joined => ?_, fun text chain => ChainId.canonical_of_fromStr,
    ChainId.canonical_injective, fun scope kind => ⟨memberships_ne_nil scope kind,
      global_not_mem_memberships scope kind, memberships_strict scope kind,
      memberships_eq_of_application_mem⟩⟩
  exact ChainId.fromStr_canonical (named_of_mem_memberships joined)

end Memberships

section Example

open scoped Reference

theorem chains_canonical_tenantBook :
    ChainId.fromStr (ChainId.book "B").canonical = .ok (.book "B") :=
  chains_canonical.1 "tenant:T/book:B" "act.sealed" (.book "B") (by decide +kernel)

end Example

end Chancela
