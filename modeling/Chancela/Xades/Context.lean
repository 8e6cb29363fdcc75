import Chancela.Xades.RoundTrip

/-! # Exclusive canonicalization and its context

Exclusive canonicalization without a prefix list looks at the scope of an element only under
the prefixes that are visibly used inside it.
-/

namespace Chancela.Xades

open Markup OrderedMap

def binding (scope : Scope) (nsPrefix : List Char) : List Char :=
  (scope.get nsPrefix).getD (if nsPrefix = xmlPrefix then xmlNsUri else [])

mutual

def visibleIn : Item → List (List Char)
  | .element data children => data.visible ++ visibleInAll children
  | _ => []

def visibleInAll : List Item → List (List Char)
  | [] => []
  | item :: rest => visibleIn item ++ visibleInAll rest

end

def AgreeOn (prefixes : List (List Char)) (first second : Scope) : Prop :=
  ∀ nsPrefix ∈ prefixes, binding first nsPrefix = binding second nsPrefix

variable {first second : Scope}

theorem AgreeOn.mono {few many : List (List Char)} (agree : AgreeOn many first second)
    (fewer : few ⊆ many) : AgreeOn few first second :=
  fun nsPrefix member => agree nsPrefix (fewer member)

theorem AgreeOn.declare {prefixes : List (List Char)} (agree : AgreeOn prefixes first second)
    (sorted : Sorted first) (sortedSecond : Sorted second)
    (decls : List (Option (List Char) × List Char)) :
    AgreeOn prefixes (first.declare decls) (second.declare decls) := by
  intro nsPrefix member
  have before := agree nsPrefix member
  rw [binding, binding] at before ⊢
  rw [Scope.declare, Scope.declare, Scope.get, Scope.get, lookup_overlay sorted,
    lookup_overlay sortedSecond]
  cases lookup nsPrefix (decls.map fun decl => (decl.1.getD [], decl.2)).reverse with
  | none => exact before
  | some uri => rfl

theorem renderPrefix_congr {nsPrefix : List Char}
    (same : binding first nsPrefix = binding second nsPrefix) (rendered : Scope) :
    renderPrefix first rendered nsPrefix = renderPrefix second rendered nsPrefix := by
  by_cases xml : nsPrefix = xmlPrefix
  · subst xml
    rw [binding, binding, if_pos rfl] at same
    rw [renderPrefix, renderPrefix, if_pos rfl, if_pos rfl, same]
  · rw [binding, binding, if_neg xml] at same
    rw [renderPrefix, renderPrefix, same, if_neg xml, if_neg xml]

theorem attrNsUri_congr {attr : AttrData}
    (same : ∀ name, attr.nsPrefix = some name → binding first name = binding second name) :
    attrNsUri attr first = attrNsUri attr second := by
  cases given : attr.nsPrefix with
  | none => rw [attrNsUri, attrNsUri, given]
  | some name =>
      rw [attrNsUri, attrNsUri, given]
      by_cases xml : name = xmlPrefix
      · simp only [if_pos xml]
      · have bound := same name given
        rw [binding, binding, if_neg xml] at bound
        simp only [if_neg xml]
        exact bound

section Congruence

variable {options : C14nOptions}

theorem nsToRender_congr (exclusive : options.algorithm.isExclusive = true)
    (unlisted : options.prefixes = []) {data : ElementData}
    (agree : AgreeOn data.visible first second) (rendered : Scope) :
    nsToRender options data first rendered = nsToRender options data second rendered := by
  rw [nsToRender, nsToRender, if_pos exclusive, if_pos exclusive, unlisted, exclusiveNsToRender,
    exclusiveNsToRender, List.map_nil, List.append_nil]
  congr 1
  apply List.filterMap_congr
  intro nsPrefix member
  exact renderPrefix_congr (agree nsPrefix (List.mem_dedup.mp member)) rendered

theorem sortAttrs_congr {data : ElementData} (agree : AgreeOn data.visible first second) :
    sortAttrs first data.attrs = sortAttrs second data.attrs := by
  apply Selection.sortBy_congr
  intro attr member
  rw [attrKey, attrKey, attrNsUri_congr]
  intro name given
  exact agree name (List.mem_cons_of_mem _ (List.mem_filterMap.mpr ⟨attr, member, given⟩))

mutual

/-- **Only the visibly used prefixes count.** -/
theorem canonItem_congr (exclusive : options.algorithm.isExclusive = true)
    (unlisted : options.prefixes = []) : (item : Item) → ∀ first second rendered : Scope,
    Sorted first → Sorted second → AgreeOn (visibleIn item) first second →
    canonItem options first rendered item = canonItem options second rendered item
  | .char c, _, _, _, _, _, _ => rfl
  | .comment raw, _, _, _, _, _, _ => rfl
  | .pi target data, _, _, _, _, _, _ => rfl
  | .element data children, first, second, rendered, sorted, sortedSecond, agree => by
      have inside := agree.declare sorted sortedSecond data.nsDecls
      have own := inside.mono (List.subset_append_left data.visible (visibleInAll children))
      have inner := inside.mono (List.subset_append_right data.visible (visibleInAll children))
      rw [canonItem, canonItem, canonData, canonData, nsToRender_congr exclusive unlisted own,
        sortAttrs_congr own, canonItems_congr exclusive unlisted children _ _ _
          (sorted_declare sorted _) (sorted_declare sortedSecond _) inner]

theorem canonItems_congr (exclusive : options.algorithm.isExclusive = true)
    (unlisted : options.prefixes = []) : (items : List Item) → ∀ first second rendered : Scope,
    Sorted first → Sorted second → AgreeOn (visibleInAll items) first second →
    canonItems options first rendered items = canonItems options second rendered items
  | [], _, _, _, _, _, _ => rfl
  | item :: rest, first, second, rendered, sorted, sortedSecond, agree => by
      have here := agree.mono (List.subset_append_left (visibleIn item) (visibleInAll rest))
      have later := agree.mono (List.subset_append_right (visibleIn item) (visibleInAll rest))
      rw [canonItems, canonItems,
        canonItem_congr exclusive unlisted item first second rendered sorted sortedSecond here,
        canonItems_congr exclusive unlisted rest first second rendered sorted sortedSecond later]

end

end Congruence

mutual

theorem sorted_located : (node : Node) → (scope : Scope) → Sorted scope →
    ∀ element ∈ located scope node, Sorted element.scope
  | .element data children, scope, sorted, element, member => by
      rw [located] at member
      rcases List.mem_cons.mp member with rfl | inside
      · exact sorted
      · exact sorted_locatedIn children _ (sorted_declare sorted _) element inside

theorem sorted_locatedIn : (nodes : List Node) → (scope : Scope) → Sorted scope →
    ∀ element ∈ locatedIn scope nodes, Sorted element.scope
  | node :: rest, scope, sorted, element, member => by
      rw [locatedIn] at member
      rcases List.mem_append.mp member with here | later
      · exact sorted_located node scope sorted element here
      · exact sorted_locatedIn rest scope sorted element later

end

/-- The options of canonicalization without comments and without a prefix list. -/
def exclusiveOptions : C14nOptions := ⟨.exclusiveWithoutComments, [], fun _ => false⟩

theorem canonicalizeSubtree_congr {first second : Located} (sorted : Sorted first.scope)
    (sortedSecond : Sorted second.scope) (data : first.data = second.data)
    (children : flattenAll first.children = flattenAll second.children)
    (agree : AgreeOn (visibleIn (.element first.data (flattenAll first.children))) first.scope
      second.scope) :
    first.canonicalizeSubtree exclusiveOptions = second.canonicalizeSubtree exclusiveOptions := by
  rw [canonicalizeSubtree_eq first exclusiveOptions fun _ => rfl,
    canonicalizeSubtree_eq second exclusiveOptions fun _ => rfl, ← data, ← children,
    canonItem_congr rfl rfl _ first.scope second.scope [] sorted sortedSecond agree]

end Chancela.Xades
