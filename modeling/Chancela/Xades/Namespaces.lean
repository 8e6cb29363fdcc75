import Chancela.Xades.C14n

/-! # Namespaces of an element

Which declaration an element is written with under each prefix (`written`), and what the
mapping already written becomes by it (`Chancela.Xades.get_render`).
-/

namespace Chancela.Xades

open OrderedMap

/-- The prefixes `exclusive_ns_to_render` looks at. -/
def C14nOptions.considered (options : C14nOptions) (data : ElementData) : List (List Char) :=
  data.visible ++ options.prefixes.map listedPrefix

/-- An entry of the scope is written by inclusive canonicalization. -/
def rendersEntry (rendered : Scope) (nsPrefix uri : List Char) : Bool :=
  if nsPrefix = [] ∧ uri = [] then (rendered.get []).any (· ≠ [])
  else rendered.get nsPrefix ≠ some uri

/-- The declaration an element is written with under a prefix. -/
def written (options : C14nOptions) (data : ElementData) (newScope rendered : Scope)
    (nsPrefix : List Char) : Option (List Char) :=
  if options.algorithm.isExclusive then
    if nsPrefix ∈ options.considered data then
      (renderPrefix newScope rendered nsPrefix).map Prod.snd
    else none
  else (newScope.get nsPrefix).filter (rendersEntry rendered nsPrefix)

theorem fst_renderPrefix {newScope rendered : Scope} {nsPrefix : List Char}
    {entry : List Char × List Char} (found : renderPrefix newScope rendered nsPrefix = some entry) :
    entry.1 = nsPrefix := by
  unfold renderPrefix at found
  by_cases xml : nsPrefix = xmlPrefix
  · simp only [if_pos xml] at found
    split at found
    · cases found
      exact xml.symm
    · cases found
  · simp only [if_neg xml] at found
    split at found
    · split at found
      · cases found
        rfl
      · cases found
    · split at found
      · next empty =>
          cases found
          exact empty.1.symm
      · cases found

theorem mem_exclusiveNsToRender {data : ElementData} {newScope rendered : Scope}
    {prefixes : List (List Char)} {entry : List Char × List Char} :
    entry ∈ exclusiveNsToRender data newScope rendered prefixes ↔
      entry.1 ∈ data.visible ++ prefixes.map listedPrefix ∧
        renderPrefix newScope rendered entry.1 = some entry := by
  rw [exclusiveNsToRender, (Selection.sortBy_perm _ _).mem_iff, List.mem_filterMap]
  constructor
  · rintro ⟨nsPrefix, member, found⟩
    rw [fst_renderPrefix found]
    exact ⟨List.mem_dedup.mp member, found⟩
  · rintro ⟨member, found⟩
    exact ⟨entry.1, List.mem_dedup.mpr member, found⟩

theorem sorted_exclusiveNsToRender (data : ElementData) (newScope rendered : Scope)
    (prefixes : List (List Char)) :
    Sorted (exclusiveNsToRender data newScope rendered prefixes) := by
  have apart : (exclusiveNsToRender data newScope rendered prefixes).Pairwise
      fun first second => first.1 ≠ second.1 := by
    rw [exclusiveNsToRender]
    refine (Selection.sortBy_perm _ _).symm.pairwise ?_ fun {_ _} => Ne.symm
    refine List.Pairwise.filterMap _ ?_ (List.nodup_dedup _)
    intro first second different entry found other foundOther same
    rw [fst_renderPrefix found, fst_renderPrefix foundOther] at same
    exact different same
  have ranked := Selection.ranked_sortBy Prod.fst
    ((data.visible ++ prefixes.map listedPrefix).dedup.filterMap (renderPrefix newScope rendered))
  exact (List.Pairwise.and ranked apart).imp fun both => lt_of_le_of_ne both.1 both.2

theorem sorted_nsToRender (options : C14nOptions) (data : ElementData) {newScope : Scope}
    (sorted : Sorted newScope) (rendered : Scope) :
    Sorted (nsToRender options data newScope rendered) := by
  rw [nsToRender]
  split
  · exact sorted_exclusiveNsToRender data newScope rendered options.prefixes
  · exact sorted.filter _

/-- **The declarations of an element, prefix by prefix.** -/
theorem lookup_nsToRender (options : C14nOptions) (data : ElementData) {newScope : Scope}
    (sorted : Sorted newScope) (rendered : Scope) (nsPrefix : List Char) :
    lookup nsPrefix (nsToRender options data newScope rendered) =
      written options data newScope rendered nsPrefix := by
  ext uri
  rw [← mem_iff_lookup (sorted_nsToRender options data sorted rendered), nsToRender, written]
  split
  · rw [mem_exclusiveNsToRender, ← C14nOptions.considered]
    split
    · next member =>
        simp only [member, true_and, Option.map_eq_some_iff]
        constructor
        · intro found
          exact ⟨(nsPrefix, uri), found, rfl⟩
        · rintro ⟨entry, found, rfl⟩
          rw [found, ← fst_renderPrefix found]
    · next absent => simp [absent]
  · have same : lookup nsPrefix newScope = newScope.get nsPrefix := rfl
    rw [inclusiveNsToRender, List.mem_filter, mem_iff_lookup sorted, Option.filter_eq_some_iff,
      same, rendersEntry]

theorem get_render (options : C14nOptions) (data : ElementData) {newScope rendered : Scope}
    (sorted : Sorted newScope) (sortedRendered : Sorted rendered) (nsPrefix : List Char) :
    (rendered.render (nsToRender options data newScope rendered)).get nsPrefix =
      (written options data newScope rendered nsPrefix).or (rendered.get nsPrefix) := by
  rw [Scope.render, Scope.get, lookup_overlay sortedRendered,
    (sorted_nsToRender options data sorted rendered).lookup_reverse,
    lookup_nsToRender options data sorted]
  rfl

theorem sorted_render {rendered : Scope} (sorted : Sorted rendered)
    (toRender : List (List Char × List Char)) : Sorted (rendered.render toRender) :=
  sorted_overlay sorted toRender

theorem sorted_declare {scope : Scope} (sorted : Sorted scope)
    (decls : List (Option (List Char) × List Char)) : Sorted (scope.declare decls) :=
  sorted_overlay sorted _

theorem get_declare_eq_none {scope : Scope} (sorted : Sorted scope) {nsPrefix : List Char}
    {decls : List (Option (List Char) × List Char)}
    (absent : (scope.declare decls).get nsPrefix = none) : scope.get nsPrefix = none := by
  rw [Scope.declare, Scope.get, lookup_overlay sorted, Option.or_eq_none_iff] at absent
  exact absent.2

theorem get_declare_eq_some {scope : Scope} (sorted : Sorted scope) {nsPrefix uri : List Char}
    {decls : List (Option (List Char) × List Char)}
    (found : (scope.declare decls).get nsPrefix = some uri) :
    scope.get nsPrefix = some uri ∨ ∃ decl ∈ decls, decl.1.getD [] = nsPrefix ∧ decl.2 = uri := by
  rw [Scope.declare, Scope.get, lookup_overlay sorted, Option.or_eq_some_iff] at found
  rcases found with declared | ⟨-, before⟩
  · obtain ⟨decl, inside, same⟩ := List.mem_map.mp (List.mem_reverse.mp (mem_of_lookup declared))
    exact .inr ⟨decl, inside, congrArg Prod.fst same, congrArg Prod.snd same⟩
  · exact .inl before

end Chancela.Xades
