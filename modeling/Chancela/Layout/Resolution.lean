import Chancela.Foundation.Cascade
import Chancela.Layout.Drawing

/-! # The layout cascade

The policy of an instance under the overrides of a template, an entity and a book. Each of the
leaves is set on its own with the layer it came from, so that the whole is a cascade over the
leaves of a policy (`Chancela.applyOverrides_eq`).
-/

namespace Chancela

open Outcome

inductive DocumentLayoutSource where
  | instance_
  | template
  | entity
  | book
deriving DecidableEq

/-- `ResolvedDocumentLayout`: the policy, and the source of each leaf. -/
abbrev ResolvedDocumentLayout :=
  Cascade.Traced DocumentLayoutField DocumentLayoutPolicy DocumentLayoutSource

/-- `apply!`. -/
def applyLeaf {α : Type} (override : Option α)
    (target : α → DocumentLayoutPolicy → DocumentLayoutPolicy) (field : DocumentLayoutField)
    (source : DocumentLayoutSource) (state : ResolvedDocumentLayout) : ResolvedDocumentLayout :=
  match override with
  | none => state
  | some value =>
      ⟨target value state.record, Function.update state.sources field (some source)⟩

def applyOverrides (overrides : DocumentLayoutOverrides) (source : DocumentLayoutSource)
    (state : ResolvedDocumentLayout) : ResolvedDocumentLayout :=
  state
    |> applyLeaf overrides.page.size
        (fun value policy => { policy with page.size := value }) .pageSize source
    |> applyLeaf overrides.page.orientation
        (fun value policy => { policy with page.orientation := value })
        .pageOrientation source
    |> applyLeaf overrides.page.marginsMm.top
        (fun value policy => { policy with page.marginsMm.top := value }) .marginTopMm source
    |> applyLeaf overrides.page.marginsMm.right
        (fun value policy => { policy with page.marginsMm.right := value })
        .marginRightMm source
    |> applyLeaf overrides.page.marginsMm.bottom
        (fun value policy => { policy with page.marginsMm.bottom := value })
        .marginBottomMm source
    |> applyLeaf overrides.page.marginsMm.left
        (fun value policy => { policy with page.marginsMm.left := value })
        .marginLeftMm source
    |> applyLeaf overrides.typography.bodyFontFamily
        (fun value policy => { policy with typography.bodyFontFamily := value })
        .bodyFontFamily source
    |> applyLeaf overrides.typography.bodyFontSizePt
        (fun value policy => { policy with typography.bodyFontSizePt := value })
        .bodyFontSizePt source
    |> applyLeaf overrides.typography.headerFontFamily
        (fun value policy => { policy with typography.headerFontFamily := value })
        .headerFontFamily source
    |> applyLeaf overrides.typography.headerFontSizePt
        (fun value policy => { policy with typography.headerFontSizePt := value })
        .headerFontSizePt source
    |> applyLeaf overrides.typography.footerFontFamily
        (fun value policy => { policy with typography.footerFontFamily := value })
        .footerFontFamily source
    |> applyLeaf overrides.typography.footerFontSizePt
        (fun value policy => { policy with typography.footerFontSizePt := value })
        .footerFontSizePt source
    |> applyLeaf overrides.typography.lineSpacingPercent
        (fun value policy => { policy with typography.lineSpacingPercent := value })
        .lineSpacingPercent source
    |> applyLeaf overrides.typography.paragraphSpacingPt
        (fun value policy => { policy with typography.paragraphSpacingPt := value })
        .paragraphSpacingPt source
    |> applyLeaf overrides.typography.headingScalePercent
        (fun value policy => { policy with typography.headingScalePercent := value })
        .headingScalePercent source
    |> applyLeaf overrides.regions.headerGapMm
        (fun value policy => { policy with regions.headerGapMm := value })
        .headerGapMm source
    |> applyLeaf overrides.regions.footerGapMm
        (fun value policy => { policy with regions.footerGapMm := value })
        .footerGapMm source
    |> applyLeaf overrides.furniture.headerEnabled
        (fun value policy => { policy with furniture.header.enabled := value })
        .furnitureHeaderEnabled source
    |> applyLeaf overrides.furniture.headerText
        (fun value policy => { policy with furniture.header.text := value })
        .furnitureHeaderText source
    |> applyLeaf overrides.furniture.headerAlignment
        (fun value policy => { policy with furniture.header.alignment := value })
        .furnitureHeaderAlignment source
    |> applyLeaf overrides.furniture.headerRule
        (fun value policy => { policy with furniture.header.rule := value })
        .furnitureHeaderRule source
    |> applyLeaf overrides.furniture.footerEnabled
        (fun value policy => { policy with furniture.footer.enabled := value })
        .furnitureFooterEnabled source
    |> applyLeaf overrides.furniture.footerText
        (fun value policy => { policy with furniture.footer.text := value })
        .furnitureFooterText source
    |> applyLeaf overrides.furniture.footerAlignment
        (fun value policy => { policy with furniture.footer.alignment := value })
        .furnitureFooterAlignment source
    |> applyLeaf overrides.furniture.footerRule
        (fun value policy => { policy with furniture.footer.rule := value })
        .furnitureFooterRule source
    |> applyLeaf overrides.furniture.sideTextEnabled
        (fun value policy => { policy with furniture.sideText.enabled := value })
        .furnitureSideTextEnabled source
    |> applyLeaf overrides.furniture.sideText
        (fun value policy => { policy with furniture.sideText.text := value })
        .furnitureSideText source
    |> applyLeaf overrides.furniture.sideTextEdge
        (fun value policy => { policy with furniture.sideText.edge := value })
        .furnitureSideTextEdge source

/-- The sources before any layer: the instance, for each of `ALL`. -/
def instanceSources (field : DocumentLayoutField) : Option DocumentLayoutSource :=
  if field ∈ DocumentLayoutField.all then some .instance_ else none

/-- A layer of `resolve_document_layout`, if it is supplied. -/
def applyLayer (overrides : Option DocumentLayoutOverrides) (source : DocumentLayoutSource)
    (state : ResolvedDocumentLayout) :
    Except DocumentLayoutValidationError ResolvedDocumentLayout :=
  match overrides with
  | none => .ok state
  | some overrides => do
      overrides.validate
      return applyOverrides overrides source state

def resolveDocumentLayout (instance_ : DocumentLayoutPolicy)
    (template entity book : Option DocumentLayoutOverrides) :
    Except DocumentLayoutValidationError ResolvedDocumentLayout := do
  instance_.validate
  let state ← applyLayer template .template ⟨instance_, instanceSources⟩
  let state ← applyLayer entity .entity state
  let state ← applyLayer book .book state
  state.record.validate
  return state

/-! ### A policy by its leaves -/

def DocumentLayoutField.Value : DocumentLayoutField → Type
  | .pageSize => DocumentPageSize
  | .pageOrientation => DocumentOrientation
  | .marginTopMm | .marginRightMm | .marginBottomMm | .marginLeftMm | .bodyFontSizePt
  | .headerFontSizePt | .footerFontSizePt | .lineSpacingPercent | .paragraphSpacingPt
  | .headingScalePercent | .headerGapMm | .footerGapMm => UInt16
  | .bodyFontFamily | .headerFontFamily | .footerFontFamily => DocumentFontFamily
  | .furnitureHeaderEnabled | .furnitureHeaderRule | .furnitureFooterEnabled
  | .furnitureFooterRule | .furnitureSideTextEnabled => Bool
  | .furnitureHeaderText | .furnitureFooterText | .furnitureSideText => String
  | .furnitureHeaderAlignment | .furnitureFooterAlignment => DocumentFurnitureAlignment
  | .furnitureSideTextEdge => DocumentSideTextEdge

def DocumentLayoutPolicy.leaf (policy : DocumentLayoutPolicy) :
    (field : DocumentLayoutField) → field.Value
  | .pageSize => policy.page.size
  | .pageOrientation => policy.page.orientation
  | .marginTopMm => policy.page.marginsMm.top
  | .marginRightMm => policy.page.marginsMm.right
  | .marginBottomMm => policy.page.marginsMm.bottom
  | .marginLeftMm => policy.page.marginsMm.left
  | .bodyFontFamily => policy.typography.bodyFontFamily
  | .bodyFontSizePt => policy.typography.bodyFontSizePt
  | .headerFontFamily => policy.typography.headerFontFamily
  | .headerFontSizePt => policy.typography.headerFontSizePt
  | .footerFontFamily => policy.typography.footerFontFamily
  | .footerFontSizePt => policy.typography.footerFontSizePt
  | .lineSpacingPercent => policy.typography.lineSpacingPercent
  | .paragraphSpacingPt => policy.typography.paragraphSpacingPt
  | .headingScalePercent => policy.typography.headingScalePercent
  | .headerGapMm => policy.regions.headerGapMm
  | .footerGapMm => policy.regions.footerGapMm
  | .furnitureHeaderEnabled => policy.furniture.header.enabled
  | .furnitureHeaderText => policy.furniture.header.text
  | .furnitureHeaderAlignment => policy.furniture.header.alignment
  | .furnitureHeaderRule => policy.furniture.header.rule
  | .furnitureFooterEnabled => policy.furniture.footer.enabled
  | .furnitureFooterText => policy.furniture.footer.text
  | .furnitureFooterAlignment => policy.furniture.footer.alignment
  | .furnitureFooterRule => policy.furniture.footer.rule
  | .furnitureSideTextEnabled => policy.furniture.sideText.enabled
  | .furnitureSideText => policy.furniture.sideText.text
  | .furnitureSideTextEdge => policy.furniture.sideText.edge

def DocumentLayoutPolicy.setLeaf (policy : DocumentLayoutPolicy) :
    (field : DocumentLayoutField) → field.Value → DocumentLayoutPolicy
  | .pageSize, value => { policy with page.size := value }
  | .pageOrientation, value => { policy with page.orientation := value }
  | .marginTopMm, value => { policy with page.marginsMm.top := value }
  | .marginRightMm, value => { policy with page.marginsMm.right := value }
  | .marginBottomMm, value => { policy with page.marginsMm.bottom := value }
  | .marginLeftMm, value => { policy with page.marginsMm.left := value }
  | .bodyFontFamily, value => { policy with typography.bodyFontFamily := value }
  | .bodyFontSizePt, value => { policy with typography.bodyFontSizePt := value }
  | .headerFontFamily, value => { policy with typography.headerFontFamily := value }
  | .headerFontSizePt, value => { policy with typography.headerFontSizePt := value }
  | .footerFontFamily, value => { policy with typography.footerFontFamily := value }
  | .footerFontSizePt, value => { policy with typography.footerFontSizePt := value }
  | .lineSpacingPercent, value => { policy with typography.lineSpacingPercent := value }
  | .paragraphSpacingPt, value => { policy with typography.paragraphSpacingPt := value }
  | .headingScalePercent, value => { policy with typography.headingScalePercent := value }
  | .headerGapMm, value => { policy with regions.headerGapMm := value }
  | .footerGapMm, value => { policy with regions.footerGapMm := value }
  | .furnitureHeaderEnabled, value => { policy with furniture.header.enabled := value }
  | .furnitureHeaderText, value => { policy with furniture.header.text := value }
  | .furnitureHeaderAlignment, value => { policy with furniture.header.alignment := value }
  | .furnitureHeaderRule, value => { policy with furniture.header.rule := value }
  | .furnitureFooterEnabled, value => { policy with furniture.footer.enabled := value }
  | .furnitureFooterText, value => { policy with furniture.footer.text := value }
  | .furnitureFooterAlignment, value => { policy with furniture.footer.alignment := value }
  | .furnitureFooterRule, value => { policy with furniture.footer.rule := value }
  | .furnitureSideTextEnabled, value => { policy with furniture.sideText.enabled := value }
  | .furnitureSideText, value => { policy with furniture.sideText.text := value }
  | .furnitureSideTextEdge, value => { policy with furniture.sideText.edge := value }

def DocumentLayoutOverrides.leaf (overrides : DocumentLayoutOverrides) :
    (field : DocumentLayoutField) → Option field.Value
  | .pageSize => overrides.page.size
  | .pageOrientation => overrides.page.orientation
  | .marginTopMm => overrides.page.marginsMm.top
  | .marginRightMm => overrides.page.marginsMm.right
  | .marginBottomMm => overrides.page.marginsMm.bottom
  | .marginLeftMm => overrides.page.marginsMm.left
  | .bodyFontFamily => overrides.typography.bodyFontFamily
  | .bodyFontSizePt => overrides.typography.bodyFontSizePt
  | .headerFontFamily => overrides.typography.headerFontFamily
  | .headerFontSizePt => overrides.typography.headerFontSizePt
  | .footerFontFamily => overrides.typography.footerFontFamily
  | .footerFontSizePt => overrides.typography.footerFontSizePt
  | .lineSpacingPercent => overrides.typography.lineSpacingPercent
  | .paragraphSpacingPt => overrides.typography.paragraphSpacingPt
  | .headingScalePercent => overrides.typography.headingScalePercent
  | .headerGapMm => overrides.regions.headerGapMm
  | .footerGapMm => overrides.regions.footerGapMm
  | .furnitureHeaderEnabled => overrides.furniture.headerEnabled
  | .furnitureHeaderText => overrides.furniture.headerText
  | .furnitureHeaderAlignment => overrides.furniture.headerAlignment
  | .furnitureHeaderRule => overrides.furniture.headerRule
  | .furnitureFooterEnabled => overrides.furniture.footerEnabled
  | .furnitureFooterText => overrides.furniture.footerText
  | .furnitureFooterAlignment => overrides.furniture.footerAlignment
  | .furnitureFooterRule => overrides.furniture.footerRule
  | .furnitureSideTextEnabled => overrides.furniture.sideTextEnabled
  | .furnitureSideText => overrides.furniture.sideText
  | .furnitureSideTextEdge => overrides.furniture.sideTextEdge

theorem DocumentLayoutField.mem_all (field : DocumentLayoutField) :
    field ∈ DocumentLayoutField.all := by
  cases field <;> decide

instance : Fielded DocumentLayoutField DocumentLayoutField.Value DocumentLayoutPolicy where
  get := DocumentLayoutPolicy.leaf
  set field value policy := policy.setLeaf field value
  get_set_self field _ _ := by cases field <;> rfl
  get_set_of_ne {field other} _ _ apart := by
    cases field <;> cases other <;> first | rfl | exact absurd rfl apart

theorem applyLeaf_eq {overrides : DocumentLayoutOverrides} {source : DocumentLayoutSource}
    {state : ResolvedDocumentLayout} (field : DocumentLayoutField) :
    Cascade.assign overrides.leaf source state field =
      applyLeaf (overrides.leaf field) (fun value policy => policy.setLeaf field value) field source
        state := by
  unfold applyLeaf Cascade.assign
  cases overrides.leaf field <;> rfl

/-- **The list of leaves is the cascade over all of them.** -/
theorem applyOverrides_eq (overrides : DocumentLayoutOverrides) (source : DocumentLayoutSource)
    (state : ResolvedDocumentLayout) : applyOverrides overrides source state =
      Cascade.lay DocumentLayoutField.all overrides.leaf source state := by
  unfold applyOverrides Cascade.lay DocumentLayoutField.all
  simp only [List.foldl_cons, List.foldl_nil, applyLeaf_eq]
  rfl

/-! ### The cascade of the layers -/

section Cascade

variable {template entity book layer : Option DocumentLayoutOverrides}
  {instance_ : DocumentLayoutPolicy} {source : DocumentLayoutSource}
  {state : ResolvedDocumentLayout} {overrides : DocumentLayoutOverrides}

def suppliedLeaf (layer : Option DocumentLayoutOverrides) :
    Cascade.Layer DocumentLayoutField.Value := fun field =>
  layer.bind fun overrides => overrides.leaf field

/-- The layers over an instance, in their order of precedence. -/
def cascadeLayers (template entity book : Option DocumentLayoutOverrides) :
    List (DocumentLayoutSource × Cascade.Layer DocumentLayoutField.Value) :=
  [(.template, suppliedLeaf template), (.entity, suppliedLeaf entity), (.book, suppliedLeaf book)]

/-- The policy of an instance under the layers, valid or not. -/
def mergedLayout (instance_ : DocumentLayoutPolicy)
    (template entity book : Option DocumentLayoutOverrides) : ResolvedDocumentLayout :=
  Cascade.layAll DocumentLayoutField.all (cascadeLayers template entity book)
    ⟨instance_, instanceSources⟩

def SuppliedValid (layer : Option DocumentLayoutOverrides) : Prop :=
  ∀ overrides, layer = some overrides → overrides.validate = .ok ()

/-- The value of a leaf and its source: those of the last layer that sets it. -/
def effectiveLeaf (instance_ : DocumentLayoutPolicy)
    (template entity book : Option DocumentLayoutOverrides) (field : DocumentLayoutField) :
    field.Value × DocumentLayoutSource :=
  (Cascade.last (cascadeLayers template entity book) field).getD (instance_.leaf field, .instance_)

theorem suppliedValid_none : SuppliedValid none := by
  intro overrides absent
  cases absent

theorem lay_suppliedLeaf_none :
    Cascade.lay DocumentLayoutField.all (suppliedLeaf none) source state = state :=
  Cascade.lay_of_empty fun _ => rfl

theorem mergedLayout_none :
    mergedLayout instance_ none none none = ⟨instance_, instanceSources⟩ := by
  have three : mergedLayout instance_ none none none =
      Cascade.lay DocumentLayoutField.all (suppliedLeaf none) .book
        (Cascade.lay DocumentLayoutField.all (suppliedLeaf none) .entity
          (Cascade.lay DocumentLayoutField.all (suppliedLeaf none) .template
            ⟨instance_, instanceSources⟩)) := rfl
  rw [three, lay_suppliedLeaf_none, lay_suppliedLeaf_none, lay_suppliedLeaf_none]

theorem applyLayer_eq_ok_iff {result : ResolvedDocumentLayout} :
    applyLayer layer source state = .ok result ↔ SuppliedValid layer ∧
      result = Cascade.lay DocumentLayoutField.all (suppliedLeaf layer) source state := by
  cases layer with
  | none =>
      have kept : applyLayer none source state = .ok state := rfl
      rw [lay_suppliedLeaf_none, kept]
      constructor
      · intro done
        exact ⟨suppliedValid_none, (Except.ok.inj done).symm⟩
      · rintro ⟨-, rfl⟩
        rfl
  | some overrides =>
      have laid : Cascade.lay DocumentLayoutField.all (suppliedLeaf (some overrides)) source state =
          applyOverrides overrides source state := (applyOverrides_eq overrides source state).symm
      rw [laid]
      unfold applyLayer
      dsimp only
      rw [check_bind_eq_ok_iff]
      generalize applyOverrides overrides source state = laid
      constructor
      · rintro ⟨valid, done⟩
        exact ⟨fun other same => Option.some.inj same ▸ valid, (Except.ok.inj done).symm⟩
      · rintro ⟨valid, rfl⟩
        exact ⟨valid overrides rfl, rfl⟩

theorem resolveDocumentLayout_eq_ok_iff {resolved : ResolvedDocumentLayout} :
    resolveDocumentLayout instance_ template entity book = .ok resolved ↔
      instance_.validate = .ok () ∧ SuppliedValid template ∧ SuppliedValid entity ∧
        SuppliedValid book ∧
        (mergedLayout instance_ template entity book).record.validate = .ok () ∧
        resolved = mergedLayout instance_ template entity book := by
  unfold resolveDocumentLayout
  simp only [bind_eq_ok_iff, applyLayer_eq_ok_iff]
  constructor
  · rintro ⟨⟨⟩, valid, first, ⟨validTemplate, rfl⟩, second, ⟨validEntity, rfl⟩, third,
      ⟨validBook, laid⟩, ⟨⟩, merged, done⟩
    have same : third = mergedLayout instance_ template entity book := laid
    rw [same] at merged done
    exact ⟨valid, validTemplate, validEntity, validBook, merged, (Except.ok.inj done).symm⟩
  · rintro ⟨valid, validTemplate, validEntity, validBook, merged, rfl⟩
    exact ⟨⟨⟩, valid, _, ⟨validTemplate, rfl⟩, _, ⟨validEntity, rfl⟩, _, ⟨validBook, rfl⟩, ⟨⟩,
      merged, rfl⟩

theorem read_mergedLayout (field : DocumentLayoutField) :
    (mergedLayout instance_ template entity book).read field =
      Prod.map id some (effectiveLeaf instance_ template entity book field) := by
  have start : (⟨instance_, instanceSources⟩ : ResolvedDocumentLayout).read field =
      (instance_.leaf field, some .instance_) := by
    have source : instanceSources field = some .instance_ := if_pos field.mem_all
    exact Prod.ext rfl source
  rw [mergedLayout, Cascade.read_layAll _ field.mem_all, start, effectiveLeaf]
  cases Cascade.last (cascadeLayers template entity book) field <;> rfl

theorem usable_of_validate {policy : DocumentLayoutPolicy} (valid : policy.validate = .ok ()) :
    ∃ width height, policy.usablePageDimensionsMm = some (width, height) ∧ 90 ≤ width ∧
      100 ≤ height := by
  unfold DocumentLayoutPolicy.validate at valid
  simp only [check_bind_eq_ok_iff] at valid
  have enough := valid.2.2.2.2.2.2.2.2
  unfold DocumentLayoutPolicy.validateUsable at enough
  dsimp only at enough
  cases usable : policy.usablePageDimensionsMm with
  | none =>
      rw [usable] at enough
      cases enough
  | some dimensions =>
      obtain ⟨width, height⟩ := dimensions
      rw [usable] at enough
      dsimp only at enough
      split at enough
      · cases enough
      · next wide =>
          obtain ⟨width90, height100⟩ := not_or.mp wide
          exact ⟨width, height, rfl, Nat.not_lt.mp width90, Nat.not_lt.mp height100⟩

theorem validate_of_unset (unset : ∀ field, overrides.leaf field = none) :
    overrides.validate = .ok () := by
  have typography : validateOptionalTypography overrides.typography = .ok () := by
    unfold validateOptionalTypography
    rw [show overrides.typography.bodyFontSizePt = none from unset .bodyFontSizePt,
      show overrides.typography.headerFontSizePt = none from unset .headerFontSizePt,
      show overrides.typography.footerFontSizePt = none from unset .footerFontSizePt,
      show overrides.typography.lineSpacingPercent = none from unset .lineSpacingPercent,
      show overrides.typography.paragraphSpacingPt = none from unset .paragraphSpacingPt,
      show overrides.typography.headingScalePercent = none from unset .headingScalePercent]
    rfl
  have furniture : overrides.furniture.validate = .ok () := by
    unfold DocumentPageFurnitureOverrides.validate
    rw [show overrides.furniture.headerText = none from unset .furnitureHeaderText,
      show overrides.furniture.footerText = none from unset .furnitureFooterText,
      show overrides.furniture.sideText = none from unset .furnitureSideText]
    rfl
  unfold DocumentLayoutOverrides.validate
  rw [show overrides.page.marginsMm.top = none from unset .marginTopMm,
    show overrides.page.marginsMm.right = none from unset .marginRightMm,
    show overrides.page.marginsMm.bottom = none from unset .marginBottomMm,
    show overrides.page.marginsMm.left = none from unset .marginLeftMm, typography,
    show overrides.regions.headerGapMm = none from unset .headerGapMm,
    show overrides.regions.footerGapMm = none from unset .footerGapMm, furniture]
  rfl

theorem applyLayer_of_unset (unset : ∀ field, overrides.leaf field = none) :
    applyLayer (some overrides) source state = applyLayer none source state := by
  have laid : applyOverrides overrides source state = state := by
    rw [applyOverrides_eq, Cascade.lay_of_empty unset]
  unfold applyLayer
  dsimp only
  rw [validate_of_unset unset, laid]
  rfl

/-- **The layout cascade**: it succeeds just where the instance, each layer supplied and the merged
policy pass their checks; each leaf then has the value and the source of the last layer that
sets it; enough of the page is left; a layer that sets no leaf is no layer; and the policy
resolved again alone is the same policy. -/
theorem layout_cascade (instance_ : DocumentLayoutPolicy)
    (template entity book : Option DocumentLayoutOverrides) :
    (∀ resolved, resolveDocumentLayout instance_ template entity book = .ok resolved ↔
      instance_.validate = .ok () ∧ SuppliedValid template ∧ SuppliedValid entity ∧
        SuppliedValid book ∧
        (mergedLayout instance_ template entity book).record.validate = .ok () ∧
        resolved = mergedLayout instance_ template entity book) ∧
    (∀ resolved, resolveDocumentLayout instance_ template entity book = .ok resolved →
      (∀ field, (resolved.record.leaf field, resolved.sources field) =
        Prod.map id some (effectiveLeaf instance_ template entity book field)) ∧
      (∃ width height, resolved.record.usablePageDimensionsMm = some (width, height) ∧
        90 ≤ width ∧ 100 ≤ height) ∧
      resolveDocumentLayout resolved.record none none none =
        .ok ⟨resolved.record, instanceSources⟩) ∧
    ∀ overrides : DocumentLayoutOverrides, (∀ field, overrides.leaf field = none) →
      resolveDocumentLayout instance_ (some overrides) entity book =
          resolveDocumentLayout instance_ none entity book ∧
        resolveDocumentLayout instance_ template (some overrides) book =
          resolveDocumentLayout instance_ template none book ∧
        resolveDocumentLayout instance_ template entity (some overrides) =
          resolveDocumentLayout instance_ template entity none := by
  refine ⟨fun _ => resolveDocumentLayout_eq_ok_iff, fun resolved done => ?_,
    fun overrides unset => ?_⟩
  · obtain ⟨-, -, -, -, valid, rfl⟩ := resolveDocumentLayout_eq_ok_iff.mp done
    refine ⟨fun field => read_mergedLayout field, usable_of_validate valid, ?_⟩
    have again : (mergedLayout (mergedLayout instance_ template entity book).record none none
        none).record.validate = .ok () := by
      rw [mergedLayout_none]
      exact valid
    exact resolveDocumentLayout_eq_ok_iff.mpr ⟨valid, suppliedValid_none, suppliedValid_none,
      suppliedValid_none, again, mergedLayout_none.symm⟩
  · unfold resolveDocumentLayout
    simp only [applyLayer_of_unset unset, and_self]

end Cascade

end Chancela
