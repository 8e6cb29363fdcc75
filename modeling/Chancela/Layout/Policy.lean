import Chancela.Layout.Furniture

/-! # Document layout policies

The concrete policy a renderer consumes, a layer of overrides over it, and the checks of both:
the range of each number, the furniture templates, and the usable page that is left.
-/

namespace Chancela

def minUsablePageWidthMm : Nat := 90

def minUsablePageHeightMm : Nat := 100

inductive DocumentPageSize where
  | a4
  | a5
  | letter
  | legal
deriving DecidableEq

def DocumentPageSize.dimensionsMm : DocumentPageSize → Nat × Nat
  | a4 => (210, 297)
  | a5 => (148, 210)
  | letter => (216, 279)
  | legal => (216, 356)

inductive DocumentOrientation where
  | portrait
  | landscape
deriving DecidableEq

inductive DocumentFontFamily where
  | notoSerif
  | notoSans
deriving DecidableEq

inductive DocumentFurnitureAlignment where
  | left
  | center
  | right
deriving DecidableEq

inductive DocumentSideTextEdge where
  | left
  | right
deriving DecidableEq

structure DocumentPageMargins where
  top : UInt16
  right : UInt16
  bottom : UInt16
  left : UInt16
deriving DecidableEq

structure DocumentPageLayout where
  size : DocumentPageSize
  orientation : DocumentOrientation
  marginsMm : DocumentPageMargins
deriving DecidableEq

structure DocumentTypography where
  bodyFontFamily : DocumentFontFamily
  bodyFontSizePt : UInt16
  headerFontFamily : DocumentFontFamily
  headerFontSizePt : UInt16
  footerFontFamily : DocumentFontFamily
  footerFontSizePt : UInt16
  lineSpacingPercent : UInt16
  paragraphSpacingPt : UInt16
  headingScalePercent : UInt16
deriving DecidableEq

structure DocumentRegions where
  headerGapMm : UInt16
  footerGapMm : UInt16
deriving DecidableEq

structure DocumentHeaderFurniture where
  enabled : Bool
  text : String
  alignment : DocumentFurnitureAlignment
  rule : Bool
deriving DecidableEq

structure DocumentFooterFurniture where
  enabled : Bool
  text : String
  alignment : DocumentFurnitureAlignment
  rule : Bool
deriving DecidableEq

structure DocumentSideTextFurniture where
  enabled : Bool
  text : String
  edge : DocumentSideTextEdge
deriving DecidableEq

structure DocumentPageFurniture where
  header : DocumentHeaderFurniture
  footer : DocumentFooterFurniture
  sideText : DocumentSideTextFurniture
deriving DecidableEq

structure DocumentLayoutPolicy where
  page : DocumentPageLayout
  typography : DocumentTypography
  regions : DocumentRegions
  furniture : DocumentPageFurniture
deriving DecidableEq

inductive DocumentLayoutField where
  | pageSize
  | pageOrientation
  | marginTopMm
  | marginRightMm
  | marginBottomMm
  | marginLeftMm
  | bodyFontFamily
  | bodyFontSizePt
  | headerFontFamily
  | headerFontSizePt
  | footerFontFamily
  | footerFontSizePt
  | lineSpacingPercent
  | paragraphSpacingPt
  | headingScalePercent
  | headerGapMm
  | footerGapMm
  | furnitureHeaderEnabled
  | furnitureHeaderText
  | furnitureHeaderAlignment
  | furnitureHeaderRule
  | furnitureFooterEnabled
  | furnitureFooterText
  | furnitureFooterAlignment
  | furnitureFooterRule
  | furnitureSideTextEnabled
  | furnitureSideText
  | furnitureSideTextEdge
deriving DecidableEq

def DocumentLayoutField.all : List DocumentLayoutField :=
  [pageSize, pageOrientation, marginTopMm, marginRightMm, marginBottomMm, marginLeftMm,
    bodyFontFamily, bodyFontSizePt, headerFontFamily, headerFontSizePt, footerFontFamily,
    footerFontSizePt, lineSpacingPercent, paragraphSpacingPt, headingScalePercent, headerGapMm,
    footerGapMm, furnitureHeaderEnabled, furnitureHeaderText, furnitureHeaderAlignment,
    furnitureHeaderRule, furnitureFooterEnabled, furnitureFooterText, furnitureFooterAlignment,
    furnitureFooterRule, furnitureSideTextEnabled, furnitureSideText, furnitureSideTextEdge]

inductive DocumentLayoutValidationError where
  | outOfRange (field : DocumentLayoutField) (minimum maximum actual : UInt16)
  | unusablePage (pageWidthMm pageHeightMm usableWidthMm usableHeightMm minimumWidthMm
      minimumHeightMm : Nat)
  | furniture (field : DocumentLayoutField) (source : FurnitureTemplateError)
deriving DecidableEq

/-! ### Checks of a field -/

def validateRange (field : DocumentLayoutField) (value minimum maximum : UInt16) :
    Except DocumentLayoutValidationError Unit :=
  if minimum ≤ value ∧ value ≤ maximum then .ok ()
  else .error (.outOfRange field minimum maximum value)

/-- `validate_margin`: from `MIN_MARGIN_MM` to `MAX_MARGIN_MM`. -/
def validateMargin (field : DocumentLayoutField) (value : UInt16) :
    Except DocumentLayoutValidationError Unit :=
  validateRange field value 5 60

def validateFurnitureText (field : DocumentLayoutField) (text : String) :
    Except DocumentLayoutValidationError Unit :=
  match parseFurnitureTemplate text with
  | .ok _ => .ok ()
  | .error source => .error (.furniture field source)

def validateSome {α : Type} (check : α → Except DocumentLayoutValidationError Unit) :
    Option α → Except DocumentLayoutValidationError Unit
  | none => .ok ()
  | some value => check value

def validateTypography (typography : DocumentTypography) :
    Except DocumentLayoutValidationError Unit := do
  validateRange .bodyFontSizePt typography.bodyFontSizePt 8 18
  validateRange .headerFontSizePt typography.headerFontSizePt 8 24
  validateRange .footerFontSizePt typography.footerFontSizePt 7 16
  validateRange .lineSpacingPercent typography.lineSpacingPercent 100 200
  validateRange .paragraphSpacingPt typography.paragraphSpacingPt 0 24
  validateRange .headingScalePercent typography.headingScalePercent 75 200

/-! ### Checks of a policy -/

namespace DocumentPageFurniture

def headerDraws (furniture : DocumentPageFurniture) : Bool :=
  furniture.header.enabled && !(Text.trim furniture.header.text).isEmpty

def footerDraws (furniture : DocumentPageFurniture) : Bool :=
  furniture.footer.enabled && !(Text.trim furniture.footer.text).isEmpty

def sideTextDraws (furniture : DocumentPageFurniture) : Bool :=
  furniture.sideText.enabled && !(Text.trim furniture.sideText.text).isEmpty

def drawsAnything (furniture : DocumentPageFurniture) : Bool :=
  furniture.headerDraws || furniture.footerDraws || furniture.sideTextDraws

/-- `DocumentPageFurniture::validate`, which checks disabled text too. -/
def validate (furniture : DocumentPageFurniture) : Except DocumentLayoutValidationError Unit := do
  validateFurnitureText .furnitureHeaderText furniture.header.text
  validateFurnitureText .furnitureFooterText furniture.footer.text
  validateFurnitureText .furnitureSideText furniture.sideText.text

end DocumentPageFurniture

namespace DocumentLayoutPolicy

def pageDimensionsMm (policy : DocumentLayoutPolicy) : Nat × Nat :=
  let (width, height) := policy.page.size.dimensionsMm
  match policy.page.orientation with
  | .portrait => (width, height)
  | .landscape => (height, width)

def usablePageDimensionsMm (policy : DocumentLayoutPolicy) : Option (Nat × Nat) :=
  let (width, height) := policy.pageDimensionsMm
  let horizontal := policy.page.marginsMm.left.toNat + policy.page.marginsMm.right.toNat
  let vertical := policy.page.marginsMm.top.toNat + policy.page.marginsMm.bottom.toNat
  if horizontal ≤ width ∧ vertical ≤ height then some (width - horizontal, height - vertical)
  else none

def validateUsable (policy : DocumentLayoutPolicy) : Except DocumentLayoutValidationError Unit :=
  let (pageWidthMm, pageHeightMm) := policy.pageDimensionsMm
  match policy.usablePageDimensionsMm with
  | none => .error (.unusablePage pageWidthMm pageHeightMm 0 0 minUsablePageWidthMm
      minUsablePageHeightMm)
  | some (usableWidthMm, usableHeightMm) =>
      if usableWidthMm < minUsablePageWidthMm ∨ usableHeightMm < minUsablePageHeightMm then
        .error (.unusablePage pageWidthMm pageHeightMm usableWidthMm usableHeightMm
          minUsablePageWidthMm minUsablePageHeightMm)
      else .ok ()

def validate (policy : DocumentLayoutPolicy) : Except DocumentLayoutValidationError Unit := do
  validateMargin .marginTopMm policy.page.marginsMm.top
  validateMargin .marginRightMm policy.page.marginsMm.right
  validateMargin .marginBottomMm policy.page.marginsMm.bottom
  validateMargin .marginLeftMm policy.page.marginsMm.left
  validateTypography policy.typography
  validateRange .headerGapMm policy.regions.headerGapMm 0 30
  validateRange .footerGapMm policy.regions.footerGapMm 0 30
  policy.furniture.validate
  policy.validateUsable

end DocumentLayoutPolicy

/-! ### Layers of overrides -/

structure DocumentPageMarginsOverrides where
  top : Option UInt16
  right : Option UInt16
  bottom : Option UInt16
  left : Option UInt16
deriving DecidableEq

structure DocumentPageLayoutOverrides where
  size : Option DocumentPageSize
  orientation : Option DocumentOrientation
  marginsMm : DocumentPageMarginsOverrides
deriving DecidableEq

structure DocumentTypographyOverrides where
  bodyFontFamily : Option DocumentFontFamily
  bodyFontSizePt : Option UInt16
  headerFontFamily : Option DocumentFontFamily
  headerFontSizePt : Option UInt16
  footerFontFamily : Option DocumentFontFamily
  footerFontSizePt : Option UInt16
  lineSpacingPercent : Option UInt16
  paragraphSpacingPt : Option UInt16
  headingScalePercent : Option UInt16
deriving DecidableEq

structure DocumentRegionsOverrides where
  headerGapMm : Option UInt16
  footerGapMm : Option UInt16
deriving DecidableEq

structure DocumentPageFurnitureOverrides where
  headerEnabled : Option Bool
  headerText : Option String
  headerAlignment : Option DocumentFurnitureAlignment
  headerRule : Option Bool
  footerEnabled : Option Bool
  footerText : Option String
  footerAlignment : Option DocumentFurnitureAlignment
  footerRule : Option Bool
  sideTextEnabled : Option Bool
  sideText : Option String
  sideTextEdge : Option DocumentSideTextEdge
deriving DecidableEq

structure DocumentLayoutOverrides where
  page : DocumentPageLayoutOverrides
  typography : DocumentTypographyOverrides
  regions : DocumentRegionsOverrides
  furniture : DocumentPageFurnitureOverrides
deriving DecidableEq

def validateOptionalTypography (typography : DocumentTypographyOverrides) :
    Except DocumentLayoutValidationError Unit := do
  validateSome (validateRange .bodyFontSizePt · 8 18) typography.bodyFontSizePt
  validateSome (validateRange .headerFontSizePt · 8 24) typography.headerFontSizePt
  validateSome (validateRange .footerFontSizePt · 7 16) typography.footerFontSizePt
  validateSome (validateRange .lineSpacingPercent · 100 200) typography.lineSpacingPercent
  validateSome (validateRange .paragraphSpacingPt · 0 24) typography.paragraphSpacingPt
  validateSome (validateRange .headingScalePercent · 75 200) typography.headingScalePercent

def DocumentPageFurnitureOverrides.validate (furniture : DocumentPageFurnitureOverrides) :
    Except DocumentLayoutValidationError Unit := do
  validateSome (validateFurnitureText .furnitureHeaderText) furniture.headerText
  validateSome (validateFurnitureText .furnitureFooterText) furniture.footerText
  validateSome (validateFurnitureText .furnitureSideText) furniture.sideText

namespace DocumentLayoutOverrides

def validate (overrides : DocumentLayoutOverrides) : Except DocumentLayoutValidationError Unit := do
  validateSome (validateMargin .marginTopMm) overrides.page.marginsMm.top
  validateSome (validateMargin .marginRightMm) overrides.page.marginsMm.right
  validateSome (validateMargin .marginBottomMm) overrides.page.marginsMm.bottom
  validateSome (validateMargin .marginLeftMm) overrides.page.marginsMm.left
  validateOptionalTypography overrides.typography
  validateSome (validateRange .headerGapMm · 0 30) overrides.regions.headerGapMm
  validateSome (validateRange .footerGapMm · 0 30) overrides.regions.footerGapMm
  overrides.furniture.validate

end DocumentLayoutOverrides

end Chancela
