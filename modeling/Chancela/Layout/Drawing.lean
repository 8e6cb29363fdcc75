import Chancela.Foundation.Outcome
import Chancela.Layout.Policy

/-! # Drawing page furniture

What the layout engine makes of the furniture of a policy once its pages are known. It checks the
policy first, and parses the templates of the pieces that draw. A policy checks the templates of
every piece, so that any of them may be enabled (`Chancela.furniture_templates`).
-/

namespace Chancela

open Outcome

/-- Why a document is not laid out: its policy, or a template of its furniture. -/
inductive LayoutError where
  | policy (error : DocumentLayoutValidationError)
  | furniture (error : FurnitureTemplateError)
deriving DecidableEq

def parseDrawn (draws : Bool) (text : String) :
    Except FurnitureTemplateError (Option (List FurnitureSegment)) :=
  if draws then (parseFurnitureTemplate text).map some else .ok none

/-- The templates of `draw_page_furniture`: header, footer and side text. -/
def DocumentPageFurniture.parsed (furniture : DocumentPageFurniture) :
    Except FurnitureTemplateError (List (Option (List FurnitureSegment))) := do
  if !furniture.drawsAnything then return []
  let header ← parseDrawn furniture.headerDraws furniture.header.text
  let footer ← parseDrawn furniture.footerDraws furniture.footer.text
  let sideText ← parseDrawn furniture.sideTextDraws furniture.sideText.text
  return [header, footer, sideText]

/-- The lines of each page, as `draw_page_furniture` resolves them. -/
def drawPageFurniture (policy : DocumentLayoutPolicy) (pages : List FurnitureFacts) :
    Except LayoutError (List (List (Option String))) := do
  policy.validate.mapError .policy
  let parsed ← policy.furniture.parsed.mapError .furniture
  return pages.map fun facts => parsed.map fun piece =>
    piece.bind fun segments => resolveFurnitureSegments segments facts

/-- The policy with these pieces of its furniture enabled. -/
def DocumentLayoutPolicy.enabling (policy : DocumentLayoutPolicy) (header footer sideText : Bool) :
    DocumentLayoutPolicy :=
  { policy with
    furniture.header.enabled := policy.furniture.header.enabled || header
    furniture.footer.enabled := policy.furniture.footer.enabled || footer
    furniture.sideText.enabled := policy.furniture.sideText.enabled || sideText }

theorem validate_enabling {policy : DocumentLayoutPolicy} {header footer sideText : Bool} :
    (policy.enabling header footer sideText).validate = policy.validate := rfl

theorem validateFurnitureText_eq_ok_iff {field : DocumentLayoutField} {text : String} :
    validateFurnitureText field text = .ok () ↔
      ∃ segments, parseFurnitureTemplate text = .ok segments := by
  unfold validateFurnitureText
  cases parseFurnitureTemplate text with
  | error source => exact iff_of_false nofun nofun
  | ok segments => exact iff_of_true rfl ⟨segments, rfl⟩

theorem validate_furniture_eq_ok_iff {furniture : DocumentPageFurniture} :
    furniture.validate = .ok () ↔
      (∃ segments, parseFurnitureTemplate furniture.header.text = .ok segments) ∧
        (∃ segments, parseFurnitureTemplate furniture.footer.text = .ok segments) ∧
        ∃ segments, parseFurnitureTemplate furniture.sideText.text = .ok segments := by
  unfold DocumentPageFurniture.validate
  rw [check_bind_eq_ok_iff, check_bind_eq_ok_iff, validateFurnitureText_eq_ok_iff,
    validateFurnitureText_eq_ok_iff, validateFurnitureText_eq_ok_iff]

theorem parseDrawn_of_ok {draws : Bool} {text : String}
    (accepted : ∃ segments, parseFurnitureTemplate text = .ok segments) :
    ∃ drawn, parseDrawn draws text = .ok drawn := by
  obtain ⟨segments, parsed⟩ := accepted
  unfold parseDrawn
  rw [parsed]
  split <;> exact ⟨_, rfl⟩

theorem exists_parsed {furniture : DocumentPageFurniture} (valid : furniture.validate = .ok ()) :
    ∃ parsed, furniture.parsed = .ok parsed := by
  obtain ⟨header, footer, sideText⟩ := validate_furniture_eq_ok_iff.mp valid
  obtain ⟨header, parsedHeader⟩ := @parseDrawn_of_ok furniture.headerDraws _ header
  obtain ⟨footer, parsedFooter⟩ := @parseDrawn_of_ok furniture.footerDraws _ footer
  obtain ⟨sideText, parsedSideText⟩ := @parseDrawn_of_ok furniture.sideTextDraws _ sideText
  unfold DocumentPageFurniture.parsed
  rw [parsedHeader, parsedFooter, parsedSideText]
  split <;> exact ⟨_, rfl⟩

theorem validate_furniture_of_validate {policy : DocumentLayoutPolicy}
    (valid : policy.validate = .ok ()) : policy.furniture.validate = .ok () := by
  unfold DocumentLayoutPolicy.validate at valid
  simp only [check_bind_eq_ok_iff] at valid
  exact valid.2.2.2.2.2.2.2.1

/-- **Furniture templates**: a template is accepted just where it may be authored, as plain text and
placeholders that put together again are the template; its segments come to a line with each
fact in its place, and to none where a fact is absent; and a policy that passes its checks is
drawn with any pieces of its furniture enabled. -/
theorem furniture_templates :
    (∀ source : String,
      ((∃ segments, parseFurnitureTemplate source = .ok segments) ↔
        ∃ pieces, Furniture.Authorable source pieces) ∧
      ∀ segments, parseFurnitureTemplate source = .ok segments →
        (∃ pieces, Furniture.Authorable source pieces ∧
          pieces.flatMap Furniture.Piece.source = source.toList ∧
          pieces.mapM Furniture.Piece.segment = some segments) ∧
        Furniture.WellFormed segments ∧
        ∀ facts,
          (Furniture.Carried facts segments → resolveFurnitureSegments segments facts =
            some (String.join (segments.map (Furniture.substituted facts)))) ∧
          (resolveFurnitureSegments segments facts = none ↔
            ∃ fact, .placeholder fact ∈ segments ∧ facts.value fact = none)) ∧
    ∀ policy : DocumentLayoutPolicy, policy.validate = .ok () →
      ∀ header footer sideText pages,
        ∃ lines, drawPageFurniture (policy.enabling header footer sideText) pages = .ok lines := by
  refine ⟨fun source => ⟨?_, fun segments parsed => ?_⟩, ?_⟩
  · constructor
    · rintro ⟨segments, parsed⟩
      obtain ⟨pieces, authorable, -⟩ := Furniture.parseFurnitureTemplate_eq_ok_iff.mp parsed
      exact ⟨pieces, authorable⟩
    · rintro ⟨pieces, authorable⟩
      obtain ⟨segments, segmented⟩ := Furniture.exists_segments_iff.mpr authorable.known
      exact ⟨segments,
        Furniture.parseFurnitureTemplate_eq_ok_iff.mpr ⟨pieces, authorable, segmented⟩⟩
  · obtain ⟨pieces, authorable, segmented⟩ := Furniture.parseFurnitureTemplate_eq_ok_iff.mp parsed
    exact ⟨⟨pieces, authorable, authorable.reading.join, segmented⟩,
      authorable.reading.wellFormed segmented, fun facts =>
        ⟨Furniture.resolve_of_carried, Furniture.resolve_eq_none_iff⟩⟩
  · intro policy valid header footer sideText pages
    have enabled : (policy.enabling header footer sideText).validate = .ok () :=
      validate_enabling.trans valid
    obtain ⟨parsed, done⟩ := exists_parsed (validate_furniture_of_validate enabled)
    refine ⟨pages.map fun facts => parsed.map fun piece =>
      piece.bind fun segments => resolveFurnitureSegments segments facts, ?_⟩
    unfold drawPageFurniture
    rw [enabled, done]
    rfl

end Chancela
