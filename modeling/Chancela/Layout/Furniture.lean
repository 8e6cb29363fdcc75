import Chancela.Foundation.Pattern
import Chancela.Foundation.Text

/-! # Page furniture templates

The closed vocabulary of placeholders, the scan of a template into segments, and what the
segments come to on a page. A template is accepted just where it reads from left to right as
plain text and placeholders of the vocabulary (`Chancela.parseFurnitureTemplate_isOk_iff`).
-/

namespace Chancela

def maxFurnitureTextChars : Nat := 200

inductive FurniturePlaceholder where
  | page
  | pageCount
  | pageCapacity
  | entityName
  | entityNipc
  | title
  | subject
  | date
deriving DecidableEq

namespace FurniturePlaceholder

def all : List FurniturePlaceholder :=
  [page, pageCount, pageCapacity, entityName, entityNipc, title, subject, date]

def token : FurniturePlaceholder → String
  | page => "page"
  | pageCount => "page_count"
  | pageCapacity => "page_capacity"
  | entityName => "entity_name"
  | entityNipc => "entity_nipc"
  | title => "title"
  | subject => "subject"
  | date => "date"

def parse (token : String) : Option FurniturePlaceholder := all.find? (·.token = token)

def knownTokens : String := ", ".intercalate (all.map token)

end FurniturePlaceholder

inductive FurnitureSegment where
  | literal (text : String)
  | placeholder (fact : FurniturePlaceholder)
deriving DecidableEq

inductive FurnitureTemplateError where
  | tooLong (maximum actual : Nat)
  | unclosedPlaceholder
  | unknownPlaceholder (name known : String)
  | lineBreak
deriving DecidableEq

namespace Furniture

def opening : List Char := ['{', '{']

def closing : List Char := ['}', '}']

theorem opening_ne_nil : opening ≠ [] := nofun

theorem closing_ne_nil : closing ≠ [] := nofun

/-- `literal`, pushed where it is not empty. -/
def pushed (literal : List Char) : List FurnitureSegment :=
  if literal = [] then [] else [.literal (String.ofList literal)]

def nameOf (inner : List Char) : String := Text.trim (String.ofList inner)

/-- The loop of `parse_furniture_template`. -/
def scan (segments : List FurnitureSegment) (literal rest : List Char) :
    Except FurnitureTemplateError (List FurnitureSegment) :=
  match _located : Pattern.position opening rest with
  | none => .ok (segments ++ pushed (literal ++ rest))
  | some start =>
      let literal := literal ++ rest.take start
      let after := rest.drop (start + 2)
      match Pattern.position closing after with
      | none => .error .unclosedPlaceholder
      | some close =>
          let name := nameOf (after.take close)
          match FurniturePlaceholder.parse name with
          | none => .error (.unknownPlaceholder name FurniturePlaceholder.knownTokens)
          | some fact =>
              scan (segments ++ pushed literal ++ [.placeholder fact]) []
                (after.drop (close + 2))
termination_by rest.length
decreasing_by
  obtain ⟨front, back, rfl, -, -⟩ := Pattern.exists_eq_append_of_position opening_ne_nil _located
  simp only [List.length_drop, List.length_append, opening, List.length_cons, List.length_nil]
  omega

end Furniture

def parseFurnitureTemplate (source : String) :
    Except FurnitureTemplateError (List FurnitureSegment) :=
  let actual := source.toList.length
  if maxFurnitureTextChars < actual then .error (.tooLong maxFurnitureTextChars actual)
  else if source.toList.any fun c => c = '\n' || c = '\r' then .error .lineBreak
  else Furniture.scan [] [] source.toList

structure FurnitureFacts where
  page : Option UInt32
  pageCount : Option UInt32
  pageCapacity : Option UInt32
  entityName : Option String
  entityNipc : Option String
  title : Option String
  subject : Option String
  date : Option String
deriving DecidableEq

def FurnitureFacts.value (facts : FurnitureFacts) : FurniturePlaceholder → Option String
  | .page => facts.page.map fun value => toString value.toNat
  | .pageCount => facts.pageCount.map fun value => toString value.toNat
  | .pageCapacity => facts.pageCapacity.map fun value => toString value.toNat
  | .entityName => facts.entityName
  | .entityNipc => facts.entityNipc
  | .title => facts.title
  | .subject => facts.subject
  | .date => facts.date

def FurnitureSegment.resolve (facts : FurnitureFacts) : FurnitureSegment → Option String
  | .literal text => some text
  | .placeholder fact => facts.value fact

def resolveFurnitureSegments (segments : List FurnitureSegment) (facts : FurnitureFacts) :
    Option String :=
  segments.foldlM (fun out segment => (segment.resolve facts).map (out ++ ·)) ""

/-! ### Templates read from left to right -/

namespace Furniture

/-- A stretch of a template: plain text, or a placeholder as it was written. -/
inductive Piece where
  | plain (text : List Char)
  | hole (inner : List Char)
deriving DecidableEq

namespace Piece

def source : Piece → List Char
  | plain text => text
  | hole inner => opening ++ inner ++ closing

/-- The segment of a stretch, for a placeholder of the vocabulary. -/
def segment : Piece → Option FurnitureSegment
  | plain text => some (.literal (String.ofList text))
  | hole inner => (FurniturePlaceholder.parse (nameOf inner)).map .placeholder

end Piece

/-- The stretch of plain text ahead of a placeholder or at the end. -/
def plainPiece (text : List Char) : List Piece := if text = [] then [] else [.plain text]

/-- How a template reads from left to right: plain text up to the first opening, the placeholder
up to the first closing behind it, and what is left. -/
inductive Reading : List Char → List Piece → Prop
  | plain (text : List Char) (unopened : ¬opening <:+: text) : Reading text (plainPiece text)
  | hole (ahead inner rest : List Char) {pieces : List Piece}
      (first : ¬opening <:+: ahead ++ opening.dropLast)
      (closed : ¬closing <:+: inner ++ closing.dropLast) (later : Reading rest pieces) :
      Reading (ahead ++ opening ++ (inner ++ closing ++ rest))
        (plainPiece ahead ++ .hole inner :: pieces)

variable {source text : List Char} {pieces : List Piece} {segments : List FurnitureSegment}

theorem source_plainPiece (text : List Char) : (plainPiece text).flatMap Piece.source = text := by
  unfold plainPiece
  split
  · next empty => exact empty.symm
  · exact List.append_nil text

/-- **The pieces of a template put together again are the template.** -/
theorem Reading.join (reading : Reading source pieces) : pieces.flatMap Piece.source = source := by
  induction reading with
  | plain text unopened => exact source_plainPiece text
  | hole ahead inner rest first closed later ih =>
      rw [List.flatMap_append, source_plainPiece, List.flatMap_cons, ih]
      simp only [Piece.source, List.append_assoc]

/-! ### The scan reads from left to right -/

theorem scan_plain {literal rest : List Char} (unopened : ¬opening <:+: rest) :
    scan segments literal rest = .ok (segments ++ pushed (literal ++ rest)) := by
  have absent := (Pattern.position_eq_none_iff opening_ne_nil).mpr unopened
  rw [scan]
  split
  · rfl
  · next start located =>
      rw [absent] at located
      cases located

variable {literal ahead inner after rest : List Char}

theorem scan_opened (first : ¬opening <:+: ahead ++ opening.dropLast) :
    scan segments literal (ahead ++ opening ++ after) =
      match Pattern.position closing after with
      | none => .error .unclosedPlaceholder
      | some close =>
          match FurniturePlaceholder.parse (nameOf (after.take close)) with
          | none => .error (.unknownPlaceholder (nameOf (after.take close))
              FurniturePlaceholder.knownTokens)
          | some fact => scan (segments ++ pushed (literal ++ ahead) ++ [.placeholder fact]) []
              (after.drop (close + 2)) := by
  have found : Pattern.position opening (ahead ++ opening ++ after) = some ahead.length :=
    Pattern.position_append opening_ne_nil first
  rw [scan]
  split
  · next located =>
      rw [found] at located
      cases located
  · next start located =>
      obtain rfl := Option.some.inj (found.symm.trans located)
      have width : (ahead ++ opening).length = ahead.length + 2 := List.length_append
      dsimp only
      rw [← width, List.drop_left, List.append_assoc ahead, List.take_left]

theorem scan_unclosed (first : ¬opening <:+: ahead ++ opening.dropLast)
    (unclosed : ¬closing <:+: after) :
    scan segments literal (ahead ++ opening ++ after) = .error .unclosedPlaceholder := by
  rw [scan_opened first, (Pattern.position_eq_none_iff closing_ne_nil).mpr unclosed]

theorem scan_closed (first : ¬opening <:+: ahead ++ opening.dropLast)
    (closed : ¬closing <:+: inner ++ closing.dropLast) :
    scan segments literal (ahead ++ opening ++ (inner ++ closing ++ rest)) =
      match FurniturePlaceholder.parse (nameOf inner) with
      | none => .error (.unknownPlaceholder (nameOf inner) FurniturePlaceholder.knownTokens)
      | some fact =>
          scan (segments ++ pushed (literal ++ ahead) ++ [.placeholder fact]) [] rest := by
  have width : (inner ++ closing).length = inner.length + 2 := List.length_append
  rw [scan_opened first, Pattern.position_append closing_ne_nil closed]
  dsimp only
  rw [← width, List.drop_left, List.append_assoc inner, List.take_left]

theorem mapM_plainPiece (text : List Char) :
    (plainPiece text).mapM Piece.segment = some (pushed text) := by
  unfold plainPiece pushed
  split <;> rfl

theorem segments_hole : (plainPiece ahead ++ .hole inner :: pieces).mapM Piece.segment =
    (FurniturePlaceholder.parse (nameOf inner)).bind fun fact =>
      (pieces.mapM Piece.segment).map (pushed ahead ++ .placeholder fact :: ·) := by
  rw [List.mapM_append, mapM_plainPiece, List.mapM_cons]
  cases named : FurniturePlaceholder.parse (nameOf inner) with
  | none => simp only [Piece.segment, named]; rfl
  | some fact =>
      simp only [Piece.segment, named]
      cases pieces.mapM Piece.segment <;> rfl

/-- **The scan accepts just the templates that read from left to right** with placeholders of the
vocabulary, and gives their segments. -/
theorem scan_eq_ok_iff {found : List FurnitureSegment} :
    scan segments [] source = .ok found ↔
      ∃ pieces read, Reading source pieces ∧ pieces.mapM Piece.segment = some read ∧
        found = segments ++ read := by
  constructor
  · intro done
    induction width : source.length using Nat.strong_induction_on generalizing source segments with
    | _ size ih =>
        by_cases opened : opening <:+: source
        · obtain ⟨start, located⟩ := Option.ne_none_iff_exists'.mp
            (mt (Pattern.position_eq_none_iff opening_ne_nil).mp (not_not.mpr opened))
          obtain ⟨ahead, after, rfl, -, first⟩ :=
            Pattern.exists_eq_append_of_position opening_ne_nil located
          by_cases closes : closing <:+: after
          · obtain ⟨close, located⟩ := Option.ne_none_iff_exists'.mp
              (mt (Pattern.position_eq_none_iff closing_ne_nil).mp (not_not.mpr closes))
            obtain ⟨inner, rest, rfl, -, closed⟩ :=
              Pattern.exists_eq_append_of_position closing_ne_nil located
            rw [scan_closed first closed] at done
            cases named : FurniturePlaceholder.parse (nameOf inner) with
            | none =>
                rw [named] at done
                cases done
            | some fact =>
                rw [named] at done
                have shorter : rest.length < size := by
                  rw [← width]
                  simp only [List.length_append, opening, List.length_cons]
                  omega
                obtain ⟨pieces, read, reading, segmented, rfl⟩ := ih _ shorter done rfl
                refine ⟨_, pushed ahead ++ .placeholder fact :: read,
                  .hole ahead inner rest first closed reading, ?_, ?_⟩
                · rw [segments_hole, named, Option.bind_some, segmented, Option.map_some]
                · rw [List.nil_append, List.append_assoc, List.append_assoc]
                  rfl
          · rw [scan_unclosed first closes] at done
            cases done
        · rw [scan_plain opened] at done
          cases done
          exact ⟨plainPiece source, pushed source, .plain source opened, mapM_plainPiece source,
            rfl⟩
  · rintro ⟨pieces, read, reading, segmented, rfl⟩
    induction reading generalizing segments read with
    | plain text unopened =>
        rw [mapM_plainPiece] at segmented
        rw [scan_plain unopened, ← Option.some.inj segmented, List.nil_append]
    | hole ahead inner rest first closed later ih =>
        rw [segments_hole] at segmented
        obtain ⟨fact, named, segmented⟩ := Option.bind_eq_some_iff.mp segmented
        obtain ⟨behind, kept, rfl⟩ := Option.map_eq_some_iff.mp segmented
        rw [scan_closed first closed, named]
        dsimp only
        rw [ih behind kept, List.nil_append, List.append_assoc, List.append_assoc]
        rfl

/-! ### What a template is accepted for -/

/-- A template that may be authored: short, on one line, and read from left to right as plain text
and placeholders of the vocabulary. -/
structure Authorable (source : String) (pieces : List Piece) : Prop where
  short : source.toList.length ≤ maxFurnitureTextChars
  oneLine : '\n' ∉ source.toList ∧ '\r' ∉ source.toList
  reading : Reading source.toList pieces
  known : ∀ inner, .hole inner ∈ pieces → ∃ fact : FurniturePlaceholder, fact.token = nameOf inner

theorem mem_all (fact : FurniturePlaceholder) : fact ∈ FurniturePlaceholder.all := by
  cases fact <;> decide

theorem parse_isSome_iff {name : String} : (FurniturePlaceholder.parse name).isSome ↔
    ∃ fact : FurniturePlaceholder, fact.token = name := by
  rw [FurniturePlaceholder.parse, List.find?_isSome]
  constructor
  · rintro ⟨fact, -, same⟩
    exact ⟨fact, of_decide_eq_true same⟩
  · rintro ⟨fact, same⟩
    exact ⟨fact, mem_all fact, decide_eq_true same⟩

theorem exists_segments_iff : (∃ read, pieces.mapM Piece.segment = some read) ↔
    ∀ inner, .hole inner ∈ pieces → ∃ fact : FurniturePlaceholder, fact.token = nameOf inner := by
  induction pieces with
  | nil => exact iff_of_true ⟨[], rfl⟩ fun _ => nofun
  | cons piece pieces ih =>
      have split : (∃ read, (piece :: pieces).mapM Piece.segment = some read) ↔
          (∃ segment, piece.segment = some segment) ∧
            ∃ read, pieces.mapM Piece.segment = some read := by
        rw [List.mapM_cons]
        cases piece.segment with
        | none => exact iff_of_false nofun fun both => nomatch both.1
        | some segment =>
            cases pieces.mapM Piece.segment with
            | none => exact iff_of_false nofun fun both => nomatch both.2
            | some read => exact iff_of_true ⟨_, rfl⟩ ⟨⟨_, rfl⟩, _, rfl⟩
      rw [split, ih]
      cases piece with
      | plain text =>
          constructor
          · rintro ⟨-, known⟩ inner member
            obtain same | member := List.mem_cons.mp member
            · cases same
            · exact known inner member
          · exact fun known => ⟨⟨_, rfl⟩, fun inner member => known inner (.tail _ member)⟩
      | hole inner =>
          have own : (∃ segment, (Piece.hole inner).segment = some segment) ↔
              ∃ fact : FurniturePlaceholder, fact.token = nameOf inner := by
            rw [← parse_isSome_iff, Piece.segment, ← Option.isSome_iff_exists, Option.isSome_map]
          rw [own]
          constructor
          · rintro ⟨named, known⟩ other member
            obtain same | member := List.mem_cons.mp member
            · cases same
              exact named
            · exact known other member
          · exact fun known =>
              ⟨known inner (.head _), fun other member => known other (.tail _ member)⟩

theorem parseFurnitureTemplate_eq_ok_iff {source : String} {found : List FurnitureSegment} :
    parseFurnitureTemplate source = .ok found ↔
      ∃ pieces, Authorable source pieces ∧ pieces.mapM Piece.segment = some found := by
  unfold parseFurnitureTemplate
  dsimp only
  by_cases long : maxFurnitureTextChars < source.toList.length
  · rw [if_pos long]
    refine iff_of_false nofun ?_
    rintro ⟨pieces, authorable, -⟩
    exact absurd long (Nat.not_lt.mpr authorable.short)
  · rw [if_neg long]
    by_cases broken : (source.toList.any fun c => c = '\n' || c = '\r') = true
    · rw [if_pos broken]
      refine iff_of_false nofun ?_
      rintro ⟨pieces, authorable, -⟩
      obtain ⟨c, member, stops⟩ := List.any_eq_true.mp broken
      rw [Bool.or_eq_true, decide_eq_true_eq, decide_eq_true_eq] at stops
      obtain rfl | rfl := stops
      · exact authorable.oneLine.1 member
      · exact authorable.oneLine.2 member
    · rw [if_neg broken, scan_eq_ok_iff]
      have oneLine : '\n' ∉ source.toList ∧ '\r' ∉ source.toList :=
        ⟨fun member => broken (List.any_eq_true.mpr ⟨_, member, rfl⟩),
          fun member => broken (List.any_eq_true.mpr ⟨_, member, rfl⟩)⟩
      constructor
      · rintro ⟨pieces, read, reading, segmented, rfl⟩
        exact ⟨pieces, ⟨Nat.not_lt.mp long, oneLine, reading,
          exists_segments_iff.mp ⟨_, segmented⟩⟩, segmented⟩
      · rintro ⟨pieces, authorable, segmented⟩
        exact ⟨pieces, found, authorable.reading, segmented, rfl⟩

/-! ### The segments of a template -/

/-- Segments with no empty text, no opening in a text and no two texts in a row. -/
structure WellFormed (segments : List FurnitureSegment) : Prop where
  literal : ∀ text, .literal text ∈ segments → text ≠ "" ∧ ¬opening <:+: text.toList
  apart : segments.IsChain fun first second =>
    (∃ fact, first = .placeholder fact) ∨ ∃ fact, second = .placeholder fact

theorem mem_pushed {text : String} {literal : List Char}
    (member : .literal text ∈ pushed literal) : literal ≠ [] ∧ text = String.ofList literal := by
  unfold pushed at member
  split at member
  · cases member
  · next filled => exact ⟨filled, FurnitureSegment.literal.inj (List.mem_singleton.mp member)⟩

theorem wellFormed_pushed {text : List Char} (unopened : ¬opening <:+: text) :
    WellFormed (pushed text) where
  literal := by
    intro literal member
    obtain ⟨filled, rfl⟩ := mem_pushed member
    rw [String.toList_ofList]
    exact ⟨fun empty => filled (by simpa using congrArg String.toList empty), unopened⟩
  apart := by
    unfold pushed
    split
    · exact .nil
    · exact .singleton _

theorem WellFormed.hole {fact : FurniturePlaceholder} (ahead : List Char)
    (unopened : ¬opening <:+: ahead) (formed : WellFormed segments) :
    WellFormed (pushed ahead ++ .placeholder fact :: segments) where
  literal := by
    intro text member
    obtain member | member := List.mem_append.mp member
    · exact (wellFormed_pushed unopened).literal text member
    · obtain same | member := List.mem_cons.mp member
      · cases same
      · exact formed.literal text member
  apart := by
    have placed : (FurnitureSegment.placeholder fact :: segments).IsChain fun first second =>
        (∃ fact, first = .placeholder fact) ∨ ∃ fact, second = .placeholder fact := by
      cases segments with
      | nil => exact .singleton _
      | cons next rest => exact .cons_cons (.inl ⟨fact, rfl⟩) formed.apart
    unfold pushed
    split
    · exact placed
    · exact .cons_cons (.inr ⟨fact, rfl⟩) placed

theorem Reading.wellFormed (reading : Reading source pieces)
    (segmented : pieces.mapM Piece.segment = some segments) : WellFormed segments := by
  induction reading generalizing segments with
  | plain text unopened =>
      rw [mapM_plainPiece] at segmented
      cases segmented
      exact wellFormed_pushed unopened
  | hole ahead inner rest first closed later ih =>
      rw [segments_hole] at segmented
      obtain ⟨fact, -, segmented⟩ := Option.bind_eq_some_iff.mp segmented
      obtain ⟨behind, kept, rfl⟩ := Option.map_eq_some_iff.mp segmented
      exact (ih kept).hole ahead fun inside => first (inside.trans (List.prefix_append _ _).isInfix)

/-! ### What the segments come to -/

variable {facts : FurnitureFacts}

/-- The text a segment comes to, where its fact is there. -/
def substituted (facts : FurnitureFacts) (segment : FurnitureSegment) : String :=
  (segment.resolve facts).getD ""

def Carried (facts : FurnitureFacts) (segments : List FurnitureSegment) : Prop :=
  ∀ fact, .placeholder fact ∈ segments → (facts.value fact).isSome

theorem carried_cons_iff {segment : FurnitureSegment} :
    Carried facts (segment :: segments) ↔
      (segment.resolve facts).isSome ∧ Carried facts segments := by
  unfold Carried
  cases segment with
  | literal text =>
      constructor
      · exact fun carried => ⟨rfl, fun fact member => carried fact (.tail _ member)⟩
      · rintro ⟨-, carried⟩ fact member
        obtain same | member := List.mem_cons.mp member
        · cases same
        · exact carried fact member
  | placeholder fact =>
      constructor
      · exact fun carried =>
          ⟨carried fact (.head _), fun other member => carried other (.tail _ member)⟩
      · rintro ⟨own, carried⟩ other member
        obtain same | member := List.mem_cons.mp member
        · cases same
          exact own
        · exact carried other member

/-- **Each fact is put in its place once**: what stands in a value is not read again. -/
theorem resolve_of_carried (carried : Carried facts segments) :
    resolveFurnitureSegments segments facts =
      some (String.join (segments.map (substituted facts))) := by
  have onward (out : String) : segments.foldlM
      (fun out segment => (segment.resolve facts).map (out ++ ·)) out =
        some (out ++ String.join (segments.map (substituted facts))) := by
    induction segments generalizing out with
    | nil => rw [List.map_nil, String.join_nil, String.append_empty]; rfl
    | cons segment rest ih =>
        obtain ⟨own, others⟩ := carried_cons_iff.mp carried
        obtain ⟨text, resolved⟩ := Option.isSome_iff_exists.mp own
        rw [List.foldlM_cons, resolved, List.map_cons, String.join_cons, substituted, resolved]
        exact (ih others (out ++ text)).trans (by rw [String.append_assoc]; rfl)
  have whole := onward ""
  rw [String.empty_append] at whole
  exact whole

theorem resolve_eq_none_iff : resolveFurnitureSegments segments facts = none ↔
    ∃ fact, .placeholder fact ∈ segments ∧ facts.value fact = none := by
  constructor
  · intro absent
    by_contra present
    push Not at present
    have carried : Carried facts segments := fun fact member =>
      Option.isSome_iff_ne_none.mpr (present fact member)
    rw [resolve_of_carried carried] at absent
    cases absent
  · rintro ⟨fact, member, absent⟩
    unfold resolveFurnitureSegments
    generalize ("" : String) = out
    induction segments generalizing out with
    | nil => cases member
    | cons segment rest ih =>
        rw [List.foldlM_cons]
        obtain rfl | member := List.mem_cons.mp member
        · rw [FurnitureSegment.resolve, absent]
          rfl
        · cases resolved : segment.resolve facts with
          | none => rfl
          | some text => exact ih member (out ++ text)

end Furniture

end Chancela
