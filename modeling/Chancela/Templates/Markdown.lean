import Chancela.Foundation.Outcome
import Chancela.Foundation.Text
import Mathlib.Algebra.GroupWithZero.Nat
import Mathlib.Data.List.Chain

/-! # Markdown bodies

The compiler of a body folds the events of a CommonMark parser into blocks, and refuses
every construct that has none. What it keeps is compared with the tree behind the events:
no text is lost or restyled, the runs of a paragraph are canonical, and how the parser
splits a text does not matter (`Chancela.Markdown.compile_spec`).
-/

namespace Chancela.Markdown

def maxBodyBytes : Nat := 64 * 1024

def maxBlockTextBytes : Nat := 8 * 1024

inductive MarkdownError where
  | tooLarge (limit actual : Nat)
  | blockTooLarge (limit actual offset : Nat)
  | unsupported (construct : String) (offset : Nat)
deriving DecidableEq

structure Run where
  text : String
  bold : Bool
  italic : Bool
deriving DecidableEq

/-- The blocks of `Block` that a body compiles to. -/
inductive Block where
  | heading (level : Nat) (text : String)
  | paragraph (runs : List Run)
  | rule
deriving DecidableEq

inductive HeadingLevel where
  | h1 | h2 | h3 | h4 | h5 | h6
deriving DecidableEq

/-- `level as u8`. -/
def HeadingLevel.toU8 : HeadingLevel → Nat
  | .h1 => 1
  | .h2 => 2
  | .h3 => 3
  | .h4 => 4
  | .h5 => 5
  | .h6 => 6

/-- The tags that have no block. -/
inductive OtherTag where
  | blockQuote | codeBlock | htmlBlock | list | item | footnoteDefinition
  | definitionList | definitionListTitle | definitionListDefinition
  | table | tableHead | tableRow | tableCell
  | strikethrough | superscript | subscript | link | image | metadataBlock
deriving DecidableEq

inductive Tag where
  | paragraph
  | heading (level : HeadingLevel) (id : Option String) (classes : List String)
      (attrs : List (String × Option String))
  | strong
  | emphasis
  | other (tag : OtherTag)

inductive TagEnd where
  | paragraph
  | heading (level : HeadingLevel)
  | strong
  | emphasis
  | other (tag : OtherTag)

/-- The events that stand alone and have no block. -/
inductive Leaf where
  | code | html | inlineHtml | inlineMath | displayMath | footnoteReference | taskListMarker
  | hardBreak
deriving DecidableEq

inductive Event where
  | start (tag : Tag)
  | close (tag : TagEnd)
  | text (content : String)
  | softBreak
  | rule
  | leaf (leaf : Leaf)

/-- `Sink`: where text lands. -/
inductive Sink where
  | none
  | paragraph
  | heading (level : Nat)
deriving DecidableEq

/-- `Compiler`. A body of at most 64 KiB does not nest as deeply as a `u32` counts. -/
structure Compiler where
  out : List Block
  sink : Sink
  runs : List Run
  text : String
  start : Nat
  bold : Nat
  italic : Nat

def Compiler.default : Compiler := ⟨[], .none, [], "", 0, 0, 0⟩

def tagName : OtherTag → String
  | .blockQuote => "block_quote"
  | .codeBlock => "code_block"
  | .htmlBlock => "html_block"
  | .list => "list"
  | .item => "list_item"
  | .footnoteDefinition => "footnote_definition"
  | .definitionList | .definitionListTitle | .definitionListDefinition => "definition_list"
  | .table | .tableHead | .tableRow | .tableCell => "table"
  | .strikethrough => "strikethrough"
  | .superscript => "superscript"
  | .subscript => "subscript"
  | .link => "link"
  | .image => "image"
  | .metadataBlock => "metadata_block"

def leafName : Leaf → String
  | .code => "inline_code"
  | .html => "html_block"
  | .inlineHtml => "inline_html"
  | .inlineMath | .displayMath => "math"
  | .footnoteReference => "footnote"
  | .taskListMarker => "task_list"
  | .hardBreak => "hard_line_break"

/-- The runs with a text behind them: a run of the same style is continued. -/
def pushRun (runs : List Run) (text : String) (bold italic : Bool) : List Run :=
  match runs.getLast? with
  | some last =>
      if last.bold = bold ∧ last.italic = italic then
        runs.dropLast ++ [{ last with text := last.text ++ text }]
      else runs ++ [⟨text, bold, italic⟩]
  | none => runs ++ [⟨text, bold, italic⟩]

namespace Compiler

def pushText (c : Compiler) (t : String) (at_ : Nat) : Except MarkdownError Compiler :=
  match c.sink with
  | .heading _ =>
      if c.bold > 0 ∨ c.italic > 0 then .error (.unsupported "emphasis_in_heading" at_)
      else .ok { c with text := c.text ++ t }
  | .paragraph =>
      if t = "" then .ok c
      else .ok { c with runs := pushRun c.runs t (c.bold > 0) (c.italic > 0) }
  | .none => .error (.unsupported "text_outside_block" at_)

def flushParagraph (c : Compiler) : Except MarkdownError Compiler :=
  let runs := c.runs
  let c := { c with runs := [], sink := .none }
  let len := (runs.map fun run => Text.byteLen run.text).sum
  if len > maxBlockTextBytes then .error (.blockTooLarge maxBlockTextBytes len c.start)
  else if runs.all fun run => Text.isBlank run.text then .ok c
  else .ok { c with out := c.out ++ [.paragraph runs] }

def flushHeading (c : Compiler) : Except MarkdownError Compiler :=
  let text := c.text
  let level := match c.sink with
    | .heading level => level
    | _ => 1
  let c := { c with text := "", sink := .none }
  if Text.byteLen text > maxBlockTextBytes then
    .error (.blockTooLarge maxBlockTextBytes (Text.byteLen text) c.start)
  else if Text.isBlank text then .ok c
  else .ok { c with out := c.out ++ [.heading level text] }

/-- `event`, with the offset where its range starts. -/
def event (c : Compiler) : Event × Nat → Except MarkdownError Compiler
  | (.start .paragraph, at_) => .ok { c with sink := .paragraph, start := at_ }
  | (.close .paragraph, _) => c.flushParagraph
  | (.start (.heading level id classes attrs), at_) =>
      if id.isSome ∨ classes ≠ [] ∨ attrs ≠ [] then
        .error (.unsupported "heading_attributes" at_)
      else .ok { c with sink := .heading level.toU8, start := at_ }
  | (.close (.heading _), _) => c.flushHeading
  | (.start .strong, _) => .ok { c with bold := c.bold + 1 }
  | (.close .strong, _) => .ok { c with bold := c.bold - 1 }
  | (.start .emphasis, _) => .ok { c with italic := c.italic + 1 }
  | (.close .emphasis, _) => .ok { c with italic := c.italic - 1 }
  | (.text t, at_) => c.pushText t at_
  | (.softBreak, at_) => c.pushText " " at_
  | (.rule, _) => .ok { c with out := c.out ++ [.rule] }
  | (.start (.other tag), at_) => .error (.unsupported (tagName tag) at_)
  | (.close (.other _), at_) => .error (.unsupported "unsupported_block" at_)
  | (.leaf leaf, at_) => .error (.unsupported (leafName leaf) at_)

end Compiler

def compileEvents (events : List (Event × Nat)) : Except MarkdownError (List Block) := do
  let c ← events.foldlM Compiler.event .default
  return c.out

/-- `compile_markdown`, with the events that the parser gives for a body. -/
def compileMarkdown (parse : String → List (Event × Nat)) (src : String) :
    Except MarkdownError (List Block) :=
  if Text.byteLen src > maxBodyBytes then .error (.tooLarge maxBodyBytes (Text.byteLen src))
  else compileEvents (parse src)

abbrev Styled := Char × Bool × Bool

def style (text : String) (bold italic : Bool) : List Styled :=
  text.toList.map fun c => (c, bold, italic)

def styledRuns (runs : List Run) : List Styled :=
  runs.flatMap fun run => style run.text run.bold run.italic

def Canonical (runs : List Run) : Prop :=
  (∀ run ∈ runs, run.text ≠ "") ∧
    runs.IsChain fun first second => (first.bold, first.italic) ≠ (second.bold, second.italic)

theorem style_append (first second : String) (bold italic : Bool) :
    style (first ++ second) bold italic = style first bold italic ++ style second bold italic := by
  rw [style, String.toList_append, List.map_append]
  rfl

/-- **What a pushed text does**: it continues the last run where that has its style, and
is a run of its own otherwise. -/
theorem pushRun_cases (runs : List Run) (text : String) (bold italic : Bool) :
    (∃ before last, runs = before ++ [⟨last, bold, italic⟩] ∧
        pushRun runs text bold italic = before ++ [⟨last ++ text, bold, italic⟩]) ∨
      (∀ last ∈ runs.getLast?, (last.bold, last.italic) ≠ (bold, italic)) ∧
        pushRun runs text bold italic = runs ++ [⟨text, bold, italic⟩] := by
  cases runs using List.reverseRecOn with
  | nil => exact .inr ⟨fun _ absent => (Option.not_mem_none _ absent).elim, rfl⟩
  | append_singleton before last =>
      rw [pushRun, List.getLast?_concat]
      dsimp only
      split
      · next same =>
          obtain ⟨rfl, rfl⟩ := same
          exact .inl ⟨before, last.text, rfl, by rw [List.dropLast_concat]⟩
      · next other =>
          refine .inr ⟨fun found member => ?_, rfl⟩
          obtain rfl := Option.mem_some_iff.mp member
          exact fun same => other ⟨(Prod.mk.inj same).1, (Prod.mk.inj same).2⟩

theorem styledRuns_concat (runs : List Run) (text : String) (bold italic : Bool) :
    styledRuns (runs ++ [⟨text, bold, italic⟩]) = styledRuns runs ++ style text bold italic := by
  rw [styledRuns, List.flatMap_append, List.flatMap_singleton]
  rfl

theorem styledRuns_pushRun (runs : List Run) (text : String) (bold italic : Bool) :
    styledRuns (pushRun runs text bold italic) = styledRuns runs ++ style text bold italic := by
  rcases pushRun_cases runs text bold italic with ⟨before, last, rfl, pushed⟩ | ⟨-, pushed⟩
  · rw [pushed, styledRuns_concat, styledRuns_concat, style_append, List.append_assoc]
  · rw [pushed, styledRuns_concat]

theorem Canonical.pushRun {runs : List Run} (canonical : Canonical runs) {text : String}
    (some_ : text ≠ "") (bold italic : Bool) :
    Canonical (Markdown.pushRun runs text bold italic) := by
  obtain ⟨full, apart⟩ := canonical
  rcases pushRun_cases runs text bold italic with ⟨before, last, rfl, pushed⟩ | ⟨other, pushed⟩
  · rw [pushed]
    rw [List.isChain_append] at apart
    rw [List.forall_mem_append] at full
    refine ⟨List.forall_mem_append.mpr ⟨full.1, List.forall_mem_singleton.mpr ?_⟩,
      List.isChain_append.mpr ⟨apart.1, List.isChain_singleton _, ?_⟩⟩
    · exact fun none => some_ (String.append_eq_empty_iff.mp none).2
    · intro one lastOne next nextOne
      rw [List.head?_cons, Option.mem_some_iff] at nextOne
      subst nextOne
      exact apart.2.2 one lastOne ⟨last, bold, italic⟩ rfl
  · rw [pushed]
    refine ⟨List.forall_mem_append.mpr ⟨full, List.forall_mem_singleton.mpr some_⟩,
      List.isChain_append.mpr ⟨apart, List.isChain_singleton _, ?_⟩⟩
    intro one lastOne next nextOne
    rw [List.head?_cons, Option.mem_some_iff] at nextOne
    subst nextOne
    exact other one lastOne

theorem pushRun_pushRun (runs : List Run) (first second : String) (bold italic : Bool) :
    pushRun (pushRun runs first bold italic) second bold italic =
      pushRun runs (first ++ second) bold italic := by
  have behind : ∀ (before : List Run) (text : String),
      pushRun (before ++ [⟨text, bold, italic⟩]) second bold italic =
        before ++ [⟨text ++ second, bold, italic⟩] := by
    intro before text
    rw [pushRun, List.getLast?_concat]
    dsimp only
    rw [if_pos ⟨rfl, rfl⟩, List.dropLast_concat]
  rcases pushRun_cases runs first bold italic with ⟨before, last, rfl, pushed⟩ | ⟨other, pushed⟩
  · rw [pushed, behind, pushRun, List.getLast?_concat]
    dsimp only
    rw [if_pos ⟨rfl, rfl⟩, List.dropLast_concat, String.append_assoc]
  · rw [pushed, behind]
    rcases pushRun_cases runs (first ++ second) bold italic with
      ⟨before, last, rfl, -⟩ | ⟨-, both⟩
    · exact (other ⟨last, bold, italic⟩ (by rw [List.getLast?_concat]; rfl) rfl).elim
    · exact both.symm

theorem Compiler.pushText_append (c : Compiler) (first second : String) (at_ later : Nat) :
    c.pushText (first ++ second) at_ =
      (c.pushText first at_).bind fun c => c.pushText second later := by
  cases sink : c.sink with
  | none => simp only [pushText, sink, Except.bind]
  | heading level =>
      simp only [pushText, sink]
      split
      · rfl
      · next plain => simp only [Except.bind, plain, if_false, String.append_assoc]
  | paragraph =>
      by_cases none : first = ""
      · subst none
        simp only [pushText, sink, String.empty_append, if_true, Except.bind]
      · by_cases nothing : second = ""
        · subst nothing
          simp only [pushText, sink, String.append_empty, none, if_false, if_true, Except.bind]
        · have some_ : first ++ second ≠ "" := fun empty =>
            none (String.append_eq_empty_iff.mp empty).1
          simp only [pushText, sink, none, nothing, some_, if_false, Except.bind,
            pushRun_pushRun]

theorem Compiler.foldlM_pieces (c : Compiler) (first : String) (at_ : Nat)
    (pieces : List (String × Nat)) :
    (((first, at_) :: pieces).map fun piece => (Event.text piece.1, piece.2)).foldlM event c =
      c.pushText (first ++ String.join (pieces.map Prod.fst)) at_ := by
  induction pieces generalizing c first at_ with
  | nil =>
      rw [List.map_nil, String.join_nil, String.append_empty]
      exact bind_pure _
  | cons piece rest ih =>
      rw [List.map_cons (f := Prod.fst), String.join_cons, pushText_append c first _ at_ piece.2]
      exact congrArg _ (funext fun c => ih c piece.1 piece.2)

/-- **How a text is split** into events does not matter. -/
theorem compileEvents_split (before after : List (Event × Nat)) (first : String) (at_ : Nat)
    (pieces : List (String × Nat)) :
    compileEvents (before ++
        ((first, at_) :: pieces).map (fun piece => (Event.text piece.1, piece.2)) ++ after) =
      compileEvents (before ++
        [(.text (first ++ String.join (pieces.map Prod.fst)), at_)] ++ after) := by
  simp only [compileEvents, List.foldlM_append, Compiler.foldlM_pieces, List.foldlM_cons,
    List.foldlM_nil, bind_pure]
  rfl

/-- The content of a paragraph or heading, as CommonMark nests it. -/
inductive Inlines where
  | nil
  | text (content : String) (at_ : Nat) (rest : Inlines)
  | softBreak (at_ : Nat) (rest : Inlines)
  | leaf (kind : Leaf) (at_ : Nat) (rest : Inlines)
  | strong (start stop : Nat) (inner rest : Inlines)
  | emphasis (start stop : Nat) (inner rest : Inlines)
  | other (tag : OtherTag) (start stop : Nat) (inner rest : Inlines)

/-- The content of a body or of a container in it, as CommonMark nests it: blocks, and
inline content in between. -/
inductive Flow where
  | nil
  | rule (at_ : Nat) (rest : Flow)
  | leaf (kind : Leaf) (at_ : Nat) (rest : Flow)
  | paragraph (start stop : Nat) (inner : Inlines) (rest : Flow)
  | heading (level : HeadingLevel) (id : Option String) (classes : List String)
      (attrs : List (String × Option String)) (start stop : Nat) (inner : Inlines) (rest : Flow)
  | container (tag : OtherTag) (start stop : Nat) (inner rest : Flow)
  | phrase (inner : Inlines) (rest : Flow)

namespace Inlines

def events : Inlines → List (Event × Nat)
  | nil => []
  | text content at_ rest => (.text content, at_) :: rest.events
  | softBreak at_ rest => (.softBreak, at_) :: rest.events
  | leaf kind at_ rest => (.leaf kind, at_) :: rest.events
  | strong start stop inner rest =>
      (.start .strong, start) :: (inner.events ++ (.close .strong, stop) :: rest.events)
  | emphasis start stop inner rest =>
      (.start .emphasis, start) :: (inner.events ++ (.close .emphasis, stop) :: rest.events)
  | other tag start stop inner rest =>
      (.start (.other tag), start) :: (inner.events ++ (.close (.other tag), stop) :: rest.events)

/-- The characters of the content in the style of the enclosing nesting, a space for
every soft break. -/
def styled (bold italic : Bool) : Inlines → List Styled
  | nil => []
  | text content _ rest => style content bold italic ++ rest.styled bold italic
  | softBreak _ rest => style " " bold italic ++ rest.styled bold italic
  | leaf _ _ rest => rest.styled bold italic
  | strong _ _ inner rest => inner.styled true italic ++ rest.styled bold italic
  | emphasis _ _ inner rest => inner.styled bold true ++ rest.styled bold italic
  | other _ _ _ inner rest => inner.styled bold italic ++ rest.styled bold italic

def plain (inner : Inlines) : List Char := (inner.styled false false).map Prod.fst

def Blank (inner : Inlines) : Prop := ∀ c ∈ inner.plain, Text.isWhitespace c

instance (inner : Inlines) : Decidable inner.Blank := inferInstanceAs (Decidable (∀ _ ∈ _, _))

end Inlines

/-- A block with its styled characters. -/
inductive Content where
  | heading (level : Nat) (text : List Char)
  | paragraph (text : List Styled)
  | rule
deriving DecidableEq

def Block.content : Block → Content
  | .heading level text => .heading level text.toList
  | .paragraph runs => .paragraph (styledRuns runs)
  | .rule => .rule

def Block.chars : Block → List Char
  | .heading _ text => text.toList
  | .paragraph runs => runs.flatMap fun run => run.text.toList
  | .rule => []

def Content.chars : Content → List Char
  | .heading _ text => text
  | .paragraph text => text.map Prod.fst
  | .rule => []

namespace Flow

def events : Flow → List (Event × Nat)
  | nil => []
  | rule at_ rest => (.rule, at_) :: rest.events
  | leaf kind at_ rest => (.leaf kind, at_) :: rest.events
  | paragraph start stop inner rest =>
      (.start .paragraph, start) :: (inner.events ++ (.close .paragraph, stop) :: rest.events)
  | heading level id classes attrs start stop inner rest =>
      (.start (.heading level id classes attrs), start) ::
        (inner.events ++ (.close (.heading level), stop) :: rest.events)
  | container tag start stop inner rest =>
      (.start (.other tag), start) :: (inner.events ++ (.close (.other tag), stop) :: rest.events)
  | phrase inner rest => inner.events ++ rest.events

/-- The headings, paragraphs and rules of a flow, without those that are blank. -/
def contents : Flow → List Content
  | nil => []
  | rule _ rest => .rule :: rest.contents
  | leaf _ _ rest => rest.contents
  | paragraph _ _ inner rest =>
      (if inner.Blank then [] else [.paragraph (inner.styled false false)]) ++ rest.contents
  | heading level _ _ _ _ _ inner rest =>
      (if inner.Blank then [] else [.heading level.toU8 inner.plain]) ++ rest.contents
  | container _ _ _ inner rest => inner.contents ++ rest.contents
  | phrase _ rest => rest.contents

/-- The characters of a flow: all of its texts and a space for every soft break, without
the headings and paragraphs that are blank. -/
def chars : Flow → List Char
  | nil => []
  | rule _ rest => rest.chars
  | leaf _ _ rest => rest.chars
  | paragraph _ _ inner rest => (if inner.Blank then [] else inner.plain) ++ rest.chars
  | heading _ _ _ _ _ _ inner rest => (if inner.Blank then [] else inner.plain) ++ rest.chars
  | container _ _ _ inner rest => inner.chars ++ rest.chars
  | phrase inner rest => inner.plain ++ rest.chars

end Flow

/-- The compiler has taken in these characters where text lands, and changed nothing but
the open block. -/
structure Absorbs (c final : Compiler) (chars : List Styled) : Prop where
  frame : final = { c with runs := final.runs, text := final.text }
  none : c.sink = .none → final.runs = c.runs ∧ final.text = c.text ∧ chars = []
  paragraph : c.sink = .paragraph → final.text = c.text ∧
    (Canonical c.runs → Canonical final.runs) ∧ styledRuns final.runs = styledRuns c.runs ++ chars
  heading : ∀ level, c.sink = .heading level → final.runs = c.runs ∧
    final.text.toList = c.text.toList ++ chars.map Prod.fst

namespace Absorbs

variable {c middle final : Compiler} {chars more : List Styled}

theorem refl (c : Compiler) : Absorbs c c [] where
  frame := rfl
  none _ := ⟨rfl, rfl, rfl⟩
  paragraph _ := ⟨rfl, id, (List.append_nil _).symm⟩
  heading _ _ := ⟨rfl, (List.append_nil _).symm⟩

theorem sink (absorbs : Absorbs c final chars) : final.sink = c.sink := by
  rw [absorbs.frame]

theorem bold (absorbs : Absorbs c final chars) : final.bold = c.bold := by
  rw [absorbs.frame]

theorem italic (absorbs : Absorbs c final chars) : final.italic = c.italic := by
  rw [absorbs.frame]

theorem trans (one : Absorbs c middle chars) (other : Absorbs middle final more) :
    Absorbs c final (chars ++ more) where
  frame := by
    rw [other.frame, one.frame]
  none open_ := by
    obtain ⟨runs, text, rfl⟩ := one.none open_
    obtain ⟨runsLater, textLater, rfl⟩ := other.none (one.sink.trans open_)
    exact ⟨runsLater.trans runs, textLater.trans text, rfl⟩
  paragraph open_ := by
    obtain ⟨text, kept, styled⟩ := one.paragraph open_
    obtain ⟨textLater, keptLater, styledLater⟩ := other.paragraph (one.sink.trans open_)
    exact ⟨textLater.trans text, keptLater ∘ kept, by rw [styledLater, styled, List.append_assoc]⟩
  heading level open_ := by
    obtain ⟨runs, read⟩ := one.heading level open_
    obtain ⟨runsLater, readLater⟩ := other.heading level (one.sink.trans open_)
    exact ⟨runsLater.trans runs, by rw [readLater, read, List.map_append, List.append_assoc]⟩

theorem atDepth {bold italic : Nat}
    (absorbs : Absorbs { c with bold := bold, italic := italic } middle chars) :
    Absorbs c { middle with bold := c.bold, italic := c.italic } chars where
  frame := by rw [absorbs.frame]
  none := absorbs.none
  paragraph := absorbs.paragraph
  heading := absorbs.heading

end Absorbs

theorem absorbs_pushText {c final : Compiler} {t : String} {at_ : Nat}
    (pushed : c.pushText t at_ = .ok final) :
    Absorbs c final (style t (c.bold > 0) (c.italic > 0)) := by
  rw [Compiler.pushText] at pushed
  split at pushed
  · next level open_ =>
      split at pushed
      · cases pushed
      · obtain rfl := Except.ok.inj pushed
        refine ⟨rfl, fun shut => ?_, fun other => ?_, fun _ _ => ⟨rfl, ?_⟩⟩
        · cases shut.symm.trans open_
        · cases other.symm.trans open_
        · rw [String.toList_append, style, List.map_map]
          exact congrArg _ (List.map_id _).symm
  · next open_ =>
      split at pushed
      · next none =>
          obtain rfl := Except.ok.inj pushed
          rw [none]
          exact .refl c
      · next some_ =>
          obtain rfl := Except.ok.inj pushed
          refine ⟨rfl, fun shut => ?_, fun _ => ⟨rfl, ?_, ?_⟩, fun _ other => ?_⟩
          · cases shut.symm.trans open_
          · exact fun canonical => canonical.pushRun some_ _ _
          · exact styledRuns_pushRun _ _ _ _
          · cases other.symm.trans open_
  · cases pushed

/-- **Inline content** is taken in as it is nested. -/
theorem absorbs_inlines {inner : Inlines} {c final : Compiler}
    (compiled : inner.events.foldlM Compiler.event c = .ok final) :
    Absorbs c final (inner.styled (c.bold > 0) (c.italic > 0)) := by
  induction inner generalizing c final with
  | nil =>
      obtain rfl := Except.ok.inj compiled
      exact .refl c
  | text content at_ rest ih =>
      obtain ⟨middle, pushed, later⟩ := Outcome.bind_eq_ok_iff.mp compiled
      have one := absorbs_pushText pushed
      have other := ih later
      rw [one.bold, one.italic] at other
      exact one.trans other
  | softBreak at_ rest ih =>
      obtain ⟨middle, pushed, later⟩ := Outcome.bind_eq_ok_iff.mp compiled
      have one := absorbs_pushText pushed
      have other := ih later
      rw [one.bold, one.italic] at other
      exact one.trans other
  | leaf kind at_ rest => cases compiled
  | strong start stop inner rest ihInner ihRest =>
      change (inner.events ++ (.close .strong, stop) :: rest.events).foldlM Compiler.event
        { c with bold := c.bold + 1 } = .ok final at compiled
      rw [List.foldlM_append] at compiled
      obtain ⟨middle, ran, later⟩ := Outcome.bind_eq_ok_iff.mp compiled
      have nested := ihInner ran
      have closed : ({ middle with bold := middle.bold - 1 } : Compiler) =
          { middle with bold := c.bold, italic := c.italic } := by
        rw [nested.bold, ← nested.italic]
        rfl
      change rest.events.foldlM Compiler.event { middle with bold := middle.bold - 1 } =
        .ok final at later
      rw [closed] at later
      exact nested.atDepth.trans (ihRest later)
  | emphasis start stop inner rest ihInner ihRest =>
      change (inner.events ++ (.close .emphasis, stop) :: rest.events).foldlM Compiler.event
        { c with italic := c.italic + 1 } = .ok final at compiled
      rw [List.foldlM_append] at compiled
      obtain ⟨middle, ran, later⟩ := Outcome.bind_eq_ok_iff.mp compiled
      have nested := ihInner ran
      have closed : ({ middle with italic := middle.italic - 1 } : Compiler) =
          { middle with bold := c.bold, italic := c.italic } := by
        rw [nested.italic, ← nested.bold]
        rfl
      change rest.events.foldlM Compiler.event { middle with italic := middle.italic - 1 } =
        .ok final at later
      rw [closed] at later
      exact nested.atDepth.trans (ihRest later)
  | other tag start stop inner rest => cases compiled

theorem map_fst_style (text : String) (bold italic : Bool) :
    (style text bold italic).map Prod.fst = text.toList := by
  rw [style, List.map_map]
  exact List.map_id _

theorem map_fst_styledRuns (runs : List Run) :
    (styledRuns runs).map Prod.fst = runs.flatMap fun run => run.text.toList := by
  rw [styledRuns, List.map_flatMap]
  simp only [map_fst_style]

theorem Block.chars_content (block : Block) : block.content.chars = block.chars := by
  cases block with
  | heading level text => rfl
  | paragraph runs => exact map_fst_styledRuns runs
  | rule => rfl

theorem Content.flatMap_unless (blank : Prop) [Decidable blank] (content : Content) :
    (if blank then [] else [content]).flatMap Content.chars =
      if blank then [] else content.chars := by
  split
  · rfl
  · rw [List.flatMap_singleton]

theorem all_isBlank_iff {runs : List Run} :
    (runs.all fun run => Text.isBlank run.text) = true ↔
      ∀ c ∈ (styledRuns runs).map Prod.fst, Text.isWhitespace c := by
  rw [map_fst_styledRuns, List.all_eq_true]
  simp only [Text.isBlank, List.all_eq_true, List.mem_flatMap]
  exact ⟨fun blank c ⟨run, member, inside⟩ => blank run member c inside,
    fun blank run member c inside => blank c ⟨run, member, inside⟩⟩

namespace Compiler

variable {c final : Compiler}

theorem flushParagraph_ok (flushed : c.flushParagraph = .ok final) :
    final = { c with
      runs := []
      sink := .none
      out := c.out ++ if (c.runs.all fun run => Text.isBlank run.text) = true then []
        else [.paragraph c.runs] } := by
  rw [flushParagraph] at flushed
  dsimp only at flushed
  split at flushed
  · cases flushed
  · split at flushed
    · next blank =>
        obtain rfl := Except.ok.inj flushed
        rw [if_pos blank, List.append_nil]
    · next full =>
        obtain rfl := Except.ok.inj flushed
        rw [if_neg full]

theorem flushHeading_ok {level : Nat} (open_ : c.sink = .heading level)
    (flushed : c.flushHeading = .ok final) :
    final = { c with
      text := ""
      sink := .none
      out := c.out ++ if Text.isBlank c.text = true then [] else [.heading level c.text] } := by
  rw [flushHeading, open_] at flushed
  dsimp only at flushed
  split at flushed
  · cases flushed
  · split at flushed
    · next blank =>
        obtain rfl := Except.ok.inj flushed
        rw [if_pos blank, List.append_nil]
    · next full =>
        obtain rfl := Except.ok.inj flushed
        rw [if_neg full]

/-- Between two blocks. -/
structure AtRest (c : Compiler) : Prop where
  sink : c.sink = .none
  runs : c.runs = []
  text : c.text = ""
  bold : c.bold = 0
  italic : c.italic = 0

end Compiler

/-- What a flow adds to the blocks. -/
structure Adds (c final : Compiler) (contents : List Content) : Prop where
  rest : final.AtRest
  blocks : ∃ blocks, final.out = c.out ++ blocks ∧ blocks.map Block.content = contents ∧
    ∀ runs, Block.paragraph runs ∈ blocks → Canonical runs

theorem Adds.trans {c middle final : Compiler} {contents more : List Content}
    (one : Adds c middle contents) (other : Adds middle final more) :
    Adds c final (contents ++ more) := by
  obtain ⟨blocks, out, same, canonical⟩ := one.blocks
  obtain ⟨later, outLater, sameLater, canonicalLater⟩ := other.blocks
  refine ⟨other.rest, blocks ++ later, ?_, ?_, ?_⟩
  · rw [outLater, out, List.append_assoc]
  · rw [List.map_append, same, sameLater]
  · intro runs member
    exact (List.mem_append.mp member).elim (canonical runs) (canonicalLater runs)

/-- **A paragraph** is one block, unless it is blank. -/
theorem adds_paragraph {c middle final : Compiler} {inner : Inlines} {start : Nat}
    (rest : c.AtRest)
    (ran : inner.events.foldlM Compiler.event { c with sink := .paragraph, start := start } =
      .ok middle)
    (flushed : middle.flushParagraph = .ok final) :
    Adds c final (if inner.Blank then [] else [.paragraph (inner.styled false false)]) := by
  have absorbed := absorbs_inlines ran
  obtain ⟨text, kept, styled⟩ := absorbed.paragraph rfl
  have canonical : Canonical middle.runs := by
    apply kept
    rw [rest.runs]
    exact ⟨fun _ absent => (List.not_mem_nil absent).elim, List.isChain_nil⟩
  rw [rest.runs, rest.bold, rest.italic] at styled
  have whole : styledRuns middle.runs = inner.styled false false := styled
  have blank : (middle.runs.all fun run => Text.isBlank run.text) = true ↔ inner.Blank := by
    rw [all_isBlank_iff, whole]
    rfl
  have result := Compiler.flushParagraph_ok flushed
  refine ⟨?_, ?_⟩
  · rw [result]
    exact ⟨rfl, rfl, text.trans rest.text, absorbed.bold.trans rest.bold,
      absorbed.italic.trans rest.italic⟩
  · refine ⟨if inner.Blank then [] else [.paragraph middle.runs], ?_, ?_, ?_⟩
    · have out : middle.out = c.out := by rw [absorbed.frame]
      rw [result]
      simp only [out, blank]
    · split
      · rfl
      · rw [List.map_singleton, Block.content, whole]
    · split
      · exact fun _ absent => (List.not_mem_nil absent).elim
      · intro runs member
        obtain rfl := Block.paragraph.inj (List.mem_singleton.mp member)
        exact canonical

/-- **A heading** is one block, unless it is blank. -/
theorem adds_heading {c middle final : Compiler} {inner : Inlines} {start level : Nat}
    (rest : c.AtRest)
    (ran : inner.events.foldlM Compiler.event { c with sink := .heading level, start := start } =
      .ok middle)
    (flushed : middle.flushHeading = .ok final) :
    Adds c final (if inner.Blank then [] else [.heading level inner.plain]) := by
  have absorbed := absorbs_inlines ran
  obtain ⟨runs, read⟩ := absorbed.heading level rfl
  rw [rest.text, rest.bold, rest.italic] at read
  have whole : middle.text.toList = inner.plain := read
  have blank : Text.isBlank middle.text = true ↔ inner.Blank := by
    rw [Text.isBlank, List.all_eq_true, whole]
    rfl
  have result := Compiler.flushHeading_ok absorbed.sink flushed
  refine ⟨?_, ?_⟩
  · rw [result]
    exact ⟨rfl, runs.trans rest.runs, rfl, absorbed.bold.trans rest.bold,
      absorbed.italic.trans rest.italic⟩
  · refine ⟨if inner.Blank then [] else [.heading level middle.text], ?_, ?_, ?_⟩
    · have out : middle.out = c.out := by rw [absorbed.frame]
      rw [result]
      simp only [out, blank]
    · split
      · rfl
      · rw [List.map_singleton, Block.content, whole]
    · intro runs member
      split at member
      · exact (List.not_mem_nil member).elim
      · cases List.mem_singleton.mp member

/-- **A flow** that compiles adds its contents, and all of its characters stand in them. -/
theorem adds_flow {flow : Flow} {c final : Compiler} (rest : c.AtRest)
    (compiled : flow.events.foldlM Compiler.event c = .ok final) :
    Adds c final flow.contents ∧ flow.chars = flow.contents.flatMap Content.chars := by
  induction flow generalizing c final with
  | nil =>
      obtain rfl := Except.ok.inj compiled
      refine ⟨⟨rest, [], (List.append_nil _).symm, rfl, fun _ absent => ?_⟩, rfl⟩
      exact (List.not_mem_nil absent).elim
  | rule at_ others ih =>
      have still : ({ c with out := c.out ++ [.rule] } : Compiler).AtRest :=
        ⟨rest.sink, rest.runs, rest.text, rest.bold, rest.italic⟩
      obtain ⟨adds, chars⟩ := ih still compiled
      have one : Adds c { c with out := c.out ++ [.rule] } [.rule] := by
        refine ⟨still, [.rule], rfl, rfl, fun runs member => ?_⟩
        cases List.mem_singleton.mp member
      exact ⟨one.trans adds, chars⟩
  | leaf kind at_ others => cases compiled
  | paragraph start stop inner others ih =>
      change (inner.events ++ (.close .paragraph, stop) :: others.events).foldlM Compiler.event
        { c with sink := .paragraph, start := start } = .ok final at compiled
      rw [List.foldlM_append] at compiled
      obtain ⟨middle, ran, closed⟩ := Outcome.bind_eq_ok_iff.mp compiled
      obtain ⟨next, flushed, later⟩ := Outcome.bind_eq_ok_iff.mp closed
      have one := adds_paragraph rest ran flushed
      obtain ⟨adds, chars⟩ := ih one.rest later
      refine ⟨one.trans adds, ?_⟩
      rw [Flow.chars, Flow.contents, List.flatMap_append, chars, Content.flatMap_unless]
      rfl
  | heading level id classes attrs start stop inner others ih =>
      obtain ⟨opened, started, inside⟩ := Outcome.bind_eq_ok_iff.mp compiled
      obtain ⟨-, accepted⟩ := Outcome.ite_error_eq_ok_iff.mp started
      obtain rfl := Except.ok.inj accepted
      rw [List.foldlM_append] at inside
      obtain ⟨middle, ran, closed⟩ := Outcome.bind_eq_ok_iff.mp inside
      obtain ⟨next, flushed, later⟩ := Outcome.bind_eq_ok_iff.mp closed
      have one := adds_heading rest ran flushed
      obtain ⟨adds, chars⟩ := ih one.rest later
      refine ⟨one.trans adds, ?_⟩
      rw [Flow.chars, Flow.contents, List.flatMap_append, chars, Content.flatMap_unless]
      rfl
  | container tag start stop inner others => cases compiled
  | phrase inner others ih =>
      rw [Flow.events, List.foldlM_append] at compiled
      obtain ⟨middle, ran, later⟩ := Outcome.bind_eq_ok_iff.mp compiled
      have absorbed := absorbs_inlines ran
      obtain ⟨runs, text, none⟩ := absorbed.none rest.sink
      have same : middle = c := by rw [absorbed.frame, runs, text]
      rw [rest.bold, rest.italic] at none
      have nothing : inner.plain = [] := congrArg (List.map Prod.fst) none
      rw [same] at later
      obtain ⟨adds, chars⟩ := ih rest later
      rw [Flow.chars, nothing, chars]
      exact ⟨adds, rfl⟩

theorem compileEvents_ok {flow : Flow} {blocks : List Block}
    (compiled : compileEvents flow.events = .ok blocks) :
    blocks.flatMap Block.chars = flow.chars ∧ blocks.map Block.content = flow.contents ∧
      ∀ runs, Block.paragraph runs ∈ blocks → Canonical runs := by
  obtain ⟨final, ran, done⟩ := Outcome.bind_eq_ok_iff.mp compiled
  obtain rfl := Except.ok.inj done
  obtain ⟨adds, chars⟩ := adds_flow (c := .default) ⟨rfl, rfl, rfl, rfl, rfl⟩ ran
  obtain ⟨blocks, out, same, canonical⟩ := adds.blocks
  have whole : final.out = blocks := out
  rw [whole]
  refine ⟨?_, same, canonical⟩
  rw [chars, ← same, List.flatMap_map]
  simp only [Block.chars_content]

theorem compileMarkdown_ok {parse : String → List (Event × Nat)} {src : String} {flow : Flow}
    {blocks : List Block} (parsed : parse src = flow.events)
    (compiled : compileMarkdown parse src = .ok blocks) :
    Text.byteLen src ≤ maxBodyBytes ∧ blocks.map Block.content = flow.contents := by
  obtain ⟨small, accepted⟩ := Outcome.ite_error_eq_ok_iff.mp compiled
  rw [parsed] at accepted
  exact ⟨Nat.le_of_not_lt small, (compileEvents_ok accepted).2.1⟩

/-- **Compilation drops nothing.** A body either fails to compile or gives blocks that say
all of its texts in order, a space for every soft break, but for the headings and
paragraphs that are blank, every character in the style of its nesting; the runs of a
paragraph are canonical, and splitting a text event changes nothing. -/
theorem compile_spec :
    (∀ (flow : Flow) (blocks : List Block), compileEvents flow.events = .ok blocks →
      blocks.flatMap Block.chars = flow.chars ∧
        blocks.map Block.content = flow.contents ∧
        ∀ runs, Block.paragraph runs ∈ blocks → Canonical runs) ∧
    ∀ (before after : List (Event × Nat)) (first : String) (at_ : Nat)
      (pieces : List (String × Nat)),
      compileEvents (before ++
          ((first, at_) :: pieces).map (fun piece => (Event.text piece.1, piece.2)) ++ after) =
        compileEvents (before ++
          [(.text (first ++ String.join (pieces.map Prod.fst)), at_)] ++ after) :=
  ⟨fun _ _ => compileEvents_ok, compileEvents_split⟩

example : compileEvents (Flow.paragraph 0 11 (.strong 0 9 (.text "a " 2 (.emphasis 4 6
      (.text "b" 5 .nil) (.text " c" 7 .nil))) .nil) .nil).events =
    .ok [.paragraph [⟨"a ", true, false⟩, ⟨"b", true, true⟩, ⟨" c", true, false⟩]] := by
  rfl

end Chancela.Markdown
