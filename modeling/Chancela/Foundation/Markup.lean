import Mathlib.Data.List.Infix
import Mathlib.Data.List.Induction

/-! # Markup and its events

XML content as a sequence of pieces: tags, references, comments, processing instructions,
marked sections and single characters. A reader reports it as events, characters in runs.
`Chancela.Markup.lex` is such a reader; from text that begins with well-formed pieces it
first reports these, whatever follows (`Chancela.Markup.lex_spell`).
-/

namespace Chancela.Markup

/-- What a pull reader reports. Attribute values and character data are as written. -/
inductive Event where
  | start (name : List Char) (attributes : List (List Char × List Char))
  | empty (name : List Char) (attributes : List (List Char × List Char))
  | finish (name : List Char)
  | text (raw : List Char)
  | cdata (raw : List Char)
  | generalRef (name : List Char)
  | comment (raw : List Char)
  | instruction (raw : List Char)
  | declaration (raw : List Char)
  | docType (raw : List Char)
deriving DecidableEq, Repr

/-- A piece of content. -/
inductive Piece where
  | start (name : List Char) (attributes : List (List Char × List Char))
  | empty (name : List Char) (attributes : List (List Char × List Char))
  | finish (name : List Char)
  | char (c : Char)
  | cdata (raw : List Char)
  | reference (name : List Char)
  | comment (raw : List Char)
  | instruction (raw : List Char)
deriving DecidableEq, Repr

/-- The pieces an event reports; the declarations of a document are no content. -/
def Event.pieces : Event → List Piece
  | start name attributes => [.start name attributes]
  | empty name attributes => [.empty name attributes]
  | finish name => [.finish name]
  | text raw => raw.map .char
  | cdata raw => [.cdata raw]
  | generalRef name => [.reference name]
  | comment raw => [.comment raw]
  | instruction raw => [.instruction raw]
  | declaration _ => []
  | docType _ => []

def spellAttribute (entry : List Char × List Char) : List Char :=
  ' ' :: (entry.1 ++ '=' :: '"' :: (entry.2 ++ ['"']))

/-- The kinds of markup that end at a mark of their own. -/
inductive Section where
  | comment
  | cdata
  | instruction
deriving DecidableEq, Repr

/-- What the mark puts before its `>`. -/
def Section.lead : Section → List Char
  | comment => ['-', '-']
  | cdata => [']', ']']
  | instruction => ['?']

def Piece.spell : Piece → List Char
  | start name attributes => '<' :: (name ++ (attributes.flatMap spellAttribute ++ ['>']))
  | empty name attributes => '<' :: (name ++ (attributes.flatMap spellAttribute ++ ['/', '>']))
  | finish name => '<' :: '/' :: (name ++ ['>'])
  | char c => [c]
  | cdata raw => ['<', '!', '[', 'C', 'D', 'A', 'T', 'A', '['] ++ (raw ++ [']', ']', '>'])
  | reference name => '&' :: (name ++ [';'])
  | comment raw => ['<', '!', '-', '-'] ++ (raw ++ ['-', '-', '>'])
  | instruction raw => ['<', '?'] ++ (raw ++ ['?', '>'])

def spell (pieces : List Piece) : List Char := pieces.flatMap Piece.spell

def isSpace (c : Char) : Bool := [' ', '\t', '\n', '\x0C', '\r'].contains c

/-- A character a name may hold: no white space and none that markup uses. -/
def isNameChar (c : Char) : Bool :=
  !isSpace c && !(['<', '>', '&', '"', '\'', '=', '/', '?', '!', ';'].contains c)

def IsName (name : List Char) : Prop := name ≠ [] ∧ ∀ c ∈ name, isNameChar c = true

instance (name : List Char) : Decidable (IsName name) :=
  @instDecidableAnd _ _ _ (List.decidableBAll (isNameChar · = true) name)

theorem IsName.not_mem {name : List Char} (named : IsName name) {c : Char}
    (excluded : isNameChar c = false) : c ∉ name := by
  intro member
  rw [named.2 c member] at excluded
  cases excluded

/-- The target of a processing instruction: up to the first white space. -/
def target (raw : List Char) : List Char := raw.takeWhile fun c => !isSpace c

/-- An attribute is a name with a value that ends at its quote. -/
def WellFormedAttribute (entry : List Char × List Char) : Prop :=
  IsName entry.1 ∧ '"' ∉ entry.2 ∧ '<' ∉ entry.2

/-- A piece is well formed: it ends where its text says. -/
def Piece.WellFormed : Piece → Prop
  | start name attributes => IsName name ∧ ∀ entry ∈ attributes, WellFormedAttribute entry
  | empty name attributes => IsName name ∧ ∀ entry ∈ attributes, WellFormedAttribute entry
  | finish name => IsName name
  | char c => c ≠ '<' ∧ c ≠ '&'
  | cdata raw => ¬[']', ']', '>'] <:+: raw ++ [']', ']']
  | reference name => IsName name
  | comment raw => ¬['-', '-'] <:+: raw ++ ['-']
  | instruction raw =>
      ¬['?', '>'] <:+: raw ++ ['?'] ∧ IsName (target raw) ∧ target raw ≠ ['x', 'm', 'l']

/-! ## A reader -/

/-- Where a reader is in the text. Collected characters are in reverse. -/
inductive Mode where
  | content (run : List Char)
  | reference (name : List Char)
  | opened
  | declared (raw : List Char)
  | inside (kind : Section) (raw : List Char)
  | closing (name : List Char)
  | name (name : List Char)
  | between (name : List Char) (attributes : List (List Char × List Char))
  | key (name : List Char) (attributes : List (List Char × List Char)) (key : List Char)
  | equals (name : List Char) (attributes : List (List Char × List Char)) (key : List Char)
  | value (name : List Char) (attributes : List (List Char × List Char)) (key : List Char)
      (quote : Char) (value : List Char)
  | slash (name : List Char) (attributes : List (List Char × List Char))

def flush : List Char → List Event
  | [] => []
  | c :: run => [.text (c :: run).reverse]

/-- The event of a section; an instruction to `xml` declares the document. -/
def Section.event (raw : List Char) : Section → Event
  | comment => .comment raw
  | cdata => .cdata raw
  | instruction => if target raw = ['x', 'm', 'l'] then .declaration raw else .instruction raw

def step : Mode → Char → Option (Mode × List Event)
  | .content run, c =>
      if c = '<' then some (.opened, flush run)
      else if c = '&' then some (.reference [], flush run)
      else some (.content (c :: run), [])
  | .reference name, c =>
      if c = ';' then some (.content [], [.generalRef name.reverse])
      else some (.reference (c :: name), [])
  | .opened, c =>
      if c = '/' then some (.closing [], [])
      else if c = '!' then some (.declared [], [])
      else if c = '?' then some (.inside .instruction [], [])
      else if isNameChar c then some (.name [c], [])
      else none
  | .declared raw, c =>
      if c :: raw = ['-', '-'] then some (.inside .comment [], [])
      else if c :: raw = ['[', 'A', 'T', 'A', 'D', 'C', '['] then some (.inside .cdata [], [])
      else if c = '>' then some (.content [], [.docType raw.reverse])
      else some (.declared (c :: raw), [])
  | .inside kind raw, c =>
      if c = '>' ∧ kind.lead <+: raw then
        some (.content [], [kind.event (raw.drop kind.lead.length).reverse])
      else some (.inside kind (c :: raw), [])
  | .closing name, c =>
      if c = '>' then some (.content [], [.finish name.reverse])
      else if isSpace c then some (.closing name, [])
      else some (.closing (c :: name), [])
  | .name name, c =>
      if isNameChar c then some (.name (c :: name), [])
      else if c = '>' then some (.content [], [.start name.reverse []])
      else if c = '/' then some (.slash name.reverse [], [])
      else if isSpace c then some (.between name.reverse [], [])
      else none
  | .between name attributes, c =>
      if isNameChar c then some (.key name attributes [c], [])
      else if c = '>' then some (.content [], [.start name attributes.reverse])
      else if c = '/' then some (.slash name attributes, [])
      else if isSpace c then some (.between name attributes, [])
      else none
  | .key name attributes key, c =>
      if isNameChar c then some (.key name attributes (c :: key), [])
      else if c = '=' then some (.equals name attributes key.reverse, [])
      else none
  | .equals name attributes key, c =>
      if c = '"' ∨ c = '\'' then some (.value name attributes key c [], []) else none
  | .value name attributes key quote value, c =>
      if c = quote then some (.between name ((key, value.reverse) :: attributes), [])
      else some (.value name attributes key quote (c :: value), [])
  | .slash name attributes, c =>
      if c = '>' then some (.content [], [.empty name attributes.reverse]) else none

/-- The events of the rest of the text. A text may end between pieces only. -/
def run : Mode → List Char → Option (List Event)
  | .content text, [] => some (flush text)
  | _, [] => none
  | mode, c :: rest =>
      match step mode c with
      | none => none
      | some (next, events) => (run next rest).map (events ++ ·)

def lex (text : List Char) : Option (List Event) := run (.content []) text

/-- From one mode to another over a text, with these events. -/
def Reads (mode : Mode) (text : List Char) (next : Mode) (events : List Event) : Prop :=
  ∀ rest, run mode (text ++ rest) = (run next rest).map (events ++ ·)

theorem Reads.refl (mode : Mode) : Reads mode [] mode [] := by
  intro rest
  simp

theorem Reads.trans {first second third : Mode} {front back : List Char}
    {events later : List Event} (left : Reads first front second events)
    (right : Reads second back third later) :
    Reads first (front ++ back) third (events ++ later) := by
  intro rest
  rw [List.append_assoc, left, right, Option.map_map]
  congr 1
  ext1 tail
  exact (List.append_assoc events later tail).symm

theorem Reads.of_step {mode next : Mode} {c : Char} {events : List Event}
    (stepped : step mode c = some (next, events)) : Reads mode [c] next events := by
  intro rest
  cases mode <;> rw [List.singleton_append, run, stepped]

theorem Reads.cons {mode final : Mode} {c : Char} {text : List Char} {events : List Event}
    (next : Mode) (stepped : step mode c = some (next, [])) (reads : Reads next text final events) :
    Reads mode (c :: text) final events :=
  (Reads.of_step stepped).trans reads

section Parts

variable {name key value raw : List Char} {attributes done : List (List Char × List Char)}

theorem reads_gathered (gather : List Char → Mode) {text : List Char}
    (stays : ∀ c ∈ text, ∀ front, step (gather front) c = some (gather (c :: front), []))
    (front : List Char) :
    Reads (gather front) text (gather (text.reverse ++ front)) [] := by
  induction text generalizing front with
  | nil => exact Reads.refl _
  | cons c rest ih =>
      rw [List.reverse_cons, List.append_assoc]
      exact Reads.cons _ (stays c List.mem_cons_self front)
        (ih (fun d member => stays d (List.mem_cons_of_mem c member)) (c :: front))

theorem reads_name (named : ∀ c ∈ name, isNameChar c = true) (front : List Char) :
    Reads (.name front) name (.name (name.reverse ++ front)) [] := by
  refine reads_gathered .name (fun c member front => ?_) front
  simp [step, named c member]

theorem reads_key (named : ∀ c ∈ key, isNameChar c = true) (front : List Char) :
    Reads (.key name done front) key (.key name done (key.reverse ++ front)) [] := by
  refine reads_gathered (.key name done) (fun c member front => ?_) front
  simp [step, named c member]

theorem reads_value (closed : '"' ∉ value) (front : List Char) :
    Reads (.value name done key '"' front) value
      (.value name done key '"' (value.reverse ++ front)) [] := by
  refine reads_gathered (.value name done key '"') (fun c member front => ?_) front
  have other : c ≠ '"' := fun same => closed (same ▸ member)
  simp [step, other]

theorem reads_closing (named : ∀ c ∈ name, isNameChar c = true) (front : List Char) :
    Reads (.closing front) name (.closing (name.reverse ++ front)) [] := by
  refine reads_gathered .closing (fun c member front => ?_) front
  have here := named c member
  have other : c ≠ '>' := by
    rintro rfl
    cases here
  have blank : isSpace c = false := by
    simp only [isNameChar, Bool.and_eq_true, Bool.not_eq_true'] at here
    exact here.1
  simp [step, other, blank]

theorem reads_reference (named : ∀ c ∈ name, isNameChar c = true) (front : List Char) :
    Reads (.reference front) name (.reference (name.reverse ++ front)) [] := by
  refine reads_gathered .reference (fun c member front => ?_) front
  have other : c ≠ ';' := by
    rintro rfl
    cases named ';' member
  simp [step, other]

theorem Section.reverse_lead (kind : Section) : kind.lead.reverse = kind.lead := by
  cases kind <;> rfl

theorem reads_inside (kind : Section) (front : List Char)
    (closed : ¬kind.lead ++ ['>'] <:+: front.reverse ++ raw ++ kind.lead) :
    Reads (.inside kind front) raw (.inside kind (raw.reverse ++ front)) [] := by
  induction raw generalizing front with
  | nil => exact Reads.refl _
  | cons c rest ih =>
      rw [List.reverse_cons, List.append_assoc]
      refine Reads.cons _ ?_ (ih (c :: front) (by simpa using closed))
      have open_ : ¬(c = '>' ∧ kind.lead <+: front) := by
        rintro ⟨rfl, tail, rfl⟩
        apply closed
        refine ⟨tail.reverse, rest ++ kind.lead, ?_⟩
        simp [kind.reverse_lead]
      simp [step, open_]

theorem reads_section (kind : Section) (closed : ¬kind.lead ++ ['>'] <:+: raw ++ kind.lead) :
    Reads (.inside kind []) (raw ++ (kind.lead ++ ['>'])) (.content []) [kind.event raw] := by
  have whole : Reads (.inside kind []) raw (.inside kind raw.reverse) [] := by
    simpa using reads_inside kind [] (by simpa using closed)
  have mark : Reads (.inside kind raw.reverse) (kind.lead ++ ['>']) (.content [])
      [kind.event raw] := by
    cases kind with
    | comment =>
        refine Reads.cons (.inside .comment ('-' :: raw.reverse)) ?_
          (Reads.cons (.inside .comment ('-' :: '-' :: raw.reverse)) ?_ (Reads.of_step ?_))
        all_goals simp [step, Section.lead]
    | cdata =>
        refine Reads.cons (.inside .cdata (']' :: raw.reverse)) ?_
          (Reads.cons (.inside .cdata (']' :: ']' :: raw.reverse)) ?_ (Reads.of_step ?_))
        all_goals simp [step, Section.lead]
    | instruction =>
        refine Reads.cons (.inside .instruction ('?' :: raw.reverse)) ?_ (Reads.of_step ?_)
        all_goals simp [step, Section.lead]
  exact whole.trans mark

theorem reads_attributes (wellFormed : ∀ entry ∈ attributes, WellFormedAttribute entry) :
    Reads (.between name done) (attributes.flatMap spellAttribute)
      (.between name (attributes.reverse ++ done)) [] := by
  induction attributes generalizing done with
  | nil => exact Reads.refl _
  | cons entry rest ih =>
      obtain ⟨⟨nonempty, named⟩, closed, -⟩ := wellFormed entry List.mem_cons_self
      obtain ⟨key, value⟩ := entry
      have later : Reads (.between name ((key, value) :: done)) (rest.flatMap spellAttribute)
          (.between name (rest.reverse ++ (key, value) :: done)) [] :=
        ih fun other member => wellFormed other (List.mem_cons_of_mem _ member)
      rw [List.flatMap_cons, List.reverse_cons, List.append_assoc]
      suffices first : Reads (.between name done) (spellAttribute (key, value))
          (.between name ((key, value) :: done)) [] from first.trans later
      obtain ⟨c, tail, rfl⟩ := List.exists_cons_of_ne_nil nonempty
      have keyed : Reads (.key name done [c]) tail (.key name done (tail.reverse ++ [c])) [] :=
        reads_key (fun d member => named d (List.mem_cons_of_mem c member)) [c]
      have valued : Reads (.value name done (c :: tail) '"' []) value
          (.value name done (c :: tail) '"' value.reverse) [] := by
        simpa using reads_value closed []
      refine Reads.cons (.between name done) (by simp [step, isNameChar, isSpace]) ?_
      refine Reads.cons (.key name done [c])
        (by simp [step, named c List.mem_cons_self]) ?_
      refine keyed.trans (Reads.cons (.equals name done (c :: tail))
        (by simp [step, isNameChar]) ?_)
      refine Reads.cons (.value name done (c :: tail) '"' []) (by simp [step]) ?_
      refine valued.trans (Reads.of_step ?_)
      simp [step]

theorem reads_head (isName : IsName name)
    (wellFormed : ∀ entry ∈ attributes, WellFormedAttribute entry) :
    ∃ mode, Reads .opened (name ++ attributes.flatMap spellAttribute) mode [] ∧
      step mode '>' = some (.content [], [.start name attributes]) ∧
      step mode '/' = some (.slash name attributes.reverse, []) := by
  obtain ⟨nonempty, named⟩ := isName
  obtain ⟨c, tail, rfl⟩ := List.exists_cons_of_ne_nil nonempty
  have first := named c List.mem_cons_self
  have began : step .opened c = some (.name [c], []) := by
    have slash : c ≠ '/' := by
      rintro rfl
      cases first
    have bang : c ≠ '!' := by
      rintro rfl
      cases first
    have query : c ≠ '?' := by
      rintro rfl
      cases first
    simp [step, slash, bang, query, first]
  have read : Reads .opened (c :: tail) (.name (tail.reverse ++ [c])) [] :=
    Reads.cons _ began (reads_name (fun d member => named d (List.mem_cons_of_mem c member)) [c])
  cases attributes with
  | nil =>
      refine ⟨.name (tail.reverse ++ [c]), by simpa using read, ?_, ?_⟩
      all_goals simp [step, isNameChar]
  | cons entry rest =>
      -- The space before the first attribute ends the name.
      have between : Reads (.between (c :: tail) []) ((entry :: rest).flatMap spellAttribute)
          (.between (c :: tail) ((entry :: rest).reverse ++ [])) [] := reads_attributes wellFormed
      have attributed : Reads (.name (tail.reverse ++ [c])) ((entry :: rest).flatMap spellAttribute)
          (.between (c :: tail) ((entry :: rest).reverse ++ [])) [] := by
        intro text
        rw [← between text]
        have ended : step (.name (tail.reverse ++ [c])) ' ' =
          some (.between (c :: tail) [], []) := by
          simp [step, isNameChar, isSpace]
        have stayed : step (.between (c :: tail) []) ' ' = some (.between (c :: tail) [], []) := by
          simp [step, isNameChar, isSpace]
        simp only [List.flatMap_cons, spellAttribute, List.cons_append, run, ended, stayed]
      refine ⟨_, read.trans attributed, ?_, ?_⟩
      all_goals simp [step, isNameChar, isSpace]

end Parts

def Piece.event : Piece → Event
  | start name attributes => .start name attributes
  | empty name attributes => .empty name attributes
  | finish name => .finish name
  | char c => .text [c]
  | cdata raw => .cdata raw
  | reference name => .generalRef name
  | comment raw => .comment raw
  | instruction raw => .instruction raw

theorem Piece.pieces_event (piece : Piece) : piece.event.pieces = [piece] := by
  cases piece <;> rfl

def Piece.isChar : Piece → Bool
  | char _ => true
  | _ => false

theorem not_infix_of_comment {raw : List Char} (closed : ¬['-', '-'] <:+: raw ++ ['-']) :
    ¬Section.comment.lead ++ ['>'] <:+: raw ++ Section.comment.lead := by
  rintro ⟨front, back, split⟩
  apply closed
  have inside : front ++ ['-', '-', '>'] ++ back = raw ++ ['-', '-'] := split
  -- The mark's last character is none of those added, so the mark lies in the text.
  rcases List.eq_nil_or_concat back with rfl | ⟨back, last, rfl⟩
  · have ends := congrArg List.getLast? inside
    simp at ends
  · refine ⟨front, '>' :: back, ?_⟩
    have shorter := congrArg List.dropLast inside
    rw [List.concat_eq_append, ← List.append_assoc, List.dropLast_concat] at shorter
    have trimmed : (raw ++ ['-', '-']).dropLast = raw ++ ['-'] := by
      rw [show raw ++ ['-', '-'] = (raw ++ ['-']) ++ ['-'] by simp, List.dropLast_concat]
    rw [trimmed] at shorter
    simpa using shorter

/-- **A piece is reported after the characters before it.** -/
theorem Piece.reads {piece : Piece} (wellFormed : piece.WellFormed) (markup : piece.isChar = false)
    (before : List Char) :
    Reads (.content before) piece.spell (.content []) (flush before ++ [piece.event]) := by
  have opens : Reads (.content before) ['<'] .opened (flush before) :=
    Reads.of_step (by simp [step])
  cases piece with
  | char c => cases markup
  | start name attributes =>
      obtain ⟨mode, head, closes, -⟩ := reads_head wellFormed.1 wellFormed.2
      have tag := opens.trans (head.trans (Reads.of_step closes))
      simpa [Piece.spell, Piece.event] using tag
  | empty name attributes =>
      obtain ⟨mode, head, -, slashes⟩ := reads_head wellFormed.1 wellFormed.2
      have closes : step (.slash name attributes.reverse) '>' =
          some (.content [], [.empty name attributes]) := by simp [step]
      have tag := opens.trans (head.trans (Reads.cons _ slashes (Reads.of_step closes)))
      simpa [Piece.spell, Piece.event] using tag
  | finish name =>
      have closing : Reads .opened ['/'] (.closing []) [] := Reads.of_step (by simp [step])
      have closes : step (.closing (name.reverse ++ [])) '>' =
          some (.content [], [.finish name]) := by simp [step]
      have tag := opens.trans (closing.trans ((reads_closing wellFormed.2 []).trans
        (Reads.of_step closes)))
      simpa [Piece.spell, Piece.event] using tag
  | reference name =>
      have begins : Reads (.content before) ['&'] (.reference []) (flush before) :=
        Reads.of_step (by simp [step])
      have ends : step (.reference (name.reverse ++ [])) ';' =
          some (.content [], [.generalRef name]) := by simp [step]
      have whole := begins.trans ((reads_reference wellFormed.2 []).trans (Reads.of_step ends))
      simpa [Piece.spell, Piece.event] using whole
  | comment raw =>
      have declared : Reads .opened ['!', '-', '-'] (.inside .comment []) [] := by
        refine Reads.cons (.declared []) ?_ (Reads.cons (.declared ['-']) ?_ (Reads.of_step ?_))
        all_goals simp [step]
      have whole := opens.trans (declared.trans
        (reads_section .comment (not_infix_of_comment wellFormed)))
      simpa [Piece.spell, Piece.event, Section.lead, Section.event] using whole
  | cdata raw =>
      have declared : Reads .opened ['!', '[', 'C', 'D', 'A', 'T', 'A', '['] (.inside .cdata [])
          [] := by
        refine Reads.cons (.declared []) ?_ (Reads.cons (.declared ['[']) ?_
          (Reads.cons (.declared ['C', '[']) ?_ (Reads.cons (.declared ['D', 'C', '[']) ?_
          (Reads.cons (.declared ['A', 'D', 'C', '[']) ?_
          (Reads.cons (.declared ['T', 'A', 'D', 'C', '[']) ?_
          (Reads.cons (.declared ['A', 'T', 'A', 'D', 'C', '[']) ?_ (Reads.of_step ?_)))))))
        all_goals simp [step]
      have whole := opens.trans (declared.trans (reads_section .cdata wellFormed))
      simpa [Piece.spell, Piece.event, Section.lead, Section.event] using whole
  | instruction raw =>
      have declared : Reads .opened ['?'] (.inside .instruction []) [] :=
        Reads.of_step (by simp [step])
      have whole := opens.trans (declared.trans (reads_section .instruction wellFormed.1))
      simpa [Piece.spell, Piece.event, Section.lead, Section.event, wellFormed.2.2] using whole

theorem pieces_flush (run : List Char) :
    (flush run).flatMap Event.pieces = run.reverse.map .char := by
  cases run with
  | nil => rfl
  | cons c run => simp [flush, Event.pieces]

theorem reads_spell {pieces : List Piece} (wellFormed : ∀ piece ∈ pieces, piece.WellFormed)
    (before : List Char) :
    ∃ events after, Reads (.content before) (spell pieces) (.content after) events ∧
      before.reverse.map .char ++ pieces =
        events.flatMap Event.pieces ++ after.reverse.map .char ∧
      ((∀ c, pieces.getLast? ≠ some (.char c)) → pieces ≠ [] → after = []) := by
  induction pieces generalizing before with
  | nil => exact ⟨[], before, Reads.refl _, by simp, fun _ nonempty => absurd rfl nonempty⟩
  | cons piece rest ih =>
      have later : ∀ piece ∈ rest, piece.WellFormed := fun other member =>
        wellFormed other (List.mem_cons_of_mem piece member)
      have here := wellFormed piece List.mem_cons_self
      by_cases markup : piece.isChar = false
      · obtain ⟨events, after, reads, same, ended⟩ := ih later []
        refine ⟨flush before ++ [piece.event] ++ events, after, ?_, ?_, ?_⟩
        · exact (Piece.reads here markup before).trans reads
        · simp only [List.reverse_nil, List.map_nil, List.nil_append] at same
          simp [List.flatMap_append, pieces_flush, Piece.pieces_event, same]
        · intro last _
          cases rest with
          | nil =>
              have nothing := congrArg List.length same
              simp only [List.reverse_nil, List.map_nil, List.nil_append, List.length_nil,
                List.length_append, List.length_map, List.length_reverse] at nothing
              exact List.length_eq_zero_iff.mp (by omega)
          | cons next rest =>
              exact ended (fun c => by simpa using last c) (List.cons_ne_nil _ _)
      · cases piece with
        | char c =>
            obtain ⟨events, after, reads, same, ended⟩ := ih later (c :: before)
            refine ⟨events, after, ?_, ?_, ?_⟩
            · refine Reads.cons _ ?_ reads
              simp [step, here.1, here.2]
            · rw [← same]
              simp
            · intro last _
              cases rest with
              | nil => exact absurd rfl (last c)
              | cons next rest =>
                  exact ended (fun d => by simpa using last d) (List.cons_ne_nil _ _)
        | _ => exact absurd rfl markup

/-- **Well-formed pieces are reported first, whatever follows.** -/
theorem lex_spell {pieces : List Piece} (wellFormed : ∀ piece ∈ pieces, piece.WellFormed)
    (ended : ∀ c, pieces.getLast? ≠ some (.char c)) (rest : List Char) :
    ∃ events, events.flatMap Event.pieces = pieces ∧
      lex (spell pieces ++ rest) = (lex rest).map (events ++ ·) := by
  obtain ⟨events, after, reads, same, closed⟩ := reads_spell wellFormed []
  by_cases empty : pieces = []
  · subst empty
    exact ⟨[], rfl, by simp [spell]⟩
  · have none := closed ended empty
    subst none
    exact ⟨events, by simpa using same.symm, reads rest⟩

end Chancela.Markup
