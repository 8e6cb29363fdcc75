import Chancela.Crates.Unicode
import Chancela.Foundation.Pattern
import Mathlib.Data.Finset.Sort

/-! # Folding, tokens and grams

Text as the index sees it: folded to lowercase without diacritics (`normalize`), cut into
alphanumeric tokens (`tokenize`), each of them known by its windows of three characters
(`tokenGrams`).

A query token inside an indexed one is found through its first gram
(`Chancela.Search.mem_tokenGrams_of_isInfix`).
-/

namespace Chancela.Search

/-! The order of strings, by names of its own. -/

instance transStringLe : IsTrans String (· ≤ ·) := inferInstance

instance antisymmStringLe : @Std.Antisymm String (· ≤ ·) := inferInstance

instance totalStringLe : @Std.Total String (· ≤ ·) := inferInstance

variable [Unicode]

def splitWhitespace (text : List Char) : List (List Char) :=
  (text.splitOnP Text.isWhitespace).filter (· ≠ [])

/-- `normalize`: case and diacritics folded, runs of whitespace become one space. -/
def normalize (value : String) : String :=
  let folded := ((nfkd value.toList).flatMap toLowercase).filter fun c => !isCombiningMark c
  let spaced := folded.map fun c => if Text.isWhitespace c then ' ' else c
  String.ofList (List.intercalate [' '] (splitWhitespace spaced))

/-- `tokenize`: the maximal alphanumeric stretches, each at its first occurrence. -/
def tokenize (value : String) : List String :=
  (((value.toList.splitOnP fun c => !isAlphanumeric c).filter (· ≠ [])).map
    String.ofList).eraseDups

/-- `slice::windows(3)`. -/
def windows : List Char → List (List Char)
  | a :: b :: c :: rest => [a, b, c] :: windows (b :: c :: rest)
  | _ => []

def tokenGrams (value : String) : Finset String :=
  ((windows value.toList).map String.ofList).toFinset

/-- `first_token_gram`: absent for fewer than three characters. -/
def firstTokenGram (value : String) : Option String :=
  match value.toList with
  | a :: b :: c :: _ => some (String.ofList [a, b, c])
  | _ => none

/-- `str::matches(_).count()` of a nonempty needle: occurrences that do not overlap. The
first argument counts the characters left of the occurrence being passed. -/
def countMatches (needle : List Char) : Nat → List Char → Nat
  | _, [] => 0
  | 0, c :: rest =>
      if needle.isPrefixOf (c :: rest) then 1 + countMatches needle (needle.length - 1) rest
      else countMatches needle 0 rest
  | skip + 1, _ :: rest => countMatches needle skip rest

def wordMatches (tokens : List String) (word : List Char) : Bool :=
  tokens.any fun token => Text.contains (normalize (String.ofList word)) token

/-- The loop of `first_matching_word_byte`, with the word since `start`. Positions count
characters, to which `snippet` converts the byte offset. -/
def matchingWordFrom (tokens : List String) :
    Nat → Option Nat → List Char → List Char → Option Nat
  | _, start, word, [] => start.filter fun _ => wordMatches tokens word
  | position, start, word, c :: rest =>
      if isAlphanumeric c then
        matchingWordFrom tokens (position + 1) (some (start.getD position)) (word ++ [c]) rest
      else
        match start.filter fun _ => wordMatches tokens word with
        | some found => some found
        | none => matchingWordFrom tokens (position + 1) none [] rest

/-- `first_matching_word_byte`. -/
def firstMatchingWord (body : List Char) (tokens : List String) : Option Nat :=
  if tokens = [] then some 0 else matchingWordFrom tokens 0 none [] body

/-- `snippet`: at most `maxChars` characters around the first matching word. -/
def snippet (body : String) (tokens : List String) (maxChars : Nat) : String :=
  let chars := body.toList
  if chars.length ≤ maxChars then body
  else
    let found := (firstMatchingWord chars tokens).getD 0
    let start := found - maxChars / 2
    let finish := min (start + maxChars) chars.length
    String.ofList ((if 0 < start then ['…'] else []) ++ (chars.drop start).take (finish - start) ++
      (if finish < chars.length then ['…'] else []))

section Occurrences

omit [Unicode]

theorem contains_iff (text marker : String) :
    Text.contains text marker = true ↔ marker.toList <:+: text.toList := by
  simp only [Text.contains, List.any_eq_true, List.mem_tails, List.isPrefixOf_iff_prefix]
  constructor
  · rintro ⟨tail, ends, starts⟩
    exact starts.isInfix.trans ends.isInfix
  · rintro ⟨front, back, split⟩
    exact ⟨marker.toList ++ back, ⟨front, by rw [← split, List.append_assoc]⟩,
      List.prefix_append _ _⟩

theorem piece_of_mem_splitOnP {separator : Char → Bool} {text piece : List Char}
    (member : piece ∈ text.splitOnP separator) :
    piece <:+: text ∧ ∀ c ∈ piece, separator c = false := by
  suffices general : (∀ piece ∈ text.splitOnP separator,
      piece <:+: text ∧ ∀ c ∈ piece, separator c = false) ∧
      ∀ head tail, text.splitOnP separator = head :: tail → head <+: text by
    exact general.1 piece member
  clear member piece
  induction text with
  | nil =>
      rw [List.splitOnP_nil]
      simp
  | cons c rest ih =>
      rw [List.splitOnP_cons_eq_if_modifyHead]
      by_cases cut : separator c = true
      · rw [if_pos cut]
        refine ⟨?_, ?_⟩
        · intro piece member
          rcases List.mem_cons.mp member with rfl | later
          · exact ⟨List.nil_infix, (fun _ m => nomatch m)⟩
          · exact ⟨(ih.1 piece later).1.trans (List.suffix_cons c rest).isInfix,
              (ih.1 piece later).2⟩
        · intro head tail same
          rw [← (List.cons.inj same).1]
          exact List.nil_prefix
      · rw [if_neg cut]
        cases pieces : rest.splitOnP separator with
        | nil => exact absurd pieces (List.splitOnP_ne_nil separator rest)
        | cons head tail =>
            rw [pieces] at ih
            have first : c :: head <+: c :: rest :=
              List.cons_prefix_cons.mpr ⟨rfl, ih.2 head tail rfl⟩
            refine ⟨?_, ?_⟩
            · intro piece member
              rcases List.mem_cons.mp member with rfl | later
              · refine ⟨first.isInfix, fun d inside => ?_⟩
                rcases List.mem_cons.mp inside with rfl | old
                · exact Bool.eq_false_iff.mpr cut
                · exact (ih.1 head List.mem_cons_self).2 d old
              · have kept := ih.1 piece (List.mem_cons_of_mem _ later)
                exact ⟨kept.1.trans (List.suffix_cons c rest).isInfix, kept.2⟩
            · intro head' tail' same
              rw [← (List.cons.inj same).1]
              exact first

theorem mem_windows_of_isInfix {text : List Char} {a b c : Char} (inside : [a, b, c] <:+: text) :
    [a, b, c] ∈ windows text := by
  obtain ⟨front, back, rfl⟩ := inside
  induction front with
  | nil => simp [windows]
  | cons d front ih =>
      rcases front with _ | ⟨e, _ | ⟨f, front⟩⟩
      · exact List.mem_cons_of_mem _ ih
      · exact List.mem_cons_of_mem _ ih
      · exact List.mem_cons_of_mem _ ih

/-- **A gram leads to every token that holds the query.** -/
theorem mem_tokenGrams_of_isInfix {query token gram : String}
    (inside : query.toList <:+: token.toList) (first : firstTokenGram query = some gram) :
    gram ∈ tokenGrams token := by
  rw [firstTokenGram] at first
  split at first
  · next a b c rest chars =>
      cases first
      rw [chars] at inside
      have starts : [a, b, c] <+: a :: b :: c :: rest := ⟨rest, rfl⟩
      rw [tokenGrams, List.mem_toFinset]
      exact List.mem_map_of_mem (mem_windows_of_isInfix (starts.isInfix.trans inside))
  · cases first

theorem firstTokenGram_eq_none_iff (query : String) :
    firstTokenGram query = none ↔ query.toList.length < 3 := by
  rw [firstTokenGram]
  rcases query.toList with _ | ⟨a, _ | ⟨b, _ | ⟨c, rest⟩⟩⟩
  all_goals simp

theorem countMatches_pos {needle text : List Char} (nonempty : needle ≠ [])
    (inside : needle <:+: text) : 0 < countMatches needle 0 text := by
  induction text with
  | nil => exact absurd (List.infix_nil.mp inside) nonempty
  | cons c rest ih =>
      rw [countMatches]
      split
      · omega
      · next notHere =>
          apply ih
          rcases List.infix_cons_iff.mp inside with here | later
          · exact absurd (List.isPrefixOf_iff_prefix.mpr here) notHere
          · exact later

end Occurrences

theorem token_of_mem_tokenize {value token : String} (member : token ∈ tokenize value) :
    token.toList ≠ [] ∧ token.toList <:+: value.toList ∧
      ∀ c ∈ token.toList, isAlphanumeric c = true := by
  rw [tokenize, List.mem_eraseDups, List.mem_map] at member
  obtain ⟨piece, kept, rfl⟩ := member
  obtain ⟨inSplit, nonempty⟩ := List.mem_filter.mp kept
  obtain ⟨inside, alphanumeric⟩ := piece_of_mem_splitOnP inSplit
  rw [String.toList_ofList]
  refine ⟨by simpa using nonempty, inside, fun c member => ?_⟩
  simpa using alphanumeric c member

theorem infix_or_infix_of_token {title body : String} {needle : List Char}
    (alphanumeric : ∀ c ∈ needle, isAlphanumeric c = true)
    (inside : needle <:+: (title ++ " " ++ body).toList) :
    needle <:+: title.toList ∨ needle <:+: body.toList := by
  have apart : ' ' ∉ needle := by
    intro member
    have wrong := alphanumeric ' ' member
    rw [Unicode.isAlphanumeric_space] at wrong
    cases wrong
  have joined : (title ++ " " ++ body).toList = title.toList ++ ' ' :: body.toList := by simp
  rw [joined] at inside
  exact (Pattern.infix_append_cons_iff_of_notMem apart).mp inside

end Chancela.Search
