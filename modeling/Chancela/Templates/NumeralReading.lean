import Chancela.Templates.Numerals

/-! # Reading numerals back

Cardinals are read word by word: a value below one thousand is added up, `mil` and
`milhões` close its class, and `e` says nothing. Ordinals are added up after their words
are brought back to the citation form.
-/

namespace Chancela.Numerals

open Wording

def valueIn (table : List (String × Nat)) (word : List Char) : Option Nat :=
  (table.find? fun entry => entry.1.toList = word).map (·.2)

def cardinalWords : List (String × Nat) :=
  units.zipIdx ++ [("uma", 1), ("duas", 2)] ++ tenToNineteen.zipIdx 10 ++
    (tens.zipIdx.drop 2).map (fun (word, i) => (word, 10 * i)) ++
    ((hundredsM.zipIdx.drop 1) ++ (hundredsF.zipIdx.drop 1)).map
      (fun (word, i) => (word, 100 * i)) ++ [("cem", 100)]

/-- One word of a cardinal: the classes that are closed, and the value of the open one. -/
def cardinalStep (state : Nat × Nat) (word : List Char) : Option (Nat × Nat) :=
  if word = "e".toList then some state
  else if word = "mil".toList then
    some (state.1 + (if state.2 = 0 then 1 else state.2) * 1000, 0)
  else if word = "milhão".toList ∨ word = "milhões".toList then
    some (state.1 + state.2 * 1000000, 0)
  else (valueIn cardinalWords word).map fun more => (state.1, state.2 + more)

def readCardinal (text : String) : Option Nat :=
  (readText cardinalStep (0, 0) text.toList).map fun state => state.1 + state.2

/-- A rendering that adds a value to the open class, whatever stands before it. -/
def Adds (rendering : Option String) (value : Nat) : Prop :=
  ∃ text, rendering = some text ∧
    ∀ total open_, Reads cardinalStep (total, open_) text (total, open_ + value)

def Listed (word : String) (value : Nat) : Prop :=
  ' ' ∉ word.toList ∧ word ∉ ["e", "mil", "milhão", "milhões"] ∧
    valueIn cardinalWords word.toList = some value

instance (word : String) (value : Nat) : Decidable (Listed word value) :=
  inferInstanceAs (Decidable (_ ∧ _ ∧ _))

theorem Listed.adds {rendering : Option String} {value : Nat}
    (listed : ∃ word, rendering = some word ∧ Listed word value) : Adds rendering value := by
  obtain ⟨word, rendered, whole, other, found⟩ := listed
  refine ⟨word, rendered, fun total open_ => (reads_word whole).mpr ?_⟩
  have apart : ∀ special ∈ ["e", "mil", "milhão", "milhões"], word.toList ≠ special.toList :=
    fun special member same => other (String.toList_injective same ▸ member)
  simp only [List.forall_mem_cons] at apart
  obtain ⟨notE, notMil, notMilhao, notMilhoes, -⟩ := apart
  rw [cardinalStep, if_neg notE, if_neg notMil, if_neg (not_or.mpr ⟨notMilhao, notMilhoes⟩), found]
  rfl

/-- Two renderings joined with `e`. -/
theorem Adds.conjoin {first second : Option String} {value more : Nat} (one : Adds first value)
    (other : Adds second more) :
    Adds (first.bind fun front => second.bind fun back => some (front ++ " e " ++ back))
      (value + more) := by
  obtain ⟨front, rfl, readFront⟩ := one
  obtain ⟨back, rfl, readBack⟩ := other
  refine ⟨_, rfl, fun total open_ => ?_⟩
  have whole : ' ' ∉ "e".toList := by decide
  have conjunction : " e " = " " ++ "e" ++ " " := rfl
  rw [← Nat.add_assoc, conjunction]
  exact (readFront total open_).conjoin whole (if_pos rfl) (readBack total (open_ + value))

theorem unit_adds (gender : Gender) {n : Nat} (positive : 1 ≤ n) (small : n ≤ 9) :
    Adds (unit n gender) n := by
  have listed : ∀ n < 10, 1 ≤ n → ∃ word, unit n gender = some word ∧ Listed word n := by
    unfold unit
    cases gender.isFeminine <;> decide
  exact Listed.adds (listed n (by omega) positive)

theorem underHundred_adds (gender : Gender) {n : Nat} (positive : 1 ≤ n) (small : n ≤ 99) :
    Adds (underHundred n gender) n := by
  have teens : ∀ i < 10, ∃ word, tenToNineteen[i]? = some word ∧ Listed word (10 + i) := by
    decide
  have multiples : ∀ i < 10, 2 ≤ i → ∃ word, tens[i]? = some word ∧ Listed word (10 * i) := by
    decide
  rw [underHundred, if_pos ⟨positive, small⟩]
  split
  · next one => exact unit_adds gender positive one
  · split
    · next teen =>
        have value : 10 + (n - 10) = n := by omega
        have listed := Listed.adds (teens (n - 10) (by omega))
        rwa [value] at listed
    · have tensWord := Listed.adds (multiples (n / 10) (by omega) (by omega))
      by_cases exact_ : n % 10 = 0
      · have value : 10 * (n / 10) = n := by omega
        obtain ⟨word, found, reads⟩ := tensWord
        rw [value] at reads
        exact ⟨word, by simp only [found, exact_, bind, Option.bind, if_true], reads⟩
      · have value : 10 * (n / 10) + n % 10 = n := by omega
        have joined := tensWord.conjoin (unit_adds gender (n := n % 10) (by omega) (by omega))
        rw [value] at joined
        simp only [exact_, if_false]
        exact joined

theorem group_adds (gender : Gender) {n : Nat} (positive : 1 ≤ n) (small : n ≤ 999) :
    Adds (group n gender) n := by
  have multiples : ∀ i < 10, 1 ≤ i → ∃ word,
      (if gender.isFeminine then hundredsF else hundredsM)[i]? = some word ∧
        Listed word (100 * i) := by
    cases gender.isFeminine <;> decide
  rw [group, if_pos ⟨positive, small⟩]
  split
  · next hundred =>
      subst hundred
      exact Listed.adds ⟨"cem", rfl, by decide⟩
  · dsimp only
    split
    · next none =>
        have value : n % 100 = n := by omega
        rw [value]
        exact underHundred_adds gender positive (by omega)
    · have hundredsWord := Listed.adds (multiples (n / 100) (by omega) (by omega))
      split
      · have value : 100 * (n / 100) = n := by omega
        rwa [value] at hundredsWord
      · have value : 100 * (n / 100) + n % 100 = n := by omega
        have joined := hundredsWord.conjoin
          (underHundred_adds gender (n := n % 100) (by omega) (by omega))
        rw [value] at joined
        exact joined

def ReadsAll : List (Nat × String) → Nat × Nat → Nat × Nat → Prop
  | [], start, final => start = final
  | (_, words) :: rest, start, final =>
      ∃ middle, Reads cardinalStep start words middle ∧ ReadsAll rest middle final

theorem ReadsAll.append {front back : List (Nat × String)} {start middle final : Nat × Nat}
    (one : ReadsAll front start middle) (other : ReadsAll back middle final) :
    ReadsAll (front ++ back) start final := by
  induction front generalizing start with
  | nil => exact one ▸ other
  | cons entry rest ih =>
      obtain ⟨next, reads, later⟩ := one
      exact ⟨next, reads, ih later⟩

/-- A class expressed by a text with this effect, or by nothing. -/
def Expresses (rendering : Option (List (Nat × String))) (start final : Nat × Nat) : Prop :=
  ∃ classes, rendering = some classes ∧ ReadsAll classes start final

theorem Expresses.one {value : Nat} {text : String} {start final : Nat × Nat}
    (reads : Reads cardinalStep start text final) :
    Expresses (some [(value, text)]) start final :=
  ⟨_, rfl, final, reads, rfl⟩

theorem millionsClass_expresses (millions : Nat) (small : millions ≤ 999) :
    Expresses (millionsClass millions) (0, 0) (millions * 1000000, 0) := by
  rw [millionsClass]
  split
  · next none =>
      subst none
      exact ⟨[], rfl, rfl⟩
  · split
    · next one =>
        subst one
        exact .one (by decide)
    · obtain ⟨text, rendered, reads⟩ := group_adds .masculine (n := millions) (by omega) small
      have spaced : " milhões" = " " ++ "milhões" := rfl
      simp only [rendered, Option.map_some, spaced, ← String.append_assoc]
      refine .one ((reads 0 0).juxtapose ((reads_word (by decide)).mpr ?_))
      rw [Nat.zero_add, cardinalStep, if_neg (by decide), if_neg (by decide), if_pos (by decide),
        Nat.zero_add]

theorem thousandsClass_expresses (gender : Gender) (thousands : Nat) (small : thousands ≤ 999)
    (total : Nat) :
    Expresses (thousandsClass thousands gender) (total, 0) (total + thousands * 1000, 0) := by
  rw [thousandsClass]
  split
  · next none =>
      subst none
      exact ⟨[], rfl, by rw [Nat.zero_mul]; rfl⟩
  · split
    · next one =>
        subst one
        refine .one ((reads_word (by decide)).mpr ?_)
        rw [cardinalStep, if_neg (by decide), if_pos rfl, if_pos rfl]
    · next some _ =>
        obtain ⟨text, rendered, reads⟩ := group_adds gender (n := thousands) (by omega) small
        have spaced : " mil" = " " ++ "mil" := rfl
        simp only [rendered, Option.map_some, spaced, ← String.append_assoc]
        refine .one ((reads total 0).juxtapose ((reads_word (by decide)).mpr ?_))
        rw [Nat.zero_add, cardinalStep, if_neg (by decide), if_pos rfl, if_neg some]

theorem unitsClass_expresses (gender : Gender) (unitsValue : Nat) (small : unitsValue ≤ 999)
    (total : Nat) : Expresses (unitsClass unitsValue gender) (total, 0) (total, unitsValue) := by
  rw [unitsClass]
  split
  · next none =>
      subst none
      exact ⟨[], rfl, rfl⟩
  · obtain ⟨text, rendered, reads⟩ := group_adds gender (n := unitsValue) (by omega) small
    rw [rendered]
    have whole := reads total 0
    rw [Nat.zero_add] at whole
    exact .one whole

theorem reads_pushClass {rest : List (Nat × String)} {start middle final : Nat × Nat}
    {out : String} {i : Nat} (last : Nat) (behind : 0 < i)
    (read : Reads cardinalStep start out middle) (reads : ReadsAll rest middle final) :
    Reads cardinalStep start ((rest.zipIdx i).foldl (pushClass last) out) final := by
  induction rest generalizing i out middle with
  | nil => exact reads ▸ read
  | cons entry rest ih =>
      obtain ⟨next, one, others⟩ := reads
      rw [List.zipIdx_cons, List.foldl_cons]
      refine ih (Nat.succ_pos i) ?_ others
      rw [pushClass, if_pos behind]
      split
      · have whole : ' ' ∉ "e".toList := by decide
        have conjunction : " e " = " " ++ "e" ++ " " := rfl
        rw [conjunction]
        exact read.conjoin whole (if_pos rfl) one
      · exact read.juxtapose one

/-- **Joined classes** are read as they stand in the row. -/
theorem reads_joinClasses {classes : List (Nat × String)} {start final : Nat × Nat}
    (reads : ReadsAll classes start final) (expressed : classes ≠ []) :
    ∃ text, joinClasses classes = some text ∧ Reads cardinalStep start text final := by
  rw [joinClasses, if_neg expressed]
  refine ⟨_, rfl, ?_⟩
  cases classes with
  | nil => exact (expressed rfl).elim
  | cons entry rest =>
      obtain ⟨next, one, others⟩ := reads
      rw [List.zipIdx_cons, List.foldl_cons]
      refine reads_pushClass _ Nat.one_pos ?_ others
      rw [pushClass, if_neg (Nat.lt_irrefl 0), String.empty_append]
      exact one

/-- **Cardinals**: every number up to the last is said, and read back. -/
theorem read_cardinal {n : Int} (least : 0 ≤ n) (most : n ≤ maxCardinal) (gender : Gender) :
    ∃ text, cardinal n gender = some (.ok text) ∧ readCardinal text = some n.toNat := by
  have bound : n ≤ 999999999 := most
  rw [cardinal, if_neg (by omega), if_neg (by omega)]
  split
  · next zero =>
      subst zero
      exact ⟨"zero", rfl, by decide⟩
  · obtain ⟨high, renderedHigh, readsHigh⟩ :=
      millionsClass_expresses (n.toNat / 1000000) (by omega)
    obtain ⟨middle, renderedMiddle, readsMiddle⟩ :=
      thousandsClass_expresses gender (n.toNat / 1000 % 1000) (by omega)
        (n.toNat / 1000000 * 1000000)
    obtain ⟨low, renderedLow, readsLow⟩ :=
      unitsClass_expresses gender (n.toNat % 1000) (by omega)
        (n.toNat / 1000000 * 1000000 + n.toNat / 1000 % 1000 * 1000)
    have row := (readsHigh.append readsMiddle).append readsLow
    have expressed : high ++ middle ++ low ≠ [] := by
      intro none
      rw [none] at row
      have parts := Prod.mk.inj row
      omega
    obtain ⟨text, joined, reads⟩ := reads_joinClasses row expressed
    refine ⟨text, ?_, ?_⟩
    · simp only [renderedHigh, renderedMiddle, renderedLow, joined, bind, Option.bind,
        Option.map_some]
    · rw [readCardinal, reads, Option.map_some]
      congr 1
      change n.toNat / 1000000 * 1000000 + n.toNat / 1000 % 1000 * 1000 + n.toNat % 1000 = n.toNat
      omega

example : cardinal 1230 .masculine = some (.ok "mil duzentos e trinta") := by decide

/-- A word brought back to the form that ends in `o`. -/
def citation (word : List Char) : List Char :=
  (if word.getLast? = some 's' then word.dropLast else word).dropLast ++ ['o']

def ordinalWords : List (String × Nat) :=
  ordUnits.zipIdx.drop 1 ++ (ordTens.zipIdx.drop 1).map (fun (word, i) => (word, 10 * i)) ++
    (ordHundreds.zipIdx.drop 1).map (fun (word, i) => (word, 100 * i)) ++ [(ordThousand, 1000)]

def ordinalStep (total : Nat) (word : List Char) : Option Nat :=
  (valueIn ordinalWords (citation word)).map (total + ·)

def readOrdinal (text : String) : Option Nat := readText ordinalStep 0 text.toList

/-- A word in its citation form that a table has a number for. -/
def Cited (table : List (String × Nat)) (word : String) (value : Nat) : Prop :=
  ' ' ∉ word.toList ∧ word.toList.getLast? = some 'o' ∧ valueIn table word.toList = some value

instance (table : List (String × Nat)) (word : String) (value : Nat) :
    Decidable (Cited table word value) :=
  inferInstanceAs (Decidable (_ ∧ _ ∧ _))

theorem oStemSuffix_mem (gender : Gender) (number : GrammaticalNumber) :
    oStemSuffix gender number ∈ ["o", "os", "a", "as"] := by
  cases gender <;> cases number <;> decide

theorem citation_append (stem : List Char) : ∀ suffix ∈ ["o", "os", "a", "as"],
    ' ' ∉ suffix.toList ∧ citation (stem ++ suffix.toList) = stem ++ ['o'] := by
  intro suffix member
  have plural (vowel : Char) : stem ++ [vowel, 's'] = stem ++ [vowel] ++ ['s'] :=
    (List.append_assoc stem [vowel] ['s']).symm
  simp only [List.mem_cons, List.not_mem_nil, or_false] at member
  rcases member with rfl | rfl | rfl | rfl
  all_goals refine ⟨by decide, ?_⟩
  · change citation (stem ++ ['o']) = _
    rw [citation, List.getLast?_concat, if_neg (by decide), List.dropLast_concat]
  · change citation (stem ++ ['o', 's']) = _
    rw [citation, plural, List.getLast?_concat, if_pos rfl, List.dropLast_concat,
      List.dropLast_concat]
  · change citation (stem ++ ['a']) = _
    rw [citation, List.getLast?_concat, if_neg (by decide), List.dropLast_concat]
  · change citation (stem ++ ['a', 's']) = _
    rw [citation, plural, List.getLast?_concat, if_pos rfl, List.dropLast_concat,
      List.dropLast_concat]

/-- **Inflection** is undone by the citation form. -/
theorem Cited.inflect {table : List (String × Nat)} {word : String} {value : Nat}
    (cited : Cited table word value) (gender : Gender) (number : GrammaticalNumber) :
    ∃ text, inflectOStem word gender number = some text ∧ ' ' ∉ text.toList ∧
      valueIn table (citation text.toList) = some value := by
  obtain ⟨whole, ends, found⟩ := cited
  obtain ⟨stem, split⟩ := List.getLast?_eq_some_iff.mp ends
  rw [inflectOStem, if_pos ends, split, List.dropLast_concat]
  rw [split] at whole found
  have blank : ' ' ∉ stem := fun member => whole (List.mem_append_left _ member)
  refine ⟨_, rfl, ?_⟩
  rw [String.toList_append, String.toList_ofList]
  obtain ⟨apart, cited⟩ := citation_append stem _ (oStemSuffix_mem gender number)
  rw [cited]
  exact ⟨fun member => (List.mem_append.mp member).elim blank apart, found⟩

def Sums : List String → Nat → Prop
  | [], value => value = 0
  | word :: rest, value =>
      ∃ first more, Cited ordinalWords word first ∧ Sums rest more ∧ value = first + more

theorem Sums.append {front back : List String} {value more : Nat} (one : Sums front value)
    (other : Sums back more) : Sums (front ++ back) (value + more) := by
  induction front generalizing value with
  | nil => rwa [show value = 0 from one, Nat.zero_add, List.nil_append]
  | cons word rest ih =>
      obtain ⟨first, others, cited, sums, rfl⟩ := one
      exact ⟨first, others + more, cited, ih sums, Nat.add_assoc first others more⟩

theorem Sums.inflect {parts : List String} {value : Nat} (sums : Sums parts value)
    (gender : Gender) (number : GrammaticalNumber) :
    ∃ inflected, parts.mapM (inflectOStem · gender number) = some inflected ∧
      inflected.length = parts.length ∧ (∀ word ∈ inflected, ' ' ∉ word.toList) ∧
      ∀ total, (inflected.map String.toList).foldlM ordinalStep total = some (total + value) := by
  induction parts generalizing value with
  | nil => exact ⟨[], rfl, rfl, fun _ absent => (List.not_mem_nil absent).elim, fun total => by
      rw [show value = 0 from sums]; rfl⟩
  | cons word rest ih =>
      obtain ⟨first, more, cited, others, rfl⟩ := sums
      obtain ⟨text, inflected, whole, found⟩ := cited.inflect gender number
      obtain ⟨texts, rendered, length, blanks, reads⟩ := ih others
      refine ⟨text :: texts, ?_, ?_, ?_, fun total => ?_⟩
      · simp only [List.mapM_cons, inflected, rendered, bind, Option.bind, pure]
      · rw [List.length_cons, List.length_cons, length]
      · exact List.forall_mem_cons.mpr ⟨whole, blanks⟩
      · rw [List.map_cons, List.foldlM_cons, ordinalStep, found, ← Nat.add_assoc]
        exact reads (total + first)

theorem digitPart_sums (table : List String) (factor digit : Nat)
    (listed : ∀ i < 10, 1 ≤ i → ∃ word, table[i]? = some word ∧
      Cited ordinalWords word (factor * i)) (small : digit < 10) :
    ∃ part, digitPart table digit = some part ∧ Sums part (factor * digit) := by
  rw [digitPart]
  split
  · next positive =>
      obtain ⟨word, found, cited⟩ := listed digit small positive
      exact ⟨[word], by rw [found]; rfl, ⟨_, 0, cited, rfl, rfl⟩⟩
  · next none =>
      have zero : digit = 0 := by omega
      exact ⟨[], rfl, by rw [zero]; rfl⟩

theorem ordinalParts_sums {n : Nat} (small : n ≤ 1999) :
    ∃ parts, ordinalParts n = some parts ∧ Sums parts n := by
  obtain ⟨hundredsPart, renderedHundreds, sumsHundreds⟩ :=
    digitPart_sums ordHundreds 100 (n % 1000 / 100) (by decide) (by omega)
  obtain ⟨tensPart, renderedTens, sumsTens⟩ :=
    digitPart_sums ordTens 10 (n % 1000 % 100 / 10) (by decide) (by omega)
  obtain ⟨unitsPart, renderedUnits, sumsUnits⟩ :=
    digitPart_sums ordUnits 1 (n % 1000 % 10) (by decide) (by omega)
  have thousand : Sums (if n ≥ 1000 then [ordThousand] else []) (1000 * (n / 1000)) := by
    split
    · have one : 1000 * (n / 1000) = 1000 + 0 := by omega
      exact ⟨1000, 0, by decide, rfl, one⟩
    · have none : 1000 * (n / 1000) = 0 := by omega
      exact none
  have sums := ((thousand.append sumsHundreds).append sumsTens).append sumsUnits
  have value : 1000 * (n / 1000) + 100 * (n % 1000 / 100) + 10 * (n % 1000 % 100 / 10) +
      1 * (n % 1000 % 10) = n := by
    omega
  rw [value] at sums
  refine ⟨_, ?_, sums⟩
  simp only [ordinalParts, renderedHundreds, renderedTens, renderedUnits, bind, Option.bind]

/-- **Ordinals**: every position up to the last is said, and read back. -/
theorem read_ordinal {n : Int} (least : 1 ≤ n) (most : n ≤ maxOrdinal) (gender : Gender)
    (number : GrammaticalNumber) :
    ∃ text, ordinal n gender number = some (.ok text) ∧ readOrdinal text = some n.toNat := by
  have bound : n ≤ 1999 := most
  obtain ⟨parts, rendered, sums⟩ := ordinalParts_sums (n := n.toNat) (by omega)
  obtain ⟨inflected, agreeing, length, blanks, reads⟩ := sums.inflect gender number
  have expressed : inflected ≠ [] := by
    rintro rfl
    have none : parts = [] := List.length_eq_zero_iff.mp length.symm
    subst none
    have zero : n.toNat = 0 := sums
    omega
  refine ⟨" ".intercalate inflected, ?_, ?_⟩
  · rw [ordinal, if_neg (by omega), if_neg (by omega), if_neg (by omega), rendered]
    simp only [agreeing, bind, Option.bind]
  · rw [readOrdinal, readText_intercalate expressed blanks, reads, Nat.zero_add]

def fractionalWords : List (String × Nat) :=
  [("meio", 2), ("terço", 3)] ++ ordinalWords ++ [(ordMillion, 1000000)]

def readFractional (text : String) : Option Nat :=
  let words := text.toList.splitOn ' '
  if words.getLast? = some "avos".toList then
    (words.dropLast.foldlM cardinalStep (0, 0)).map fun state => state.1 + state.2
  else match words with
    | [word] => valueIn fractionalWords (citation word)
    | _ => none

theorem singleWordOrdinal_cited {n : Nat} (least : 4 ≤ n) :
    ∃ word?, singleWordOrdinal n = some word? ∧
      ∀ word, word? = some word → Cited fractionalWords word n := by
  have unitWords : ∀ i < 10, 4 ≤ i → ∃ word, ordUnits[i]? = some word ∧
      Cited fractionalWords word i := by decide
  have tensWords : ∀ i < 10, 1 ≤ i → ∃ word, ordTens[i]? = some word ∧
      Cited fractionalWords word (10 * i) := by decide
  have hundredsWords : ∀ i < 10, 1 ≤ i → ∃ word, ordHundreds[i]? = some word ∧
      Cited fractionalWords word (100 * i) := by decide
  rw [singleWordOrdinal]
  split
  · obtain ⟨word, found, cited⟩ := unitWords n (by omega) least
    exact ⟨_, by rw [found]; rfl, fun _ same => Option.some.inj same ▸ cited⟩
  split
  · obtain ⟨word, found, cited⟩ := tensWords (n / 10) (by omega) (by omega)
    have value : 10 * (n / 10) = n := by omega
    rw [value] at cited
    exact ⟨_, by rw [found]; rfl, fun _ same => Option.some.inj same ▸ cited⟩
  split
  · obtain ⟨word, found, cited⟩ := hundredsWords (n / 100) (by omega) (by omega)
    have value : 100 * (n / 100) = n := by omega
    rw [value] at cited
    exact ⟨_, by rw [found]; rfl, fun _ same => Option.some.inj same ▸ cited⟩
  split
  · next thousand =>
      subst thousand
      exact ⟨_, rfl, fun _ same => Option.some.inj same ▸ by decide⟩
  split
  · next million =>
      subst million
      exact ⟨_, rfl, fun _ same => Option.some.inj same ▸ by decide⟩
  · exact ⟨none, rfl, fun word absent => (Option.some_ne_none word absent.symm).elim⟩

theorem Cited.readFractional {word : String} {n : Nat} (cited : Cited fractionalWords word n)
    (gender : Gender) (number : GrammaticalNumber) :
    ∃ text, inflectOStem word gender number = some text ∧
      Numerals.readFractional text = some n := by
  obtain ⟨text, inflected, whole, found⟩ := cited.inflect gender number
  have other : text.toList ≠ "avos".toList := by
    intro same
    have none : valueIn fractionalWords (citation "avos".toList) = none := by decide
    rw [same, none] at found
    exact Option.some_ne_none n found.symm
  refine ⟨text, inflected, ?_⟩
  rw [Numerals.readFractional, List.splitOn_eq_singleton whole]
  simp only [List.getLast?_singleton, Option.some.injEq, other, if_false]
  exact found

/-- **Fractionals**: every denominator up to the last is named, in the feminine only the
half, and read back. -/
theorem read_fractional {n : Int} (least : 2 ≤ n) (most : n ≤ maxCardinal) {gender : Gender}
    (agrees : gender = .feminine → n = 2) (number : GrammaticalNumber) :
    ∃ text, fractional n gender number = some (.ok text) ∧
      readFractional text = some n.toNat := by
  rw [fractional, if_neg (by omega), if_neg (by omega), if_neg (by omega), if_neg (by omega)]
  split
  · next half =>
      subst half
      have cited : Cited fractionalWords "meio" 2 := by decide
      obtain ⟨text, inflected, read⟩ := cited.readFractional gender number
      exact ⟨text, by rw [inflected]; rfl, read⟩
  · next other =>
      have masculine : gender.isFeminine = false := by
        cases gender with
        | feminine => exact (other (agrees rfl)).elim
        | masculine | indeterminate => rfl
      rw [masculine, if_neg Bool.false_ne_true]
      split
      · next third =>
          subst third
          have cited : Cited fractionalWords "terço" 3 := by decide
          obtain ⟨text, inflected, read⟩ := cited.readFractional gender number
          exact ⟨text, by rw [inflected]; rfl, read⟩
      · obtain ⟨word?, found, cited⟩ := singleWordOrdinal_cited (n := n.toNat) (by omega)
        cases word? with
        | some word =>
            obtain ⟨text, inflected, read⟩ := (cited word rfl).readFractional gender number
            refine ⟨text, ?_, read⟩
            simp only [found, inflected, bind, Option.bind, Option.map_some]
        | none =>
            obtain ⟨words, said, read⟩ := read_cardinal (n := n) (by omega) most .masculine
            refine ⟨words ++ " avos", ?_, ?_⟩
            · simp only [found, said, bind, Option.bind]
            · have chars : (words ++ " avos").toList = words.toList ++ ' ' :: "avos".toList :=
                String.toList_append
              have whole : ' ' ∉ "avos".toList := by decide
              rw [readFractional, chars, List.splitOn_append_cons_self,
                List.splitOn_eq_singleton whole]
              simp only [List.getLast?_concat, List.dropLast_concat, if_true]
              exact read

def InRange (n : Int) : Form → Prop
  | .cardinal => 0 ≤ n ∧ n ≤ maxCardinal
  | .ordinal => 1 ≤ n ∧ n ≤ maxOrdinal
  | .fractional => 2 ≤ n ∧ n ≤ maxCardinal
  | .multiplicative => 2 ≤ n ∧ n ≤ maxMultiplicative ∨ n = 100

theorem cardinal_error {n : Int} (outside : ¬InRange n .cardinal) (gender : Gender) :
    ∃ fault, cardinal n gender = some (.error fault) := by
  by_cases negative : n < 0
  · exact ⟨_, by rw [cardinal, if_pos negative]⟩
  · have beyond : n > maxCardinal := by
      by_contra most
      exact outside ⟨by omega, by omega⟩
    exact ⟨_, by rw [cardinal, if_neg negative, if_pos beyond]⟩

theorem inWords_error {n : Int} {form : Form} (outside : ¬InRange n form) (gender : Gender)
    (number : GrammaticalNumber) :
    ∃ fault, inWords n form gender number = some (.error fault) := by
  cases form with
  | cardinal =>
      rw [inWords]
      split
      · exact ⟨_, rfl⟩
      · exact cardinal_error outside gender
  | ordinal =>
      have apart : ¬(1 ≤ n ∧ n ≤ maxOrdinal) := outside
      rw [inWords, ordinal]
      split
      · exact ⟨_, rfl⟩
      split
      · exact ⟨_, rfl⟩
      · rw [if_pos (by omega)]
        exact ⟨_, rfl⟩
  | fractional =>
      have apart : ¬(2 ≤ n ∧ n ≤ maxCardinal) := outside
      rw [inWords, fractional]
      split
      · exact ⟨_, rfl⟩
      split
      · exact ⟨_, rfl⟩
      split
      · exact ⟨_, rfl⟩
      · rw [if_pos (by omega)]
        exact ⟨_, rfl⟩
  | multiplicative =>
      have apart : ¬(2 ≤ n ∧ n ≤ maxMultiplicative ∨ n = 100) := outside
      rw [inWords, multiplicative]
      split
      · exact ⟨_, rfl⟩
      split
      · exact ⟨_, rfl⟩
      split
      · exact ⟨_, rfl⟩
      · rw [if_neg (by omega), if_neg (by omega)]
        split
        · exact ⟨_, rfl⟩
        · exact ⟨_, rfl⟩

theorem fractional_feminine {n : Int} (other : n ≠ 2) (number : GrammaticalNumber) :
    ∃ fault, fractional n .feminine number = some (.error fault) := by
  by_cases inside : InRange n .fractional
  · obtain ⟨least, most⟩ := inside
    have feminine : Gender.feminine.isFeminine = true := rfl
    rw [fractional, if_neg (by omega), if_neg (by omega), if_neg (by omega), if_neg (by omega),
      if_neg other, if_pos feminine]
    exact ⟨_, rfl⟩
  · exact inWords_error inside .feminine number

theorem isSome_inWords (n : Int) (form : Form) (gender : Gender) (number : GrammaticalNumber) :
    (inWords n form gender number).isSome := by
  by_cases inside : InRange n form
  · cases form with
    | cardinal =>
        obtain ⟨text, said, -⟩ := read_cardinal inside.1 inside.2 gender
        rw [inWords, said]
        split <;> rfl
    | ordinal =>
        obtain ⟨text, said, -⟩ := read_ordinal inside.1 inside.2 gender number
        rw [inWords, said]
        rfl
    | fractional =>
        rw [inWords]
        by_cases agrees : gender = .feminine → n = 2
        · obtain ⟨text, said, -⟩ := read_fractional inside.1 inside.2 agrees number
          rw [said]
          rfl
        · obtain ⟨rfl, other⟩ := Classical.not_imp.mp agrees
          obtain ⟨fault, refused⟩ := fractional_feminine other number
          rw [refused]
          rfl
    | multiplicative =>
        have listed : ∀ i < 11, (multiplicatives[i]?).isSome := by decide
        have upper : maxMultiplicative = 12 := rfl
        rw [inWords, multiplicative]
        split
        · rfl
        split
        · rfl
        split
        · rfl
        split
        · rfl
        · have range : 2 ≤ n ∧ n ≤ maxMultiplicative := inside.resolve_right ‹_›
          rw [if_pos range, Option.isSome_map]
          exact listed _ (by omega)
  · obtain ⟨fault, refused⟩ := inWords_error inside gender number
    rw [refused]
    rfl

/-- **Numerals are unambiguous**: cardinals, ordinals and fractionals can be read back in
every gender and number, two cardinals are different words, and `in_words` refuses what
lies outside the range of the form, without a panic on any value. -/
theorem unambiguous :
    (∀ n : Int, 0 ≤ n → n ≤ maxCardinal → ∀ gender,
      ∃ text, cardinal n gender = some (.ok text) ∧ readCardinal text = some n.toNat) ∧
    (∀ (n other : Int) (gender otherGender : Gender) (text : String),
      cardinal n gender = some (.ok text) → cardinal other otherGender = some (.ok text) →
        n = other) ∧
    (∀ n : Int, 1 ≤ n → n ≤ maxOrdinal → ∀ gender number,
      ∃ text, ordinal n gender number = some (.ok text) ∧ readOrdinal text = some n.toNat) ∧
    (∀ n : Int, 2 ≤ n → n ≤ maxCardinal → ∀ gender number,
      (gender = .feminine → n = 2) →
        ∃ text, fractional n gender number = some (.ok text) ∧
          readFractional text = some n.toNat) ∧
    (∀ n : Int, n ≠ 2 → ∀ number text, fractional n .feminine number ≠ some (.ok text)) ∧
    ∀ (n : Int) (form : Form) (gender : Gender) (number : GrammaticalNumber),
      (inWords n form gender number).isSome ∧
        (¬InRange n form → ∃ fault, inWords n form gender number = some (.error fault)) := by
  have inside : ∀ (n : Int) (gender : Gender) (text : String),
      cardinal n gender = some (.ok text) → 0 ≤ n ∧ readCardinal text = some n.toNat := by
    intro n gender text said
    by_cases range : InRange n .cardinal
    · obtain ⟨same, again, read⟩ := read_cardinal range.1 range.2 gender
      obtain rfl := Except.ok.inj (Option.some.inj (again.symm.trans said))
      exact ⟨range.1, read⟩
    · obtain ⟨fault, refused⟩ := cardinal_error range gender
      cases refused.symm.trans said
  refine ⟨fun n least most gender => read_cardinal least most gender, ?_,
    fun n least most gender number => read_ordinal least most gender number,
    fun n least most gender number agrees => read_fractional least most agrees number, ?_,
    fun n form gender number => ⟨isSome_inWords n form gender number,
      fun outside => inWords_error outside gender number⟩⟩
  · intro n other gender otherGender text said saidOther
    obtain ⟨least, read⟩ := inside n gender text said
    obtain ⟨leastOther, readOther⟩ := inside other otherGender text saidOther
    have same := Option.some.inj (read.symm.trans readOther)
    omega
  · intro n other number text said
    obtain ⟨fault, refused⟩ := fractional_feminine other number
    cases refused.symm.trans said

end Chancela.Numerals
