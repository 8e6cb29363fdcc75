import Chancela.Crates.ReadJson
import Chancela.Foundation.JsonCodec

/-! # Indented JSON text

A writer of indented JSON text and a reader of JSON text with blanks, for the reference
implementations of `serde_json::to_vec_pretty` and `serde_json::from_slice`. What is written is
read back (`Chancela.Reference.readPretty_prettyVec`).
-/

namespace Chancela.Reference

def newLine (level : Nat) : List Char := '\n' :: List.replicate (2 * level) ' '

mutual

def prettyChars (level : Nat) : Json → List Char
  | .null => "null".toList
  | .bool value => if value then "true".toList else "false".toList
  | .num value => (toString value).toList
  | .str value => jsonString value
  | .arr [] => ['[', ']']
  | .arr (item :: rest) =>
      '[' :: (prettyItems (level + 1) true (item :: rest) ++ (newLine level ++ [']']))
  | .obj [] => ['\x7b', '\x7d']
  | .obj (field :: rest) =>
      '\x7b' :: (prettyFields (level + 1) true (field :: rest) ++ (newLine level ++ ['\x7d']))

/-- Items of a sequence, a comma before all but the first, each on a line of its own. -/
def prettyItems (level : Nat) : Bool → List Json → List Char
  | _, [] => []
  | first, item :: rest =>
      (if first then [] else [',']) ++
        (newLine level ++ (prettyChars level item ++ prettyItems level false rest))

/-- Fields of an object, a comma before all but the first, each on a line of its own. -/
def prettyFields (level : Nat) : Bool → List (String × Json) → List Char
  | _, [] => []
  | first, (key, value) :: rest =>
      (if first then [] else [',']) ++
        (newLine level ++ (jsonString key ++
          ':' :: ' ' :: (prettyChars level value ++ prettyFields level false rest)))

end

def isBlank (c : Char) : Bool := c == ' ' || c == '\n' || c == '\t' || c == '\r'

def skip (text : List Char) : List Char := text.dropWhile isBlank

mutual

/-- A value and what follows it, with fuel for the length of the text. -/
def readJson : Nat → List Char → Option (Json × List Char)
  | 0, _ => none
  | fuel + 1, text =>
      match skip text with
      | [] => none
      | 'n' :: rest => (expect "ull".toList rest).map fun rest => (.null, rest)
      | 't' :: rest => (expect "rue".toList rest).map fun rest => (.bool true, rest)
      | 'f' :: rest => (expect "alse".toList rest).map fun rest => (.bool false, rest)
      | '"' :: rest => (readChars rest).map fun read => (.str (String.ofList read.1), read.2)
      | '[' :: rest =>
          match skip rest with
          | ']' :: rest => some (.arr [], rest)
          | rest => (readItems fuel rest).map fun read => (.arr read.1, read.2)
      | '\x7b' :: rest =>
          match skip rest with
          | '\x7d' :: rest => some (.obj [], rest)
          | rest => (readFields fuel rest).map fun read => (.obj read.1, read.2)
      | c :: rest =>
          if c.isDigit then some (.num (readNat (c :: rest)).1, (readNat (c :: rest)).2) else none

def readItems : Nat → List Char → Option (List Json × List Char)
  | 0, _ => none
  | fuel + 1, text =>
      (readJson fuel text).bind fun read =>
        match skip read.2 with
        | ',' :: rest => (readItems fuel rest).map fun others => (read.1 :: others.1, others.2)
        | ']' :: rest => some ([read.1], rest)
        | _ => none

def readFields : Nat → List Char → Option (List (String × Json) × List Char)
  | 0, _ => none
  | fuel + 1, text =>
      (readString (skip text)).bind fun key =>
        match skip key.2 with
        | ':' :: rest =>
            (readJson fuel rest).bind fun read =>
              match skip read.2 with
              | ',' :: rest =>
                  (readFields fuel rest).map fun others =>
                    ((key.1, read.1) :: others.1, others.2)
              | '\x7d' :: rest => some ([(key.1, read.1)], rest)
              | _ => none
        | _ => none

end

attribute [local grind =] prettyChars prettyItems prettyFields readJson readItems readFields

/-! ### What is written is read back -/

theorem skip_newLine (level : Nat) (text : List Char) :
    skip (newLine level ++ text) = skip text := by
  have spaces : ∀ count, skip (List.replicate count ' ' ++ text) = skip text := by
    intro count
    induction count with
    | zero => rfl
    | succ count ih => exact ih
  exact spaces (2 * level)

theorem skip_cons {c : Char} (solid : isBlank c = false) (rest : List Char) :
    skip (c :: rest) = c :: rest :=
  List.dropWhile_cons_of_neg (by rw [solid]; exact Bool.false_ne_true)

theorem toString_eq_cons (n : Nat) :
    ∃ c digits, (toString (n : Int)).toList = c :: digits ∧ c.isDigit = true := by
  rw [toList_toString]
  obtain ⟨c, rest, split⟩ := List.exists_cons_of_ne_nil (Nat.toDigits_ne_nil (n := n) (b := 10))
  rw [split]
  refine ⟨c, rest, rfl, Nat.isDigit_of_mem_toDigits (n := n) (b := 10) (by decide) (by decide) ?_⟩
  rw [split]
  exact List.mem_cons_self

/-- A character that opens a value: no blank, and no closing bracket. -/
def opens (c : Char) : Bool := !isBlank c && c != ']' && c != '\x7d'

theorem opens_of_isDigit {c : Char} (digit : c.isDigit = true) : opens c = true := by
  unfold opens isBlank
  simp only [Bool.and_eq_true, Bool.not_eq_true', Bool.or_eq_false_iff, beq_eq_false_iff_ne,
    bne_iff_ne]
  refine ⟨⟨⟨⟨⟨?_, ?_⟩, ?_⟩, ?_⟩, ?_⟩, ?_⟩
  all_goals
    rintro rfl
    cases digit

theorem prettyChars_eq_cons (level : Nat) {levels : Nat} {json : Json}
    (readable : json.readable levels = true) :
    ∃ c text, prettyChars level json = c :: text ∧ opens c = true := by
  cases json with
  | null => exact ⟨'n', _, rfl, rfl⟩
  | bool value => cases value <;> exact ⟨_, _, rfl, rfl⟩
  | num value =>
      have bounds : 0 ≤ value ∧ value < 2 ^ 64 := by
        cases levels <;> exact of_decide_eq_true readable
      obtain ⟨n, rfl⟩ := Int.eq_ofNat_of_zero_le bounds.1
      obtain ⟨c, digits, same, digit⟩ := toString_eq_cons n
      exact ⟨c, digits, same, opens_of_isDigit digit⟩
  | str value => exact ⟨'"', _, rfl, rfl⟩
  | arr items => cases items <;> exact ⟨'[', _, rfl, rfl⟩
  | obj fields => cases fields <;> exact ⟨'\x7b', _, rfl, rfl⟩

theorem isBlank_of_opens {c : Char} (opening : opens c = true) : isBlank c = false := by
  unfold opens at opening
  simp only [Bool.and_eq_true, Bool.not_eq_true'] at opening
  exact opening.1.1

theorem skip_prettyChars (level : Nat) {levels : Nat} {json : Json}
    (readable : json.readable levels = true) (rest : List Char) :
    skip (prettyChars level json ++ rest) = prettyChars level json ++ rest := by
  obtain ⟨c, text, same, opening⟩ := prettyChars_eq_cons level readable
  rw [same, List.cons_append, skip_cons (isBlank_of_opens opening)]

theorem ends_prettyItems (level below : Nat) (items : List Json) (rest : List Char) :
    Ends (prettyItems level false items ++ (newLine below ++ rest)) := by
  intro c first
  cases items <;> (cases first; rfl)

theorem ends_prettyFields (level below : Nat) (fields : List (String × Json)) (rest : List Char) :
    Ends (prettyFields level false fields ++ (newLine below ++ rest)) := by
  intro c first
  cases fields <;> (cases first; rfl)

theorem skip_jsonString (text : String) (rest : List Char) :
    skip (jsonString text ++ rest) = jsonString text ++ rest :=
  skip_cons rfl _

theorem readJson_digit {fuel : Nat} {text rest : List Char} {c : Char}
    (start : skip text = c :: rest) (digit : c.isDigit = true) :
    readJson (fuel + 1) text = some (.num (readNat (c :: rest)).1, (readNat (c :: rest)).2) := by
  rw [readJson, start]
  split
  case h_8 =>
    rename_i same
    obtain ⟨rfl, rfl⟩ := List.cons.inj same
    exact if_pos digit
  all_goals
    rename_i same
    cases same <;> cases digit

theorem readJson_jsonString {fuel : Nat} {text rest : List Char} {value : String}
    (start : skip text = jsonString value ++ rest) :
    readJson (fuel + 1) text = some (.str value, rest) := by
  have read := readString_jsonString value rest
  rw [readJson, start]
  unfold jsonString at read ⊢
  obtain ⟨found, chars, same⟩ := Option.map_eq_some_iff.mp read
  obtain ⟨rfl, rfl⟩ := Prod.mk.inj same
  rw [List.cons_append]
  exact congrArg (Option.map fun read => (Json.str (String.ofList read.1), read.2)) chars

theorem readJson_bracket {fuel : Nat} {text inside : List Char} {c : Char} {chars : List Char}
    (start : skip text = '[' :: inside) (first : skip inside = c :: chars)
    (opening : opens c = true) :
    readJson (fuel + 1) text =
      (readItems fuel (c :: chars)).map fun read => (.arr read.1, read.2) := by
  rw [readJson, start]
  change (match skip inside with
    | ']' :: rest => some (Json.arr [], rest)
    | rest => (readItems fuel rest).map fun read : List Json × List Char =>
        (Json.arr read.1, read.2)) = _
  rw [first]
  split
  · rename_i same
    obtain ⟨rfl, -⟩ := List.cons.inj same
    cases opening
  · rfl

theorem readJson_brace {fuel : Nat} {text inside : List Char} {c : Char} {chars : List Char}
    (start : skip text = '\x7b' :: inside) (first : skip inside = c :: chars)
    (opening : opens c = true) :
    readJson (fuel + 1) text =
      (readFields fuel (c :: chars)).map fun read => (.obj read.1, read.2) := by
  rw [readJson, start]
  change (match skip inside with
    | '\x7d' :: rest => some (Json.obj [], rest)
    | rest => (readFields fuel rest).map fun read : List (String × Json) × List Char =>
        (Json.obj read.1, read.2)) = _
  rw [first]
  split
  · rename_i same
    obtain ⟨rfl, -⟩ := List.cons.inj same
    cases opening
  · rfl

section Steps

variable {fuel : Nat} {text between rest : List Char} {item : Json} {items : List Json}
  {key : String} {fields : List (String × Json)}

theorem readItems_last (read : readJson fuel text = some (item, between))
    (last : skip between = ']' :: rest) : readItems (fuel + 1) text = some ([item], rest) := by
  rw [readItems, read, Option.bind_some]
  dsimp only
  rw [last]
  rfl

theorem readItems_more {others : List Char} (read : readJson fuel text = some (item, between))
    (more : skip between = ',' :: others) (onward : readItems fuel others = some (items, rest)) :
    readItems (fuel + 1) text = some (item :: items, rest) := by
  rw [readItems, read, Option.bind_some]
  dsimp only
  rw [more]
  exact congrArg (Option.map fun others : List Json × List Char =>
    (item :: others.1, others.2)) onward

theorem readFields_last {value : List Char} (start : skip text = jsonString key ++ ':' :: value)
    (read : readJson fuel value = some (item, between)) (last : skip between = '\x7d' :: rest) :
    readFields (fuel + 1) text = some ([(key, item)], rest) := by
  rw [readFields, start, readString_jsonString, Option.bind_some]
  dsimp only
  rw [skip_cons rfl]
  change (readJson fuel value).bind _ = _
  rw [read, Option.bind_some]
  dsimp only
  rw [last]
  rfl

theorem readFields_more {value others : List Char}
    (start : skip text = jsonString key ++ ':' :: value)
    (read : readJson fuel value = some (item, between)) (more : skip between = ',' :: others)
    (onward : readFields fuel others = some (fields, rest)) :
    readFields (fuel + 1) text = some ((key, item) :: fields, rest) := by
  rw [readFields, start, readString_jsonString, Option.bind_some]
  dsimp only
  rw [skip_cons rfl]
  change (readJson fuel value).bind _ = _
  rw [read, Option.bind_some]
  dsimp only
  rw [more]
  exact congrArg (Option.map fun others : List (String × Json) × List Char =>
    ((key, item) :: others.1, others.2)) onward

end Steps

mutual

/-- **A value is read back.** -/
theorem readJson_prettyChars (level fuel levels : Nat) (json : Json) (text rest : List Char)
    (readable : json.readable levels = true) (enough : (prettyChars level json).length ≤ fuel)
    (ends : Ends rest) (start : skip text = prettyChars level json ++ rest) :
    readJson fuel text = some (json, rest) := by
  obtain ⟨c, chars, same, -⟩ := prettyChars_eq_cons level readable
  cases fuel with
  | zero =>
      rw [same] at enough
      cases enough
  | succ fuel =>
      cases json with
      | null =>
          rw [readJson, start]
          rfl
      | bool value =>
          rw [readJson, start]
          cases value <;> rfl
      | num value =>
          have bounds : 0 ≤ value ∧ value < 2 ^ 64 := by
            cases levels <;> exact of_decide_eq_true readable
          obtain ⟨n, rfl⟩ := Int.eq_ofNat_of_zero_le bounds.1
          obtain ⟨c, digits, same, digit⟩ := toString_eq_cons n
          have read := readNat_of_ends n ends
          rw [prettyChars, same, List.cons_append] at start
          rw [same, List.cons_append] at read
          rw [readJson_digit start digit, read]
      | str value => exact readJson_jsonString start
      | arr items =>
          cases items with
          | nil =>
              rw [readJson, start]
              rfl
          | cons item items =>
              cases levels with
              | zero => cases readable
              | succ levels =>
                  have head := List.all_eq_true.mp readable item List.mem_cons_self
                  obtain ⟨c, chars, opened, opening⟩ := prettyChars_eq_cons (level + 1) head
                  have first : skip (prettyItems (level + 1) true (item :: items) ++
                      (newLine level ++ ']' :: rest)) = c :: (chars ++
                        (prettyItems (level + 1) false items ++
                          (newLine level ++ ']' :: rest))) := by
                    rw [prettyItems, if_pos rfl, List.nil_append, List.append_assoc, skip_newLine,
                      List.append_assoc, skip_prettyChars _ head, opened, List.cons_append]
                  have start : skip text = '[' :: (prettyItems (level + 1) true (item :: items) ++
                      (newLine level ++ ']' :: rest)) := by
                    rw [start, prettyChars, List.cons_append, List.append_assoc, List.append_assoc]
                    rfl
                  have inside : (prettyItems (level + 1) true (item :: items)).length ≤ fuel := by
                    rw [prettyChars, List.length_cons, List.length_append] at enough
                    omega
                  rw [readJson_bracket start first opening,
                    readItems_prettyItems (level + 1) level fuel levels (item :: items) _ rest
                      (List.cons_ne_nil _ _) readable inside]
                  · rfl
                  · rw [first, skip_cons (isBlank_of_opens opening)]
      | obj fields =>
          cases fields with
          | nil =>
              rw [readJson, start]
              rfl
          | cons field fields =>
              cases levels with
              | zero => cases readable
              | succ levels =>
                  obtain ⟨key, value⟩ := field
                  have first : skip (prettyFields (level + 1) true ((key, value) :: fields) ++
                      (newLine level ++ '\x7d' :: rest)) = jsonString key ++
                        (':' :: ' ' :: (prettyChars (level + 1) value ++
                          (prettyFields (level + 1) false fields ++
                            (newLine level ++ '\x7d' :: rest)))) := by
                    rw [prettyFields, if_pos rfl, List.nil_append, List.append_assoc, skip_newLine,
                      List.append_assoc, skip_jsonString]
                    simp only [List.cons_append, List.append_assoc]
                  have start : skip text = '\x7b' :: (prettyFields (level + 1) true
                      ((key, value) :: fields) ++ (newLine level ++ '\x7d' :: rest)) := by
                    rw [start, prettyChars, List.cons_append, List.append_assoc, List.append_assoc]
                    rfl
                  have inside : (prettyFields (level + 1) true ((key, value) :: fields)).length ≤
                      fuel := by
                    rw [prettyChars, List.length_cons, List.length_append] at enough
                    omega
                  rw [readJson_brace start first rfl,
                    readFields_prettyFields (level + 1) level fuel levels ((key, value) :: fields) _
                      rest (List.cons_ne_nil _ _) readable inside]
                  · rfl
                  · exact (skip_jsonString key _).trans first.symm

theorem readItems_prettyItems (level below fuel levels : Nat) (items : List Json)
    (text rest : List Char) (inhabited : items ≠ [])
    (readable : items.all (Json.readable levels) = true)
    (enough : (prettyItems level true items).length ≤ fuel)
    (start : skip text = skip (prettyItems level true items ++ (newLine below ++ ']' :: rest))) :
    readItems fuel text = some (items, rest) := by
  cases items with
  | nil => exact (inhabited rfl).elim
  | cons item items =>
      rw [List.all_cons, Bool.and_eq_true] at readable
      rw [prettyItems, if_pos rfl, List.nil_append] at start enough
      rw [List.append_assoc, skip_newLine, List.append_assoc,
        skip_prettyChars _ readable.1] at start
      rw [List.length_append, List.length_append, newLine, List.length_cons] at enough
      cases fuel with
      | zero => omega
      | succ fuel =>
          have read := readJson_prettyChars level fuel levels item text _ readable.1 (by omega)
            (ends_prettyItems level below items _) start
          cases items with
          | nil =>
              apply readItems_last read
              rw [prettyItems, List.nil_append, skip_newLine, skip_cons rfl]
          | cons next items =>
              have comma : skip (prettyItems level false (next :: items) ++
                  (newLine below ++ ']' :: rest)) =
                    ',' :: (prettyItems level true (next :: items) ++
                    (newLine below ++ ']' :: rest)) := skip_cons rfl _
              have shorter : (prettyItems level false (next :: items)).length =
                  (prettyItems level true (next :: items)).length + 1 := rfl
              exact readItems_more read comma (readItems_prettyItems level below fuel levels
                (next :: items) _ rest (List.cons_ne_nil _ _) readable.2 (by omega) rfl)

theorem readFields_prettyFields (level below fuel levels : Nat) (fields : List (String × Json))
    (text rest : List Char) (inhabited : fields ≠ [])
    (readable : fields.all (fun field => Json.readable levels field.2) = true)
    (enough : (prettyFields level true fields).length ≤ fuel)
    (start : skip text = skip (prettyFields level true fields ++
      (newLine below ++ '\x7d' :: rest))) :
    readFields fuel text = some (fields, rest) := by
  cases fields with
  | nil => exact (inhabited rfl).elim
  | cons field fields =>
      obtain ⟨key, value⟩ := field
      rw [List.all_cons, Bool.and_eq_true] at readable
      rw [prettyFields, if_pos rfl, List.nil_append] at start enough
      rw [List.append_assoc, skip_newLine, List.append_assoc, skip_jsonString] at start
      rw [List.length_append, List.length_append, newLine, List.length_cons, List.length_cons,
        List.length_cons, List.length_append] at enough
      simp only [List.cons_append, List.append_assoc] at start
      cases fuel with
      | zero => omega
      | succ fuel =>
          have read :=
            readJson_prettyChars level fuel levels value (' ' :: (prettyChars level value ++
            (prettyFields level false fields ++ (newLine below ++ '\x7d' :: rest)))) _ readable.1
            (by omega) (ends_prettyFields level below fields ('\x7d' :: rest))
            (skip_prettyChars level readable.1 _)
          cases fields with
          | nil =>
              apply readFields_last start read
              rw [prettyFields, List.nil_append, skip_newLine, skip_cons rfl]
          | cons next fields =>
              have comma : skip (prettyFields level false (next :: fields) ++
                  (newLine below ++ '\x7d' :: rest)) = ',' :: (prettyFields level true
                    (next :: fields) ++ (newLine below ++ '\x7d' :: rest)) := skip_cons rfl _
              have shorter : (prettyFields level false (next :: fields)).length =
                  (prettyFields level true (next :: fields)).length + 1 := rfl
              exact readFields_more start read comma (readFields_prettyFields level below fuel
                levels (next :: fields) _ rest (List.cons_ne_nil _ _) readable.2 (by omega) rfl)

end

/-- `serde_json::to_vec_pretty`. -/
def prettyVec (json : Json) : List UInt8 := Text.utf8 (String.ofList (prettyChars 0 json))

/-- `serde_json::from_slice`, of a whole text. -/
def readPretty (bytes : List UInt8) : Option Json :=
  (readUtf8 bytes).bind fun text =>
    (readJson text.toList.length text.toList).bind fun read =>
      if skip read.2 = [] then some read.1 else none

/-- **Indented text is read back.** -/
theorem readPretty_prettyVec {levels : Nat} {json : Json} (readable : json.readable levels = true) :
    readPretty (prettyVec json) = some json := by
  have start : skip (prettyChars 0 json) = prettyChars 0 json ++ [] := by
    rw [← skip_prettyChars 0 readable, List.append_nil]
  have read := readJson_prettyChars 0 _ levels json _ [] readable le_rfl
    (by intro c first; cases first) start
  rw [readPretty, prettyVec, readUtf8_utf8, Option.bind_some, String.toList_ofList, read,
    Option.bind_some]
  rfl

/-! ### The length of the text -/

mutual

def letters : Json → Nat
  | .str value => value.length
  | .arr items => lettersOfItems items
  | .obj fields => lettersOfFields fields
  | .null | .bool _ | .num _ => 0

def lettersOfItems : List Json → Nat
  | [] => 0
  | item :: rest => letters item + lettersOfItems rest

def lettersOfFields : List (String × Json) → Nat
  | [] => 0
  | (_, value) :: rest => letters value + lettersOfFields rest

end

attribute [local grind =] letters lettersOfItems lettersOfFields

theorem length_mul_le_lettersOfItems {least : Nat} {items : List Json}
    (all : ∀ item ∈ items, least ≤ letters item) : items.length * least ≤ lettersOfItems items := by
  induction items with
  | nil => exact (Nat.zero_mul least).le
  | cons item items ih =>
      have head := all item List.mem_cons_self
      have tail := ih fun other member => all other (List.mem_cons_of_mem item member)
      rw [List.length_cons, Nat.succ_mul, lettersOfItems, Nat.add_comm]
      exact Nat.add_le_add head tail

theorem length_le_flatMap {α β : Type} {emit : α → List β} (some_ : ∀ item, 1 ≤ (emit item).length)
    (items : List α) : items.length ≤ (items.flatMap emit).length := by
  induction items with
  | nil => exact le_rfl
  | cons item items ih =>
      have one := some_ item
      rw [List.flatMap_cons, List.length_append, List.length_cons]
      omega

theorem length_le_jsonString (text : String) : text.length ≤ (jsonString text).length := by
  have one : ∀ c, 1 ≤ (jsonChar c).length := by
    intro c
    unfold jsonChar
    repeat' split
    all_goals simp
  have inside := length_le_flatMap one text.toList
  rw [jsonString, List.length_cons, List.length_append]
  rw [String.length_toList] at inside
  omega

mutual

theorem letters_le (level : Nat) (json : Json) :
    letters json ≤ (prettyChars level json).length := by
  cases json with
  | null | bool _ | num _ => exact Nat.zero_le _
  | str value => exact length_le_jsonString value
  | arr items =>
      cases items with
      | nil => exact Nat.zero_le _
      | cons item items =>
          have inside := lettersOfItems_le (level + 1) true (item :: items)
          rw [letters, prettyChars, List.length_cons, List.length_append]
          omega
  | obj fields =>
      cases fields with
      | nil => exact Nat.zero_le _
      | cons field fields =>
          have inside := lettersOfFields_le (level + 1) true (field :: fields)
          rw [letters, prettyChars, List.length_cons, List.length_append]
          omega

theorem lettersOfItems_le (level : Nat) (first : Bool) (items : List Json) :
    lettersOfItems items ≤ (prettyItems level first items).length := by
  cases items with
  | nil => exact Nat.zero_le _
  | cons item items =>
      have head := letters_le level item
      have tail := lettersOfItems_le level false items
      rw [lettersOfItems, prettyItems, List.length_append, List.length_append, List.length_append]
      omega

theorem lettersOfFields_le (level : Nat) (first : Bool) (fields : List (String × Json)) :
    lettersOfFields fields ≤ (prettyFields level first fields).length := by
  cases fields with
  | nil => exact Nat.zero_le _
  | cons field fields =>
      obtain ⟨key, value⟩ := field
      have head := letters_le level value
      have tail := lettersOfFields_le level false fields
      rw [lettersOfFields, prettyFields]
      simp only [List.length_append, List.length_cons]
      omega

end

theorem letters_le_prettyVec (json : Json) : letters json ≤ (prettyVec json).length := by
  have one : ∀ c : Char, 1 ≤ (String.utf8EncodeChar c).length := by
    intro c
    rw [String.length_utf8EncodeChar]
    exact c.utf8Size_pos
  have bytes := length_le_flatMap one (prettyChars 0 json)
  rw [prettyVec, Text.utf8_eq_flatMap, String.toList_ofList]
  exact (letters_le 0 json).trans bytes

/-! ### UUIDs -/

/-- The number of hexadecimal digits, most significant first. -/
def hexNumber (digits : List Char) : Nat := digits.foldl (fun n c => n * 16 + hexValue c) 0

/-- `Uuid::parse_str`, of the hyphenated form. -/
def parseUuidStr (text : String) : Option Uuid :=
  let uuid : Uuid := ⟨BitVec.ofNat 128 (hexNumber (text.toList.filter (· ≠ '-')))⟩
  if uuid.display = text then some uuid else none

theorem foldl_hexByte_bigEndian (width number lead : Nat) :
    ((Framing.bigEndian width number).flatMap Text.hexByte).foldl
      (fun n c => n * 16 + hexValue c) lead = lead * 256 ^ width + number % 256 ^ width := by
  have digit : ∀ n < 16, hexValue (Text.hexDigit n) = n := by decide
  induction width generalizing number with
  | zero =>
      rw [Nat.pow_zero, Nat.mod_one]
      exact (Nat.mul_one lead).symm
  | succ width ih =>
      have byte : (UInt8.ofNat number).toNat = number % 256 := by simp
      have last : ∀ n, ([UInt8.ofNat number].flatMap Text.hexByte).foldl
          (fun n c => n * 16 + hexValue c) n = n * 256 + number % 256 := by
        intro n
        have high := digit ((UInt8.ofNat number).toNat / 16) (by omega)
        have low := digit ((UInt8.ofNat number).toNat % 16) (by omega)
        change (n * 16 + hexValue _) * 16 + hexValue _ = _
        rw [high, low, byte]
        omega
      rw [Framing.bigEndian, List.flatMap_append, List.foldl_append, ih, last, Nat.pow_succ',
        Nat.mod_mul, Nat.add_mul, Nat.mul_assoc lead, Nat.mul_comm (256 ^ width) 256]
      omega

theorem filter_display (uuid : Uuid) :
    uuid.display.toList.filter (· ≠ '-') = uuid.bytes.flatMap Text.hexByte := by
  have digit : ∀ n < 16, Text.hexDigit n ≠ '-' := by decide
  have all : ∀ start count, (uuid.group start count).filter (· ≠ '-') = uuid.group start count := by
    intro start count
    refine List.filter_eq_self.mpr fun c member => decide_eq_true ?_
    obtain ⟨byte, -, member⟩ := List.mem_flatMap.mp member
    have small := byte.toNat_lt
    rcases List.mem_pair.mp member with rfl | rfl
    · exact digit _ (by omega)
    · exact digit _ (by omega)
  rw [Uuid.display, String.toList_ofList]
  simp only [List.filter_append, List.filter_cons_of_neg, ne_eq, not_true_eq_false, decide_false,
    Bool.false_eq_true, not_false_eq_true] at all ⊢
  rw [all, all, all, all, all]
  conv_rhs => rw [uuid.bytes_eq_append]
  simp only [List.flatMap_append]
  rfl

theorem parseUuidStr_display (uuid : Uuid) : parseUuidStr uuid.display = some uuid := by
  have number : hexNumber (uuid.display.toList.filter (· ≠ '-')) = uuid.bits.toNat := by
    rw [filter_display, hexNumber, Uuid.bytes, foldl_hexByte_bigEndian, Nat.zero_mul, Nat.zero_add]
    exact Nat.mod_eq_of_lt (by simpa using uuid.bits.isLt)
  unfold parseUuidStr
  rw [number, BitVec.ofNat_toNat, BitVec.setWidth_eq]
  exact if_pos rfl

end Chancela.Reference
