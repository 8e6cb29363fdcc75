import Chancela.Foundation.Wording

/-! # Portuguese numerals

A number in words: the cardinals up to 999 999 999, the ordinals up to 1 999, the names of
denominators and the multiplicatives. `none` stands where the code panics, at an index
beyond a table or an assertion that fails. The words are unambiguous: each form can be
read back (`Chancela.Numerals.unambiguous`).
-/

namespace Chancela.Numerals

open Wording

def maxCardinal : Int := 999999999

def maxOrdinal : Int := 1999

def maxMultiplicative : Int := 12

inductive Form where
  | cardinal
  | ordinal
  | fractional
  | multiplicative
deriving DecidableEq

inductive Gender where
  | masculine
  | feminine
  | indeterminate
deriving DecidableEq

def Gender.isFeminine : Gender → Bool
  | .feminine => true
  | _ => false

inductive GrammaticalNumber where
  | singular
  | plural
deriving DecidableEq

inductive NumeralError where
  | negative (value : Int) (form : Form)
  | outOfRange (value : Int) (form : Form) (min max : Int) (reason : String)
  | noSuchNumeral (value : Int) (form : Form) (reason : String)
  | genderNotInflected (value : Int) (form : Form) (reason : String)
  | numberNotInflected (form : Form) (reason : String)
deriving DecidableEq

/-- What a rendering gives: `none` is a panic. -/
abbrev Rendering := Option (Except NumeralError String)

def units : List String :=
  ["zero", "um", "dois", "três", "quatro", "cinco", "seis", "sete", "oito", "nove"]

def tenToNineteen : List String :=
  ["dez", "onze", "doze", "treze", "catorze", "quinze", "dezasseis", "dezassete", "dezoito",
    "dezanove"]

def tens : List String :=
  ["", "", "vinte", "trinta", "quarenta", "cinquenta", "sessenta", "setenta", "oitenta",
    "noventa"]

def hundredsM : List String :=
  ["", "cento", "duzentos", "trezentos", "quatrocentos", "quinhentos", "seiscentos",
    "setecentos", "oitocentos", "novecentos"]

def hundredsF : List String :=
  ["", "cento", "duzentas", "trezentas", "quatrocentas", "quinhentas", "seiscentas",
    "setecentas", "oitocentas", "novecentas"]

def ordUnits : List String :=
  ["", "primeiro", "segundo", "terceiro", "quarto", "quinto", "sexto", "sétimo", "oitavo",
    "nono"]

def ordTens : List String :=
  ["", "décimo", "vigésimo", "trigésimo", "quadragésimo", "quinquagésimo", "sexagésimo",
    "septuagésimo", "octogésimo", "nonagésimo"]

def ordHundreds : List String :=
  ["", "centésimo", "ducentésimo", "trecentésimo", "quadringentésimo", "quingentésimo",
    "sexcentésimo", "septingentésimo", "octingentésimo", "nongentésimo"]

def ordThousand : String := "milésimo"

def ordMillion : String := "milionésimo"

def multiplicatives : List String :=
  ["dobro", "triplo", "quádruplo", "quíntuplo", "sêxtuplo", "sétuplo", "óctuplo", "nónuplo",
    "décuplo", "undécuplo", "duodécuplo"]

def centuple : String := "cêntuplo"

def unit (n : Nat) (gender : Gender) : Option String :=
  match n, gender.isFeminine with
  | 1, true => some "uma"
  | 2, true => some "duas"
  | n, _ => units[n]?

def underHundred (n : Nat) (gender : Gender) : Option String :=
  if 1 ≤ n ∧ n ≤ 99 then
    if n ≤ 9 then unit n gender
    else if n ≤ 19 then tenToNineteen[n - 10]?
    else do
      let tensWord ← tens[n / 10]?
      if n % 10 = 0 then some tensWord
      else do
        let unitWord ← unit (n % 10) gender
        some (tensWord ++ " e " ++ unitWord)
  else none

/-- `group`, of one class of three digits. -/
def group (n : Nat) (gender : Gender) : Option String :=
  if 1 ≤ n ∧ n ≤ 999 then
    if n = 100 then some "cem"
    else
      let hundreds := n / 100
      let rest := n % 100
      let table := if gender.isFeminine then hundredsF else hundredsM
      if hundreds = 0 then underHundred rest gender
      else if rest = 0 then table[hundreds]?
      else do
        let hundredsWord ← table[hundreds]?
        let restWords ← underHundred rest gender
        some (hundredsWord ++ " e " ++ restWords)
  else none

def millionsClass (millions : Nat) : Option (List (Nat × String)) :=
  if millions = 0 then some []
  else if millions = 1 then some [(millions, "um milhão")]
  else (group millions .masculine).map fun words => [(millions, words ++ " milhões")]

def thousandsClass (thousands : Nat) (gender : Gender) : Option (List (Nat × String)) :=
  if thousands = 0 then some []
  else if thousands = 1 then some [(thousands, "mil")]
  else (group thousands gender).map fun words => [(thousands, words ++ " mil")]

def unitsClass (unitsValue : Nat) (gender : Gender) : Option (List (Nat × String)) :=
  if unitsValue = 0 then some []
  else (group unitsValue gender).map fun words => [(unitsValue, words)]

/-- One turn of the loop over the classes: the last is joined with `e` where its value is
below one hundred or a multiple of it. -/
def pushClass (last : Nat) (out : String) : (Nat × String) × Nat → String
  | ((value, words), i) =>
      if i > 0 then
        out ++ (if i = last ∧ (value < 100 ∨ value % 100 = 0) then " e " else " ") ++ words
      else out ++ words

def joinClasses (classes : List (Nat × String)) : Option String :=
  if classes = [] then none
  else some (classes.zipIdx.foldl (pushClass (classes.length - 1)) "")

def cardinal (n : Int) (gender : Gender) : Rendering :=
  let form := Form.cardinal
  if n < 0 then some (.error (.negative n form))
  else if n > maxCardinal then
    some (.error (.outOfRange n form 0 maxCardinal
      ("support stops below 1 000 000 000 because pt-PT's long scale (`bilião` = " ++
        "10¹²) and pt-BR's short scale (`bilhão` = 10⁹) name different magnitudes " ++
        "there, and rendering either would silently pick a scale")))
  else if n = 0 then units[0]?.map .ok
  else do
    let n := n.toNat
    let millions := n / 1000000
    let thousands := n / 1000 % 1000
    let unitsValue := n % 1000
    let high ← millionsClass millions
    let middle ← thousandsClass thousands gender
    let low ← unitsClass unitsValue gender
    (joinClasses (high ++ middle ++ low)).map .ok

/-- What `inflect_o_stem` puts behind the stem. -/
def oStemSuffix (gender : Gender) (number : GrammaticalNumber) : String :=
  match gender.isFeminine, number with
  | false, .singular => "o"
  | false, .plural => "os"
  | true, .singular => "a"
  | true, .plural => "as"

/-- `inflect_o_stem`, of a word that ends in `o`. -/
def inflectOStem (word : String) (gender : Gender) (number : GrammaticalNumber) :
    Option String :=
  if word.toList.getLast? = some 'o' then
    some (String.ofList word.toList.dropLast ++ oStemSuffix gender number)
  else none

/-- The part of an ordinal for one digit: none for a zero. -/
def digitPart (table : List String) (digit : Nat) : Option (List String) :=
  if digit > 0 then table[digit]?.map ([·]) else some []

/-- The parts of an ordinal: the thousand, and what stands in the tables. -/
def ordinalParts (n : Nat) : Option (List String) := do
  let thousand := if n ≥ 1000 then [ordThousand] else []
  let rest := n % 1000
  let hundreds ← digitPart ordHundreds (rest / 100)
  let tens ← digitPart ordTens (rest % 100 / 10)
  let units ← digitPart ordUnits (rest % 10)
  some (thousand ++ hundreds ++ tens ++ units)

def ordinal (n : Int) (gender : Gender) (number : GrammaticalNumber) : Rendering :=
  let form := Form.ordinal
  if n < 0 then some (.error (.negative n form))
  else if n = 0 then
    some (.error (.noSuchNumeral 0 form
      ("ordinals name a position in a sequence and Portuguese sequences start at " ++
        "`primeiro` — there is no zeroth")))
  else if n > maxOrdinal then
    some (.error (.outOfRange n form 1 maxOrdinal
      ("from 2000.º the pt form is unsettled — `dois milésimo`, `dois milésimos` and " ++
        "`segundo milésimo` are all attested, and this library will not pick one for a " ++
        "signed instrument")))
  else do
    let parts ← ordinalParts n.toNat
    let inflected ← parts.mapM (inflectOStem · gender number)
    some (.ok (" ".intercalate inflected))

def singleWordOrdinal (n : Nat) : Option (Option String) :=
  if 1 ≤ n ∧ n ≤ 9 then ordUnits[n]?.map some
  else if n < 100 ∧ n % 10 = 0 then ordTens[n / 10]?.map some
  else if n < 1000 ∧ n % 100 = 0 then ordHundreds[n / 100]?.map some
  else if n = 1000 then some (some ordThousand)
  else if n = 1000000 then some (some ordMillion)
  else some none

def fractional (n : Int) (gender : Gender) (number : GrammaticalNumber) : Rendering :=
  let form := Form.fractional
  if n < 0 then some (.error (.negative n form))
  else if n = 0 then
    some (.error (.noSuchNumeral 0 form "a denominator of zero is not a fraction"))
  else if n = 1 then
    some (.error (.noSuchNumeral 1 form
      ("1/1 is the whole, not a fraction — Portuguese has no fracionário for one; " ++
        "write `inteiro` or the quantity itself")))
  else if n > maxCardinal then
    some (.error (.outOfRange n form 2 maxCardinal
      "the `avos` form is built on the cardinal, so it inherits the cardinal range"))
  else if n = 2 then (inflectOStem "meio" gender number).map .ok
  else if gender.isFeminine then
    some (.error (.genderNotInflected n form
      ("every fractional but `meio`/`meia` is a masculine noun and keeps the " ++
        "masculine whatever it counts (`dois terços das ações`); drop `gender`, or " ++
        "write `metade` literally if that is what you meant")))
  else if n = 3 then (inflectOStem "terço" gender number).map .ok
  else do
    match ← singleWordOrdinal n.toNat with
    | some word => (inflectOStem word gender number).map .ok
    | none =>
        match ← cardinal n .masculine with
        | .ok words => some (.ok (words ++ " avos"))
        | .error fault => some (.error fault)

def multiplicative (n : Int) (gender : Gender) (number : GrammaticalNumber) : Rendering :=
  let form := Form.multiplicative
  if n < 0 then some (.error (.negative n form))
  else if gender.isFeminine then
    some (.error (.genderNotInflected n form
      ("the substantive multiplicatives are invariable masculine nouns (`o dobro da " ++
        "caução`); the inflecting adjectival series (`dupla`, `tríplice`) is a " ++
        "different word set and is not served here")))
  else if number = .plural then
    some (.error (.numberNotInflected form "the substantive multiplicatives are invariable"))
  else if n = 100 then some (.ok centuple)
  else if 2 ≤ n ∧ n ≤ maxMultiplicative then multiplicatives[n.toNat - 2]?.map .ok
  else if n = 0 ∨ n = 1 then
    some (.error (.noSuchNumeral n form
      ("the multiplicative series starts at `dobro` (2) — multiplying by one or zero " ++
        "has no multiplicative numeral")))
  else
    some (.error (.noSuchNumeral n form
      ("the series is closed at `duodécuplo` (12) with `cêntuplo` (100) standing " ++
        "alone; there is no Portuguese word here to coin")))

def inWords (n : Int) (form : Form) (gender : Gender) (number : GrammaticalNumber) :
    Rendering :=
  match form with
  | .cardinal =>
      if number = .plural then
        some (.error (.numberNotInflected form
          ("`mil` is invariable and `milhão`/`milhões` follows the value itself, " ++
            "so a cardinal has no plural to select")))
      else cardinal n gender
  | .ordinal => ordinal n gender number
  | .fractional => fractional n gender number
  | .multiplicative => multiplicative n gender number

end Chancela.Numerals
