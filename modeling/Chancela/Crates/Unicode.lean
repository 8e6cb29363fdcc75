import Chancela.Foundation.Text

/-! # Unicode tables

The character data the program takes from `unicode-normalization` and from the tables
behind `char`. They are a parameter of the development; results use the documented
facts stated as fields of `Chancela.Unicode`.
-/

namespace Chancela

/-- The character tables of a Unicode version. -/
class Unicode where
  /-- `UnicodeNormalization::nfkd`. -/
  nfkd : List Char → List Char
  /-- `char::to_lowercase`. -/
  toLowercase : Char → List Char
  /-- `unicode_normalization::char::is_combining_mark`. -/
  isCombiningMark : Char → Bool
  /-- `char::is_alphanumeric`. -/
  isAlphanumeric : Char → Bool
  /-- A space is neither alphabetic nor numeric. -/
  isAlphanumeric_space : isAlphanumeric ' ' = false

export Unicode (nfkd toLowercase isCombiningMark isAlphanumeric)

namespace Reference

/-- The tables on ASCII, which decomposes to itself and has no combining mark. -/
scoped instance unicode : Unicode where
  nfkd := id
  toLowercase c := [c.toLower]
  isCombiningMark _ := false
  isAlphanumeric := Char.isAlphanum
  isAlphanumeric_space := rfl

end Reference

end Chancela
