import Chancela.Foundation.Json
import Mathlib.Algebra.Group.Nat.Defs

/-! # Values read back from JSON

What a derived deserializer makes of a value: a struct is read from an object whose keys it
knows and meets once, an absent field takes its default where it has one, and an absent or
null field is no value where it may be missing. A codec reads back what it writes
(`Chancela.JsonCodec.decode_encode`).
-/

namespace Chancela

namespace Json

/-- A value that nests no deeper than so many levels, with numbers of at most 64 bits. -/
def readable : Nat → Json → Bool
  | _, .null | _, .bool _ | _, .str _ => true
  | _, .num value => decide (0 ≤ value ∧ value < 2 ^ 64)
  | 0, .arr _ | 0, .obj _ => false
  | levels + 1, .arr items => items.all (readable levels)
  | levels + 1, .obj fields => fields.all fun field => readable levels field.2

theorem readable_of_le {levels more : Nat} {json : Json} (deeper : levels ≤ more)
    (readable : json.readable levels = true) : json.readable more = true := by
  induction levels generalizing json more with
  | zero => cases json <;> first | cases more <;> exact readable | cases readable
  | succ levels ih =>
      cases more with
      | zero => omega
      | succ more =>
          have inside : levels ≤ more := by omega
          cases json with
          | null | bool _ | str _ | num _ => exact readable
          | arr items =>
              refine List.all_eq_true.mpr fun item member => ?_
              exact ih inside (List.all_eq_true.mp readable item member)
          | obj fields =>
              refine List.all_eq_true.mpr fun field member => ?_
              exact ih inside (List.all_eq_true.mp readable field member)

end Json

/-- Types that are written as JSON, never as `null`, and read back. -/
class JsonCodec (α : Type*) where
  encode : α → Json
  decode : Json → Option α
  levels : Nat
  decode_encode : ∀ value, decode (encode value) = some value
  encode_ne_null : ∀ value, encode value ≠ .null
  readable_encode : ∀ value, (encode value).readable levels = true

export JsonCodec (encode decode)

attribute [simp] JsonCodec.decode_encode

variable {α : Type*} [JsonCodec α]

theorem JsonCodec.readable_of_le (value : α) {more : Nat} (deeper : JsonCodec.levels α ≤ more) :
    (encode value).readable more = true :=
  Json.readable_of_le deeper (JsonCodec.readable_encode value)

/-! ### Scalars and sequences -/

instance : JsonCodec String where
  encode := .str
  decode
    | .str value => some value
    | _ => none
  levels := 0
  decode_encode _ := rfl
  encode_ne_null _ same := by cases same
  readable_encode _ := rfl

instance : JsonCodec Bool where
  encode := .bool
  decode
    | .bool value => some value
    | _ => none
  levels := 0
  decode_encode _ := rfl
  encode_ne_null _ same := by cases same
  readable_encode _ := rfl

def decodeBelow (bound : Nat) : Json → Option Nat
  | .num value => if 0 ≤ value ∧ value < bound then some value.toNat else none
  | _ => none

theorem decodeBelow_num {bound value : Nat} (below : value < bound) :
    decodeBelow bound (.num value) = some value :=
  if_pos ⟨Int.natCast_nonneg value, Int.ofNat_lt.mpr below⟩

theorem readable_num {value : Nat} (below : value < 2 ^ 64) :
    (Json.num value).readable 0 = true :=
  decide_eq_true ⟨Int.natCast_nonneg value, Int.ofNat_lt.mpr below⟩

instance : JsonCodec UInt16 where
  encode value := .num value.toNat
  decode json := (decodeBelow (2 ^ 16) json).map UInt16.ofNat
  levels := 0
  decode_encode value := by
    rw [decodeBelow_num value.toNat_lt, Option.map_some, UInt16.ofNat_toNat]
  encode_ne_null _ same := by cases same
  readable_encode value := readable_num (Nat.lt_trans value.toNat_lt (by decide))

instance : JsonCodec UInt32 where
  encode value := .num value.toNat
  decode json := (decodeBelow (2 ^ 32) json).map UInt32.ofNat
  levels := 0
  decode_encode value := by
    rw [decodeBelow_num value.toNat_lt, Option.map_some, UInt32.ofNat_toNat]
  encode_ne_null _ same := by cases same
  readable_encode value := readable_num (Nat.lt_trans value.toNat_lt (by decide))

instance : JsonCodec UInt64 where
  encode value := .num value.toNat
  decode json := (decodeBelow (2 ^ 64) json).map UInt64.ofNat
  levels := 0
  decode_encode value := by
    rw [decodeBelow_num value.toNat_lt, Option.map_some, UInt64.ofNat_toNat]
  encode_ne_null _ same := by cases same
  readable_encode value := readable_num value.toNat_lt

def decodeItems : List Json → Option (List α)
  | [] => some []
  | json :: rest => do
      let item ← decode json
      let others ← decodeItems rest
      return item :: others

theorem decodeItems_map_encode (items : List α) :
    decodeItems (items.map encode) = some items := by
  induction items with
  | nil => rfl
  | cons item rest ih =>
      rw [List.map_cons, decodeItems, JsonCodec.decode_encode, ih]
      rfl

instance : JsonCodec (List α) where
  encode items := .arr (items.map encode)
  decode
    | .arr items => decodeItems items
    | _ => none
  levels := JsonCodec.levels α + 1
  decode_encode := decodeItems_map_encode
  encode_ne_null _ same := by cases same
  readable_encode items := by
    refine List.all_eq_true.mpr fun json member => ?_
    obtain ⟨item, -, rfl⟩ := List.mem_map.mp member
    exact JsonCodec.readable_encode item

/-! ### Fields -/

namespace Json

/-- A value that may be missing; it is written as `null` then. -/
def encodeOption : Option α → Json
  | none => .null
  | some value => encode value

/-- The fields of an object whose keys are known and stand once (`deny_unknown_fields`). -/
def fieldsOf (known : List String) : Json → Option (List (String × Json))
  | .obj fields =>
      if (fields.map Prod.fst).Nodup ∧ ∀ key ∈ fields.map Prod.fst, key ∈ known then some fields
      else none
  | _ => none

def required (fields : List (String × Json)) (key : String) : Option α :=
  (fields.lookup key).bind decode

/-- A field with a default (`default = "…"`). -/
def withDefault (fields : List (String × Json)) (key : String) (value : α) : Option α :=
  ((fields.lookup key).map decode).getD (some value)

def decodeOption : Option Json → Option (Option α)
  | none | some .null => some none
  | some json => (decode json).map some

def optionalField (fields : List (String × Json)) (key : String) : Option (Option α) :=
  decodeOption (fields.lookup key)

/-! Reads of the first field, and past it. -/

section Reads

variable {fields : List (String × Json)} {key : String}

@[simp] theorem required_cons_self (json : Json) :
    (required ((key, json) :: fields) key : Option α) = decode json := by
  rw [required, List.lookup_cons_self, Option.bind_some]

@[simp] theorem withDefault_cons_self (json : Json) (value : α) :
    withDefault ((key, json) :: fields) key value = decode json := by
  rw [withDefault, List.lookup_cons_self, Option.map_some, Option.getD_some]

@[simp] theorem optionalField_cons_self (json : Json) :
    (optionalField ((key, json) :: fields) key : Option (Option α)) = decodeOption (some json) := by
  rw [optionalField, List.lookup_cons_self]

variable {other : String} (apart : key ≠ other) (json : Json)

include apart

theorem lookup_cons_of_ne : List.lookup key ((other, json) :: fields) = fields.lookup key := by
  have differ : (key == other) = false := beq_eq_false_iff_ne.mpr apart
  rw [List.lookup_cons, differ]

@[simp] theorem required_cons_of_ne :
    (required ((other, json) :: fields) key : Option α) = required fields key := by
  rw [required, lookup_cons_of_ne apart, required]

@[simp] theorem withDefault_cons_of_ne (value : α) :
    withDefault ((other, json) :: fields) key value = withDefault fields key value := by
  rw [withDefault, lookup_cons_of_ne apart, withDefault]

@[simp] theorem optionalField_cons_of_ne :
    (optionalField ((other, json) :: fields) key : Option (Option α)) =
      optionalField fields key := by
  rw [optionalField, lookup_cons_of_ne apart, optionalField]

end Reads

@[simp] theorem decodeOption_encodeOption (value : Option α) :
    decodeOption (some (encodeOption value)) = some value := by
  cases value with
  | none => rfl
  | some value =>
      unfold encodeOption
      dsimp only
      have notNull := JsonCodec.encode_ne_null value
      have back := JsonCodec.decode_encode value
      revert notNull back
      cases encode value with
      | null => exact fun notNull _ => (notNull rfl).elim
      | bool _ | num _ | str _ | arr _ | obj _ =>
          exact fun _ back => congrArg (Option.map some) back

@[simp] theorem readable_encodeOption {value : Option α} {more : Nat}
    (deeper : JsonCodec.levels α ≤ more) : (encodeOption value).readable more = true := by
  cases value with
  | none => cases more <;> rfl
  | some value => exact JsonCodec.readable_of_le value deeper

theorem fieldsOf_obj {known : List String} {fields : List (String × Json)}
    (keys : fields.map Prod.fst = known) (distinct : known.Nodup) :
    fieldsOf known (.obj fields) = some fields := by
  subst keys
  exact if_pos ⟨distinct, fun _ member => member⟩

/-- The variant an object names under its tag, and its other fields (`tag = "…"`). -/
def untag (tag : String) : Json → Option (String × List (String × Json))
  | .obj fields =>
      match fields.filter fun field => field.1 = tag with
      | [(_, .str variant)] => some (variant, fields.filter fun field => field.1 ≠ tag)
      | _ => none
  | _ => none

theorem untag_cons {tag variant : String} {fields : List (String × Json)}
    (apart : tag ∉ fields.map Prod.fst) :
    untag tag (.obj ((tag, .str variant) :: fields)) = some (variant, fields) := by
  have other : ∀ field ∈ fields, field.1 ≠ tag := fun field member same =>
    apart (same ▸ List.mem_map_of_mem member)
  have none_ : fields.filter (fun field => field.1 = tag) = [] :=
    List.filter_eq_nil_iff.mpr fun field member same => other field member (of_decide_eq_true same)
  have all : fields.filter (fun field => field.1 ≠ tag) = fields :=
    List.filter_eq_self.mpr fun field member => decide_eq_true (other field member)
  unfold untag
  simp only [decide_true, List.filter_cons_of_pos, none_, ne_eq, not_true_eq_false, decide_false,
    Bool.false_eq_true, not_false_eq_true, List.filter_cons_of_neg]
  rw [all]

end Json

/-- Structs, with their fields in the order of their declaration. -/
class StructCodec (α : Type*) where
  keys : List String
  write : α → List (String × Json)
  read : List (String × Json) → Option α
  levels : Nat
  distinct : keys.Nodup
  keys_write : ∀ value, (write value).map Prod.fst = keys
  read_write : ∀ value, read (write value) = some value
  readable_write : ∀ value, ∀ field ∈ write value, field.2.readable levels = true

namespace StructCodec

variable {α : Type*} [StructCodec α]

/-- The struct among given fields, all of which it knows. -/
def readFields (fields : List (String × Json)) : Option α :=
  (Json.fieldsOf (keys α) (.obj fields)).bind read

@[simp] theorem readFields_write (value : α) : readFields (write value) = some value := by
  rw [readFields, Json.fieldsOf_obj (keys_write value) distinct, Option.bind_some, read_write]

instance : JsonCodec α where
  encode value := .obj (write value)
  decode
    | .obj fields => readFields fields
    | _ => none
  levels := levels α + 1
  decode_encode := readFields_write
  encode_ne_null _ same := by cases same
  readable_encode value := List.all_eq_true.mpr (readable_write value)

/-- A variant that holds a struct: the tag, then the fields of the struct. -/
def tagged (tag variant : String) (value : α) : Json := .obj ((tag, .str variant) :: write value)

theorem untag_tagged {tag variant : String} (value : α) (apart : tag ∉ keys α) :
    Json.untag tag (tagged tag variant value) = some (variant, write value) :=
  Json.untag_cons (by rwa [keys_write])

theorem readable_tagged {tag variant : String} (value : α) {more : Nat}
    (deeper : levels α ≤ more) : (tagged tag variant value).readable (more + 1) = true := by
  refine List.all_eq_true.mpr fun field member => ?_
  rcases List.mem_cons.mp member with rfl | member
  · cases more <;> rfl
  · exact Json.readable_of_le deeper (readable_write value field member)

end StructCodec

end Chancela
