import Mathlib.Data.List.Forall2
import Mathlib.Data.List.Nodup

/-! # Serialized values

The tree a derived serializer builds before it is written as JSON text: scalars,
sequences and objects whose fields stand in declaration order. Serializing may
fail, since some values have no serialized form. A field that is skipped emits
nothing (`Chancela.Json.struct`). Two objects built from the same field list carry
the same field values, skipped fields included (`Chancela.Json.struct_inj`), which
is what makes a derived serializer faithful field by field.
-/

namespace Chancela

/-- A serialized value. -/
inductive Json where
  | null
  | bool (value : Bool)
  | num (value : Int)
  | str (value : String)
  | arr (items : List Json)
  | obj (fields : List (String × Json))

/-- Types with a derived serializer. -/
class Serialize (α : Type*) where
  serialize : α → Option Json

export Serialize (serialize)

/-- A serialized form has one value only. -/
class FaithfulJson (α : Type*) [Serialize α] : Prop where
  inj : ∀ {first second : α} {json : Json}, serialize first = some json →
    serialize second = some json → first = second

/-- The serializer never emits `null`, so that an optional value can. -/
class NonNullJson (α : Type*) [Serialize α] : Prop where
  ne_null : ∀ value : α, serialize value ≠ some .null

/-- The serializer never fails. -/
class TotalJson (α : Type*) [Serialize α] : Prop where
  ne_none : ∀ value : α, serialize value ≠ none

variable {α : Type*} [Serialize α]

theorem FaithfulJson.of_injective {emit : α → Json}
    (total : ∀ value, serialize value = some (emit value))
    (separates : Function.Injective emit) : FaithfulJson α := by
  refine ⟨fun {first second json} serialized serialized' => ?_⟩
  rw [total, Option.some.injEq] at serialized serialized'
  exact separates (serialized.trans serialized'.symm)

theorem FaithfulJson.of_names {name : α → String}
    (named : ∀ value, serialize value = some (.str (name value)))
    (separates : Function.Injective name) : FaithfulJson α :=
  .of_injective named fun _ _ same => separates (Json.str.inj same)

theorem FaithfulJson.of_listed {name : α → String} (values : List α)
    (named : ∀ value, serialize value = some (.str (name value)))
    (listed : ∀ value, value ∈ values) (distinct : (values.map name).Nodup) : FaithfulJson α :=
  .of_names named fun first second same =>
    List.inj_on_of_nodup_map distinct (listed first) (listed second) same

def serializeItems : List α → Option (List Json)
  | [] => some []
  | item :: rest => do
      let json ← serialize item
      let others ← serializeItems rest
      return json :: others

instance : Serialize String := ⟨fun value => some (.str value)⟩
instance : Serialize Bool := ⟨fun value => some (.bool value)⟩
instance : Serialize Nat := ⟨fun value => some (.num value)⟩
instance : Serialize Int := ⟨fun value => some (.num value)⟩
instance : Serialize UInt8 := ⟨fun value => some (.num value.toNat)⟩
instance : Serialize UInt16 := ⟨fun value => some (.num value.toNat)⟩
instance : Serialize UInt32 := ⟨fun value => some (.num value.toNat)⟩
instance : Serialize UInt64 := ⟨fun value => some (.num value.toNat)⟩
instance : Serialize (List α) := ⟨fun items => (serializeItems items).map .arr⟩

instance : Serialize (Option α) where
  serialize
    | none => some .null
    | some value => serialize value

instance : FaithfulJson String := .of_injective (fun _ => rfl) fun _ _ => Json.str.inj
instance : FaithfulJson Bool := .of_injective (fun _ => rfl) fun _ _ => Json.bool.inj
instance : FaithfulJson Int := .of_injective (fun _ => rfl) fun _ _ => Json.num.inj
instance : FaithfulJson Nat :=
  .of_injective (fun _ => rfl) fun _ _ same => Int.ofNat.inj (Json.num.inj same)
instance : FaithfulJson UInt8 :=
  .of_injective (fun _ => rfl) fun _ _ same =>
    UInt8.toNat_inj.mp (Int.ofNat.inj (Json.num.inj same))
instance : FaithfulJson UInt16 :=
  .of_injective (fun _ => rfl) fun _ _ same =>
    UInt16.toNat_inj.mp (Int.ofNat.inj (Json.num.inj same))
instance : FaithfulJson UInt32 :=
  .of_injective (fun _ => rfl) fun _ _ same =>
    UInt32.toNat_inj.mp (Int.ofNat.inj (Json.num.inj same))
instance : FaithfulJson UInt64 :=
  .of_injective (fun _ => rfl) fun _ _ same =>
    UInt64.toNat_inj.mp (Int.ofNat.inj (Json.num.inj same))

instance : NonNullJson String := ⟨fun _ same => by cases same⟩
instance : NonNullJson UInt16 := ⟨fun _ same => by cases same⟩
instance : NonNullJson UInt32 := ⟨fun _ same => by cases same⟩

theorem serializeItems_eq_none_iff {items : List α} :
    serializeItems items = none ↔ ∃ item ∈ items, serialize item = none := by
  induction items with
  | nil => simp [serializeItems]
  | cons item rest ih =>
      cases emitted : serialize item with
      | none => simp [serializeItems, emitted]
      | some json =>
          cases others : serializeItems rest with
          | none => simpa [serializeItems, emitted, others] using ih
          | some jsons => simpa [serializeItems, emitted, others] using ih

instance : TotalJson String := ⟨fun _ failed => by cases failed⟩
instance : TotalJson UInt32 := ⟨fun _ failed => by cases failed⟩

instance [TotalJson α] : TotalJson (List α) where
  ne_none := by
    intro items failed
    obtain ⟨item, -, unwritten⟩ :=
      serializeItems_eq_none_iff.mp (Option.map_eq_none_iff.mp failed)
    exact TotalJson.ne_none item unwritten

instance [TotalJson α] : TotalJson (Option α) where
  ne_none
    | none, failed => by cases failed
    | some value, failed => TotalJson.ne_none value failed

theorem serializeItems_inj [FaithfulJson α] {first second : List α} {json : List Json}
    (serialized : serializeItems first = some json)
    (serialized' : serializeItems second = some json) : first = second := by
  induction first generalizing second json with
  | nil =>
      obtain rfl := Option.some.inj serialized
      cases second with
      | nil => rfl
      | cons item rest => simp [serializeItems, Option.bind_eq_some_iff] at serialized'
  | cons item rest ih =>
      simp only [serializeItems, Option.bind_eq_bind, Option.bind_eq_some_iff, Option.pure_def,
        Option.some.injEq] at serialized
      obtain ⟨head, emitted, tail, others, rfl⟩ := serialized
      cases second with
      | nil => simp [serializeItems] at serialized'
      | cons item' rest' =>
          simp only [serializeItems, Option.bind_eq_bind, Option.bind_eq_some_iff, Option.pure_def,
            Option.some.injEq, List.cons.injEq] at serialized'
          obtain ⟨head', emitted', tail', others', rfl, rfl⟩ := serialized'
          rw [FaithfulJson.inj emitted emitted', ih others others']

instance [FaithfulJson α] : FaithfulJson (List α) where
  inj := by
    intro first second json serialized serialized'
    obtain ⟨items, emitted, rfl⟩ := Option.map_eq_some_iff.mp serialized
    obtain ⟨items', emitted', same⟩ := Option.map_eq_some_iff.mp serialized'
    rw [Json.arr.inj same] at emitted'
    exact serializeItems_inj emitted emitted'

instance [FaithfulJson α] [NonNullJson α] : FaithfulJson (Option α) where
  inj := by
    intro first second json serialized serialized'
    cases first with
    | none =>
        obtain rfl := Option.some.inj serialized
        cases second with
        | none => rfl
        | some value => exact (NonNullJson.ne_null value serialized').elim
    | some value =>
        cases second with
        | none =>
            obtain rfl := Option.some.inj serialized'
            exact (NonNullJson.ne_null value serialized).elim
        | some value' => exact congrArg some (FaithfulJson.inj serialized serialized')

namespace Json

/-- A field of a struct: its key and what its value serializes to; no value when
the field is skipped. -/
structure Field where
  key : String
  value : Option (Option Json)

def field (key : String) (value : α) : Field := ⟨key, some (serialize value)⟩

/-- A field skipped when absent (`skip_serializing_if = "Option::is_none"`). -/
def skipNone (key : String) (value : Option α) : Field := ⟨key, value.map serialize⟩

/-- A field skipped when empty (`skip_serializing_if = "Vec::is_empty"`). -/
def skipEmpty (key : String) (items : List α) : Field :=
  ⟨key, if items.isEmpty then none else some (serialize items)⟩

/-- The members an object emits for a field list, skipped fields left out. -/
def members : List Field → Option (List (String × Json))
  | [] => some []
  | ⟨_, none⟩ :: rest => members rest
  | ⟨key, some value⟩ :: rest => do
      let json ← value
      let others ← members rest
      return (key, json) :: others

def struct (fields : List Field) : Option Json := (members fields).map .obj

theorem struct_eq_none_iff {fields : List Field} :
    struct fields = none ↔ ∃ field ∈ fields, field.value = some none := by
  rw [struct, Option.map_eq_none_iff]
  induction fields with
  | nil => simp [members]
  | cons head tail ih =>
      obtain ⟨key, value⟩ := head
      rcases value with - | - | json
      · simpa [members] using ih
      · simp [members]
      · cases others : members tail with
        | none => simpa [members, others] using ih
        | some jsons => simpa [members, others] using ih

@[simp] theorem value_field_ne [TotalJson α] (key : String) (value : α) :
    (field key value).value ≠ some none := by
  intro failed
  exact TotalJson.ne_none value (Option.some.inj failed)

@[simp] theorem value_skipNone_ne [TotalJson α] (key : String) (value : Option α) :
    (skipNone key value).value ≠ some none := by
  intro failed
  obtain ⟨inner, -, unwritten⟩ := Option.map_eq_some_iff.mp failed
  exact TotalJson.ne_none inner unwritten

@[simp] theorem value_skipEmpty_eq_iff {key : String} {items : List α} :
    (skipEmpty key items).value = some none ↔ ∃ item ∈ items, serialize item = none := by
  cases items with
  | nil => simp [skipEmpty]
  | cons item rest =>
      have failing : (serialize (item :: rest) : Option Json) = none ↔
          serializeItems (item :: rest) = none := Option.map_eq_none_iff
      simp only [skipEmpty, List.isEmpty_cons, Bool.false_eq_true, if_false, Option.some.injEq,
        failing, serializeItems_eq_none_iff]

/-- Two fields that are both skipped, or serialized to the same value. -/
def Field.Agrees (first second : Field) : Prop :=
  (first.value = none ∧ second.value = none) ∨
    ∃ json, first.value = some (some json) ∧ second.value = some (some json)

@[simp] theorem key_field (key : String) (value : α) : (field key value).key = key := rfl
@[simp] theorem key_skipNone (key : String) (value : Option α) :
    (skipNone key value).key = key := rfl
@[simp] theorem key_skipEmpty (key : String) (items : List α) :
    (skipEmpty key items).key = key := rfl

@[simp] theorem field_agrees_iff [FaithfulJson α] {key : String} {first second : α} :
    (field key first).Agrees (field key second) ↔
      first = second ∧ (serialize first).isSome = true := by
  simp only [Field.Agrees, field, reduceCtorEq, false_and, Option.some.injEq, false_or,
    Option.isSome_iff_exists]
  constructor
  · intro ⟨json, serialized, serialized'⟩
    exact ⟨FaithfulJson.inj serialized serialized', json, serialized⟩
  · intro ⟨same, json, serialized⟩
    exact ⟨json, serialized, same ▸ serialized⟩

@[simp] theorem skipNone_agrees_iff [FaithfulJson α] {key : String} {first second : Option α} :
    (skipNone key first).Agrees (skipNone key second) ↔
      first = second ∧ ∀ value ∈ first, (serialize value).isSome = true := by
  cases first with
  | none => cases second <;> simp [Field.Agrees, skipNone]
  | some value =>
      cases second with
      | none => simp [Field.Agrees, skipNone]
      | some value' =>
          have emitted : (field key value).Agrees (field key value') ↔ _ := field_agrees_iff
          simpa [Field.Agrees, skipNone, field] using emitted

@[simp] theorem skipEmpty_agrees_iff [FaithfulJson α] {key : String} {first second : List α} :
    (skipEmpty key first).Agrees (skipEmpty key second) ↔
      first = second ∧ (first ≠ [] → (serialize first).isSome = true) := by
  cases first with
  | nil => cases second <;> simp [Field.Agrees, skipEmpty]
  | cons item rest =>
      cases second with
      | nil => simp [Field.Agrees, skipEmpty]
      | cons item' rest' =>
          have emitted : (field key (item :: rest)).Agrees (field key (item' :: rest')) ↔ _ :=
            field_agrees_iff
          simpa [Field.Agrees, skipEmpty, field] using emitted

private theorem key_not_emitted {key : String} {value : Json} {fields : List Field}
    {emitted : List (String × Json)} (fresh : key ∉ fields.map Field.key)
    (serialized : members fields = some emitted) : (key, value) ∉ emitted := by
  induction fields generalizing emitted with
  | nil =>
      obtain rfl := Option.some.inj serialized
      exact List.not_mem_nil
  | cons head tail ih =>
      simp only [List.map_cons, List.mem_cons, not_or] at fresh
      obtain ⟨name, content⟩ := head
      cases content with
      | none => exact ih fresh.2 serialized
      | some content =>
          simp only [members, Option.bind_eq_bind, Option.bind_eq_some_iff, Option.pure_def,
            Option.some.injEq] at serialized
          obtain ⟨json, -, others, rest, rfl⟩ := serialized
          intro member
          rcases List.mem_cons.mp member with same | member
          · exact fresh.1 (congrArg Prod.fst same)
          · exact ih fresh.2 rest member

/-- **A struct determines its fields.** Objects built from field lists with the
same distinct keys agree on every field, on those they skip too. -/
theorem struct_inj {left right : List Field} {json : Json}
    (keys : left.map Field.key = right.map Field.key) (distinct : (left.map Field.key).Nodup)
    (serialized : struct left = some json) (serialized' : struct right = some json) :
    List.Forall₂ Field.Agrees left right := by
  obtain ⟨emitted, here, rfl⟩ := Option.map_eq_some_iff.mp serialized
  obtain ⟨emitted', there, same⟩ := Option.map_eq_some_iff.mp serialized'
  rw [Json.obj.inj same] at there
  clear serialized serialized' same
  induction left generalizing right emitted with
  | nil =>
      rw [List.map_nil, eq_comm, List.map_eq_nil_iff] at keys
      subst keys
      exact .nil
  | cons head tail ih =>
      cases right with
      | nil => simp at keys
      | cons head' tail' =>
          obtain ⟨key, value⟩ := head
          obtain ⟨key', value'⟩ := head'
          simp only [List.map_cons, List.cons.injEq] at keys
          obtain ⟨rfl, tailKeys⟩ := keys
          simp only [List.map_cons, List.nodup_cons] at distinct
          have fresh' : key ∉ tail'.map Field.key := tailKeys ▸ distinct.1
          cases value with
          | none =>
              cases value' with
              | none => exact .cons (.inl ⟨rfl, rfl⟩) (ih tailKeys distinct.2 _ here there)
              | some value' =>
                  simp only [members, Option.bind_eq_bind, Option.bind_eq_some_iff,
                    Option.pure_def, Option.some.injEq] at there
                  obtain ⟨json, -, others, -, rfl⟩ := there
                  exact (key_not_emitted distinct.1 here List.mem_cons_self).elim
          | some value =>
              simp only [members, Option.bind_eq_bind, Option.bind_eq_some_iff,
                Option.pure_def, Option.some.injEq] at here
              obtain ⟨json, emits, others, rest, rfl⟩ := here
              cases value' with
              | none => exact (key_not_emitted fresh' there List.mem_cons_self).elim
              | some value' =>
                  simp only [members, Option.bind_eq_bind, Option.bind_eq_some_iff,
                    Option.pure_def, Option.some.injEq, List.cons.injEq, Prod.mk.injEq,
                    true_and] at there
                  obtain ⟨json', emits', others', rest', rfl, rfl⟩ := there
                  exact .cons (.inr ⟨json', congrArg some emits, congrArg some emits'⟩)
                    (ih tailKeys distinct.2 _ rest rest')

theorem struct_ne_null (fields : List Field) : struct fields ≠ some .null := by
  intro same
  obtain ⟨emitted, -, null⟩ := Option.map_eq_some_iff.mp same
  cases null

end Json

theorem TotalJson.of_struct {fields : α → List Json.Field}
    (emitted : ∀ value, serialize value = Json.struct (fields value))
    (written : ∀ value, ∀ field ∈ fields value, field.value ≠ some none) : TotalJson α := by
  refine ⟨fun value failed => ?_⟩
  rw [emitted, Json.struct_eq_none_iff] at failed
  obtain ⟨field, member, unwritten⟩ := failed
  exact written value field member unwritten

theorem FaithfulJson.of_struct {fields : α → List Json.Field}
    (derived : ∀ value, serialize value = Json.struct (fields value))
    (keys : ∀ first second, (fields first).map Json.Field.key = (fields second).map Json.Field.key)
    (distinct : ∀ value, ((fields value).map Json.Field.key).Nodup)
    (determined : ∀ first second, List.Forall₂ Json.Field.Agrees (fields first) (fields second) →
      first = second) : FaithfulJson α := by
  refine ⟨fun {first second json} serialized serialized' => ?_⟩
  rw [derived] at serialized serialized'
  exact determined first second
    (Json.struct_inj (keys first second) (distinct first) serialized serialized')

end Chancela
