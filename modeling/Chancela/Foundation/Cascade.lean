import Mathlib.Data.List.Induction
import Mathlib.Logic.Function.Basic

/-! # Layers over a record

A record is read and written a field at a time. A layer sets some of the fields, and a traced
record keeps the layer each field came from. However many layers are laid over a record, a field
has the value and the source of the last one that sets it (`Chancela.Cascade.read_layAll`).
-/

namespace Chancela

/-- A record read and written a field at a time. -/
class Fielded (F : Type*) (V : outParam (F → Type*)) (P : Type*) where
  get : P → (field : F) → V field
  set : (field : F) → V field → P → P
  get_set_self : ∀ field value record, get (set field value record) field = value
  get_set_of_ne : ∀ {field other} value record, other ≠ field →
    get (set field value record) other = get record other

namespace Cascade

variable {F : Type*} {V : F → Type*} {P S : Type*}

abbrev Layer (V : F → Type*) := (field : F) → Option (V field)

/-- A record, with the sources of its fields. -/
@[ext] structure Traced (F P S : Type*) where
  record : P
  sources : F → Option S

variable [DecidableEq F] [Fielded F V P] {fields : List F} {layer : Layer V} {source : S}
  {state : Traced F P S} {field other : F}

def assign (layer : Layer V) (source : S) (state : Traced F P S) (field : F) : Traced F P S :=
  match layer field with
  | none => state
  | some value =>
      ⟨Fielded.set field value state.record, Function.update state.sources field (some source)⟩

def lay (fields : List F) (layer : Layer V) (source : S) (state : Traced F P S) : Traced F P S :=
  fields.foldl (assign layer source) state

/-- A field in a traced record: its value and its source. -/
def Traced.read (state : Traced F P S) (field : F) : V field × Option S :=
  (Fielded.get state.record field, state.sources field)

def settle {α : Type*} (source : S) (value : Option α) (below : α × Option S) : α × Option S :=
  (value.map (·, some source)).getD below

theorem read_assign_self :
    (assign layer source state field).read field =
      settle source (layer field) (state.read field) := by
  unfold assign Traced.read settle
  cases layer field with
  | none => rfl
  | some value =>
      dsimp only
      rw [Fielded.get_set_self, Function.update_self]
      rfl

theorem read_assign_of_ne (apart : other ≠ field) :
    (assign layer source state field).read other = state.read other := by
  unfold assign Traced.read
  cases layer field with
  | none => rfl
  | some value =>
      dsimp only
      rw [Fielded.get_set_of_ne value _ apart, Function.update_of_ne apart]

theorem settle_settle {α : Type*} {value : Option α} {below : α × Option S} :
    settle source value (settle source value below) = settle source value below := by
  cases value <;> rfl

theorem read_lay : (lay fields layer source state).read other =
    if other ∈ fields then settle source (layer other) (state.read other)
    else state.read other := by
  induction fields generalizing state with
  | nil => rfl
  | cons field rest ih =>
      have step : (lay (field :: rest) layer source state).read other =
          (lay rest layer source (assign layer source state field)).read other := rfl
      rw [step, ih]
      by_cases same : other = field
      · subst same
        rw [read_assign_self, settle_settle, ite_self, if_pos List.mem_cons_self]
      · simp only [read_assign_of_ne same, List.mem_cons, same, false_or]

theorem lay_of_empty (empty : ∀ field, layer field = none) :
    lay fields layer source state = state := by
  induction fields with
  | nil => rfl
  | cons field rest ih =>
      have step : lay (field :: rest) layer source state =
          lay rest layer source (assign layer source state field) := rfl
      have same : assign layer source state field = state := by
        unfold assign
        rw [empty field]
      rw [step, same]
      exact ih

/-- Lay the layers over a record, the later ones over the earlier ones. -/
def layAll (fields : List F) (layers : List (S × Layer V)) (state : Traced F P S) : Traced F P S :=
  layers.foldl (fun state layer => lay fields layer.2 layer.1 state) state

/-- The last of the layers that sets a field, with the value it sets. -/
def last (layers : List (S × Layer V)) (field : F) : Option (V field × S) :=
  layers.reverse.findSome? fun layer => (layer.2 field).map (·, layer.1)

/-- **Each field has the value and the source of the last layer that sets it.** -/
theorem read_layAll (layers : List (S × Layer V)) (listed : field ∈ fields) :
    (layAll fields layers state).read field =
      ((last layers field).map (Prod.map id some)).getD (state.read field) := by
  induction layers using List.reverseRecOn with
  | nil => rfl
  | append_singleton layers layer ih =>
      have step : layAll fields (layers ++ [layer]) state =
          lay fields layer.2 layer.1 (layAll fields layers state) := List.foldl_append ..
      have above : last (layers ++ [layer]) field =
          ((layer.2 field).map (·, layer.1)).or (last layers field) := by
        unfold last
        rw [List.reverse_append, List.reverse_singleton, List.singleton_append,
          List.findSome?_cons]
        cases layer.2 field <;> rfl
      rw [step, read_lay, if_pos listed, above, ih]
      cases layer.2 field <;> rfl

end Cascade

end Chancela
