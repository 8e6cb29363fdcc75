import Mathlib.Algebra.Group.Nat.Defs
import Mathlib.Data.Set.Function

/-! # Unambiguous byte framing

A rendering *splits* on a set of values when its output can be taken off the
front of any longer string and determines a view of the value
(`Chancela.Framing.Splits`). Fixed-width fields split, fields closed by a
delimiter that does not occur in them split, and splitting renderings compose,
also over lists (`Chancela.Framing.Splits.flatMap`).
-/

namespace Chancela.Framing

variable {α β γ δ : Type*}

/-- On `domain`, `encode` can be split off the front of a string, and what was
split off determines `view`. -/
def Splits (domain : Set α) (view : α → γ) (encode : α → List β) : Prop :=
  ∀ first ∈ domain, ∀ second ∈ domain, ∀ rest rest' : List β,
    encode first ++ rest = encode second ++ rest' → view first = view second ∧ rest = rest'

variable {view : α → γ} {encode : α → List β}

theorem Splits.mono {domain smaller : Set α} (splits : Splits domain view encode)
    (inside : smaller ⊆ domain) : Splits smaller view encode :=
  fun first member second member' => splits first (inside member) second (inside member')

variable {domain : Set α}

theorem Splits.of_fixedWidth (width : Nat)
    (widths : ∀ value ∈ domain, (encode value).length = width)
    (determines : ∀ first ∈ domain, ∀ second ∈ domain,
      encode first = encode second → view first = view second) : Splits domain view encode := by
  intro first member second member' rest rest' same
  have lengths : (encode first).length = (encode second).length := by
    rw [widths first member, widths second member']
  obtain ⟨heads, tails⟩ := List.append_inj same lengths
  exact ⟨determines first member second member' heads, tails⟩

theorem append_cons_inj {separator : β} {left right rest rest' : List β}
    (leftFree : separator ∉ left) (rightFree : separator ∉ right)
    (same : left ++ separator :: rest = right ++ separator :: rest') :
    left = right ∧ rest = rest' := by
  induction left generalizing right with
  | nil =>
      cases right with
      | nil => exact ⟨rfl, (List.cons.inj same).2⟩
      | cons head tail =>
          have headIs : separator = head := (List.cons.inj same).1
          exact (rightFree (headIs ▸ List.mem_cons_self)).elim
  | cons head tail ih =>
      cases right with
      | nil =>
          have headIs : head = separator := (List.cons.inj same).1
          exact (leftFree (headIs ▸ List.mem_cons_self)).elim
      | cons head' tail' =>
          obtain ⟨headIs, tails⟩ := List.cons.inj same
          obtain ⟨tailIs, restIs⟩ := ih
            (fun member => leftFree (List.mem_cons_of_mem _ member))
            (fun member => rightFree (List.mem_cons_of_mem _ member)) tails
          exact ⟨by rw [headIs, tailIs], restIs⟩

theorem Splits.of_delimited (separator : β) (absent : ∀ value ∈ domain, separator ∉ encode value)
    (determines : ∀ first ∈ domain, ∀ second ∈ domain,
      encode first = encode second → view first = view second) :
    Splits domain view (fun value => encode value ++ [separator]) := by
  intro first member second member' rest rest' same
  simp only [List.append_assoc, List.singleton_append] at same
  obtain ⟨fields, rests⟩ :=
    append_cons_inj (absent first member) (absent second member') same
  exact ⟨determines first member second member' fields, rests⟩

theorem Splits.const (domain : Set α) (constant : List β) :
    Splits domain (fun _ => ()) (fun _ => constant) :=
  Splits.of_fixedWidth constant.length (fun _ _ => rfl) (fun _ _ _ _ _ => rfl)

theorem Splits.append {view' : α → δ} {encode encode' : α → List β}
    (head : Splits domain view encode) (tail : Splits domain view' encode') :
    Splits domain (fun value => (view value, view' value))
      (fun value => encode value ++ encode' value) := by
  intro first member second member' rest rest' same
  simp only [List.append_assoc] at same
  obtain ⟨heads, rests⟩ := head first member second member' _ _ same
  obtain ⟨tails, ends⟩ := tail first member second member' _ _ rests
  exact ⟨Prod.ext heads tails, ends⟩

theorem Splits.flatMap (splits : Splits domain view encode)
    (nonempty : ∀ value ∈ domain, encode value ≠ []) {left right : List α}
    (leftIn : ∀ value ∈ left, value ∈ domain) (rightIn : ∀ value ∈ right, value ∈ domain)
    (same : left.flatMap encode = right.flatMap encode) : left.map view = right.map view := by
  induction left generalizing right with
  | nil =>
      cases right with
      | nil => rfl
      | cons head tail =>
          have empty : encode head = [] := by
            rw [List.flatMap_nil, List.flatMap_cons] at same
            exact (List.append_eq_nil_iff.mp same.symm).1
          exact (nonempty head (rightIn head List.mem_cons_self) empty).elim
  | cons head tail ih =>
      cases right with
      | nil =>
          have empty : encode head = [] := by
            rw [List.flatMap_nil, List.flatMap_cons] at same
            exact (List.append_eq_nil_iff.mp same).1
          exact (nonempty head (leftIn head List.mem_cons_self) empty).elim
      | cons head' tail' =>
          rw [List.flatMap_cons, List.flatMap_cons] at same
          obtain ⟨heads, tails⟩ := splits head (leftIn head List.mem_cons_self)
            head' (rightIn head' List.mem_cons_self) _ _ same
          have rests := ih (fun value member => leftIn value (List.mem_cons_of_mem _ member))
            (fun value member => rightIn value (List.mem_cons_of_mem _ member)) tails
          rw [List.map_cons, List.map_cons, heads, rests]

/-- The `width` low bytes of a number, most significant first. -/
def bigEndian : Nat → Nat → List UInt8
  | 0, _ => []
  | width + 1, number => bigEndian width (number / 256) ++ [UInt8.ofNat number]

@[simp] theorem length_bigEndian (width number : Nat) :
    (bigEndian width number).length = width := by
  induction width generalizing number with
  | zero => rfl
  | succ width ih => simp only [bigEndian, List.length_append, ih, List.length_singleton]

theorem bigEndian_inj {width first second : Nat} (fits : first < 256 ^ width)
    (fits' : second < 256 ^ width) (same : bigEndian width first = bigEndian width second) :
    first = second := by
  induction width generalizing first second with
  | zero =>
      rw [Nat.pow_zero] at fits fits'
      omega
  | succ width ih =>
      simp only [bigEndian] at same
      obtain ⟨heads, lasts⟩ := List.append_inj same (by simp)
      have low : first % 256 = second % 256 := by
        have bytes : UInt8.ofNat first = UInt8.ofNat second := (List.cons.inj lasts).1
        have values := congrArg UInt8.toNat bytes
        simpa using values
      have high : first / 256 = second / 256 := by
        apply ih _ _ heads <;> rw [Nat.div_lt_iff_lt_mul (by decide)]
        · simpa only [Nat.pow_succ] using fits
        · simpa only [Nat.pow_succ] using fits'
      omega

theorem Splits.of_lengthPrefixed {encode : α → List UInt8} (width : Nat)
    (fits : ∀ value ∈ domain, (encode value).length < 256 ^ width)
    (determines : ∀ first ∈ domain, ∀ second ∈ domain,
      encode first = encode second → view first = view second) :
    Splits domain view fun value => bigEndian width (encode value).length ++ encode value := by
  intro first member second member' rest rest' same
  simp only [List.append_assoc] at same
  obtain ⟨prefixes, bodies⟩ := List.append_inj same (by simp)
  have lengths := bigEndian_inj (fits first member) (fits second member') prefixes
  obtain ⟨fields, rests⟩ := List.append_inj bodies lengths
  exact ⟨determines first member second member' fields, rests⟩

end Chancela.Framing
