import Mathlib.Data.List.Basic

/-! # Texts read word by word

A text is read as the words between its blanks, each of which takes a state to the next
or is not understood. Texts put side by side are read one after the other
(`Chancela.Wording.Reads.juxtapose`), so what a text says is derived along the way it is
put together.
-/

namespace Chancela.Wording

variable {σ : Type*} (step : σ → List Char → Option σ)

def readText (start : σ) (text : List Char) : Option σ := (text.splitOn ' ').foldlM step start

def Reads (start : σ) (text : String) (final : σ) : Prop :=
  readText step start text.toList = some final

instance [DecidableEq σ] (start : σ) (text : String) (final : σ) :
    Decidable (Reads step start text final) :=
  inferInstanceAs (Decidable (_ = _))

theorem readText_append (start : σ) (first second : List Char) :
    readText step start (first ++ ' ' :: second) =
      (readText step start first).bind fun state => readText step state second := by
  rw [readText, List.splitOn_append_cons_self, List.foldlM_append]
  rfl

variable {step} {start middle final : σ} {first second : String}

theorem reads_word {word : String} (whole : ' ' ∉ word.toList) :
    Reads step start word final ↔ step start word.toList = some final := by
  rw [Reads, readText, List.splitOn_eq_singleton whole, List.foldlM_cons]
  exact Eq.congr_left (bind_pure _)

theorem Reads.juxtapose (one : Reads step start first middle)
    (other : Reads step middle second final) : Reads step start (first ++ " " ++ second) final := by
  have chars : (first ++ " " ++ second).toList = first.toList ++ ' ' :: second.toList := by
    rw [String.toList_append, String.toList_append, List.append_assoc]
    rfl
  rw [Reads, chars, readText_append, one]
  exact other

theorem Reads.conjoin {word : String} (whole : ' ' ∉ word.toList)
    (idle : step middle word.toList = some middle) (one : Reads step start first middle)
    (other : Reads step middle second final) :
    Reads step start (first ++ (" " ++ word ++ " ") ++ second) final := by
  have chars : first ++ (" " ++ word ++ " ") ++ second = first ++ " " ++ word ++ " " ++ second := by
    simp only [String.append_assoc]
  rw [chars]
  exact (one.juxtapose ((reads_word whole).mpr idle)).juxtapose other

theorem readText_intercalate {words : List String} (some_ : words ≠ [])
    (whole : ∀ word ∈ words, ' ' ∉ word.toList) :
    readText step start (" ".intercalate words).toList =
      (words.map String.toList).foldlM step start := by
  have blank : " ".toList = [' '] := rfl
  rw [readText, String.toList_intercalate, blank, List.splitOn_intercalate]
  · simpa only [List.forall_mem_map] using whole
  · simpa only [ne_eq, List.map_eq_nil_iff] using some_

end Chancela.Wording
