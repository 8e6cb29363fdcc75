import Chancela.Crates.Basic

/-! # Archives

Bundles and backups are archives of named members with a manifest that lists them. Their
members are read under ceilings on their number and size, so that an archive which inflates
beyond them is refused while it is read.
-/

namespace Chancela

/-- `StoreError`, as far as archives are concerned. -/
inductive StoreError where
  | notFound (what : String)
  | invalidBundle (message : String)
  | badBackup (message : String)
  | zip (message : String)
  | serialization
  | io
  | database
deriving DecidableEq

/-- `BackupFile`: a member as a manifest lists it. -/
structure BackupFile where
  name : String
  sha256 : String
  bytes : UInt64
deriving DecidableEq

instance : Serialize BackupFile where
  serialize file := Json.struct [
    Json.field "name" file.name,
    Json.field "sha256" file.sha256,
    Json.field "bytes" file.bytes]

instance : FaithfulJson BackupFile :=
  .of_struct (fun _ => rfl) (fun _ _ => rfl) (fun _ => by simp) fun first second agreed => by
    cases first
    cases second
    simp_all

/-- A member of an archive, with the bytes it inflates to unless it cannot be read. -/
structure ZipEntry where
  name : String
  content : Option (List UInt8)
deriving DecidableEq

/-- What is called in `zip`. -/
class ZipCrate where
  /-- `ZipArchive::new` and the entries in the order of their index, or the text of an error. -/
  readZip : List UInt8 → Except String (List ZipEntry)
  /-- `ZipWriter` over members in order; it refuses a second member of one name. -/
  writeZip : List (String × List UInt8) → Except String (List UInt8)

export ZipCrate (readZip writeZip)

def recoveryZipMemberUncompressedMaxBytes : Nat := 256 * 1024 * 1024

def recoveryZipTotalUncompressedMaxBytes : Nat := 1024 * 1024 * 1024

def recoveryZipMaxMembers : Nat := 100000

/-- `read_zip_member_bounded`: the bytes of a member, and what has been inflated with it. -/
def readZipMemberBounded (name : String) (content : Option (List UInt8)) (consumed : Nat)
    (err : String → StoreError) : Except StoreError (List UInt8 × Nat) :=
  match content with
  | none => .error .io
  | some bytes =>
      if recoveryZipMemberUncompressedMaxBytes < bytes.length then
        .error (err (s!"archive member {name} exceeds the " ++
          s!"{recoveryZipMemberUncompressedMaxBytes}-byte per-member decompression limit " ++
          "(possible zip bomb)"))
      else if recoveryZipTotalUncompressedMaxBytes < consumed + bytes.length then
        .error (err (s!"archive members exceed the {recoveryZipTotalUncompressedMaxBytes}-byte " ++
          s!"total decompression limit at member {name} (possible zip bomb)"))
      else .ok (bytes, consumed + bytes.length)

theorem readZipMemberBounded_eq_ok_iff {name : String} {content : Option (List UInt8)}
    {consumed : Nat} {err : String → StoreError} {bytes : List UInt8} {total : Nat} :
    readZipMemberBounded name content consumed err = .ok (bytes, total) ↔
      content = some bytes ∧ bytes.length ≤ recoveryZipMemberUncompressedMaxBytes ∧
        total = consumed + bytes.length ∧ total ≤ recoveryZipTotalUncompressedMaxBytes := by
  cases content with
  | none => simp [readZipMemberBounded]
  | some held =>
      rw [readZipMemberBounded]
      split
      · rename_i large
        simp only [reduceCtorEq, Option.some.injEq, false_iff, not_and]
        rintro rfl small
        omega
      · rename_i small
        split
        · rename_i large
          simp only [reduceCtorEq, Option.some.injEq, false_iff, not_and]
          rintro rfl _ rfl
          exact Nat.not_le_of_gt large
        · rename_i room
          simp only [Except.ok.injEq, Prod.mk.injEq, Option.some.injEq]
          constructor
          · rintro ⟨rfl, rfl⟩
            exact ⟨rfl, Nat.le_of_not_lt small, rfl, Nat.le_of_not_lt room⟩
          · rintro ⟨rfl, -, rfl, -⟩
            exact ⟨rfl, rfl⟩

end Chancela
