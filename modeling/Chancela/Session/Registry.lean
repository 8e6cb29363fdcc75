import Chancela.Crates.Basic
import Chancela.Crates.Instant
import Chancela.Foundation.TableHistory

/-! # The durable registry of sessions

The records of the sessions of a node, by the digests of their tokens, and the file they are
written through to. A change is committed by a write of the whole file; where the write fails
the records stay as they were, and the file may or may not have been replaced. A restart loads
what the file holds and has not expired.
-/

namespace Chancela

def sessionTtlSecs : Int := 24 * 60 * 60

def sessionTokenDigest [Crates] (token : String) : String := hex32 (sha256 (Text.utf8 token))

/-- `DurableSessionRecord`, without what is only listed. -/
structure DurableSessionRecord where
  tokenSha256 : String
  userId : Uuid
  issuedAtUnix : Int
  lastSeenUnix : Int
  expiresAtUnix : Int
deriving DecidableEq

structure DurableSessionDocument where
  schemaVersion : Nat
  sessions : List DurableSessionRecord
deriving DecidableEq

abbrev DurableSessions := Table DurableSessionRecord.tokenSha256

/-- `DurableSessionRegistry`: whether it has a path, its records, and the file at the path. -/
structure DurableSessionRegistry where
  durable : Bool
  records : DurableSessions
  file : Option DurableSessionDocument

/-- What becomes of a write of the file: it is replaced, it stays, or it is replaced and the
write fails after that. -/
inductive DiskWrite where
  | done
  | failedBefore
  | failedAfter
deriving DecidableEq

/-- What a lookup that slides a record comes to. -/
inductive SlideOutcome where
  | absent
  | slid (record : DurableSessionRecord)
  | failed
deriving DecidableEq

def DurableSessionRecord.before (first second : DurableSessionRecord) : Bool :=
  first.issuedAtUnix < second.issuedAtUnix ||
    (first.issuedAtUnix == second.issuedAtUnix && first.tokenSha256 ≤ second.tokenSha256)

/-- The document `write_durable_sessions_atomic` writes. -/
def documentOf (records : DurableSessions) : DurableSessionDocument :=
  ⟨2, records.values.mergeSort DurableSessionRecord.before⟩

def isLowerHexDigest (value : String) : Bool :=
  (Text.utf8 value).length = 64 &&
    (Text.utf8 value).all fun byte => (48 ≤ byte && byte ≤ 57) || (97 ≤ byte && byte ≤ 102)

def DurableSessionRecord.isValid (record : DurableSessionRecord) : Bool :=
  isLowerHexDigest record.tokenSha256 && record.issuedAtUnix ≤ record.expiresAtUnix &&
    (Instant.fromUnixTimestamp record.issuedAtUnix).isSome &&
    (Instant.fromUnixTimestamp record.expiresAtUnix).isSome

def DurableSessionRecord.seen (record : DurableSessionRecord) : DurableSessionRecord :=
  if record.lastSeenUnix < record.issuedAtUnix then
    { record with lastSeenUnix := record.issuedAtUnix }
  else record

/-- The loop of `load_durable_sessions`. -/
def loadRecords (now : Int) : List DurableSessionRecord → List String → DurableSessions →
    Option DurableSessions
  | [], _, records => some records
  | record :: rest, seen, records =>
      if !record.isValid || seen.contains record.tokenSha256 then none
      else
        loadRecords now rest (record.tokenSha256 :: seen)
          (if now < record.seen.expiresAtUnix then records.insert record.seen else records)

/-- `load_durable_sessions`; the file is read, or it is no regular file of the size allowed. -/
def loadDurableSessions (file : Option DurableSessionDocument) (readable : Bool) (now : Instant) :
    Option DurableSessions :=
  match file with
  | none => some Table.empty
  | some document =>
      if !readable || 2 < document.schemaVersion || 10000 < document.sessions.length then none
      else loadRecords now.unixTimestamp document.sessions [] Table.empty

namespace DurableSessionRegistry

/-- `load_at`: a registry that is not valid is taken for an empty one. -/
def loadAt (file : Option DurableSessionDocument) (readable : Bool) (now : Instant) :
    DurableSessionRegistry :=
  ⟨true, (loadDurableSessions file readable now).getD Table.empty, file⟩

/-- The records are written and, if that succeeds, taken over. -/
def commit (registry : DurableSessionRegistry) (next : DurableSessions) (write : DiskWrite) :
    DurableSessionRegistry × Bool :=
  if registry.durable then
    match write with
    | .done => ({ registry with records := next, file := some (documentOf next) }, true)
    | .failedBefore => (registry, false)
    | .failedAfter => ({ registry with file := some (documentOf next) }, false)
  else ({ registry with records := next }, true)

variable [Crates]

/-- `insert`: the expired records go first, and the limit counts the others. -/
def insert (registry : DurableSessionRegistry) (token : String) (userId : Uuid)
    (issuedAt expiresAt : Instant) (write : DiskWrite) : DurableSessionRegistry × Bool :=
  let record : DurableSessionRecord :=
    ⟨sessionTokenDigest token, userId, issuedAt.unixTimestamp, issuedAt.unixTimestamp,
      expiresAt.unixTimestamp⟩
  let next := registry.records.retain fun existing =>
    issuedAt.unixTimestamp < existing.expiresAtUnix
  if 10000 ≤ next.size && (next.get (sessionTokenDigest token)).isNone then (registry, false)
  else registry.commit (next.insert record) write

def resolveAndSlide (registry : DurableSessionRegistry) (token : String)
    (now newExpiresAt : Instant) (write : DiskWrite) : DurableSessionRegistry × SlideOutcome :=
  match registry.records.get (sessionTokenDigest token) with
  | none => (registry, .absent)
  | some record =>
      if record.expiresAtUnix ≤ now.unixTimestamp then
        let committed := registry.commit (registry.records.erase (sessionTokenDigest token)) write
        (committed.1, if committed.2 then .absent else .failed)
      else
        let record := { record with
          expiresAtUnix := newExpiresAt.unixTimestamp
          lastSeenUnix := now.unixTimestamp }
        let committed := registry.commit (registry.records.insert record) write
        (committed.1, if committed.2 then .slid record else .failed)

def slideIfPresent (registry : DurableSessionRegistry) (token : String)
    (now newExpiresAt : Instant) (write : DiskWrite) : DurableSessionRegistry × SlideOutcome :=
  if registry.durable then registry.resolveAndSlide token now newExpiresAt write
  else (registry, .absent)

omit [Crates] in
def revokeByDigest (registry : DurableSessionRegistry) (digest : String) (write : DiskWrite) :
    DurableSessionRegistry × Bool :=
  if !registry.durable || (registry.records.get digest).isNone then (registry, true)
  else registry.commit (registry.records.erase digest) write

def revoke (registry : DurableSessionRegistry) (token : String) (write : DiskWrite) :
    DurableSessionRegistry × Bool :=
  registry.revokeByDigest (sessionTokenDigest token) write

omit [Crates] in
def inFile (registry : DurableSessionRegistry) (digest : String) : Bool :=
  registry.file.any fun document =>
    document.sessions.any fun record => record.tokenSha256 == digest

/-- Nothing is kept under a digest, in memory or in the file. -/
structure Lacks (registry : DurableSessionRegistry) (digest : String) : Prop where
  records : registry.records.get digest = none
  file : ∀ document, registry.file = some document →
    ∀ record ∈ document.sessions, record.tokenSha256 ≠ digest

variable {registry : DurableSessionRegistry} {digest : String} {write : DiskWrite}

omit [Crates] in
theorem inFile_eq_false {registry : DurableSessionRegistry} :
    registry.inFile digest = false ↔ ∀ document, registry.file = some document →
      ∀ record ∈ document.sessions, record.tokenSha256 ≠ digest := by
  simp only [inFile, Option.any_eq_false, List.any_eq_false, beq_iff_eq, ne_eq]

omit [Crates] in
theorem mem_documentOf {records : DurableSessions} {record : DurableSessionRecord} :
    record ∈ (documentOf records).sessions ↔
      records.get record.tokenSha256 = some record := by
  rw [← Table.mem_values]
  exact (List.mergeSort_perm _ _).mem_iff

omit [Crates] in
theorem Lacks.commit {next : DurableSessions} (lacks : registry.Lacks digest)
    (absent : next.get digest = none) : (registry.commit next write).1.Lacks digest := by
  have written : ∀ record ∈ (documentOf next).sessions, record.tokenSha256 ≠ digest := by
    intro record listed same
    rw [mem_documentOf, same, absent] at listed
    cases listed
  unfold DurableSessionRegistry.commit
  split
  · cases write with
    | done =>
        refine ⟨absent, fun document same => ?_⟩
        rw [← Option.some.inj same]
        exact written
    | failedBefore => exact lacks
    | failedAfter =>
        refine ⟨lacks.records, fun document same => ?_⟩
        rw [← Option.some.inj same]
        exact written
  · exact ⟨absent, lacks.file⟩

omit [Crates] in
theorem lacks_commit_of_done {next : DurableSessions} (durable : registry.durable = true)
    (absent : next.get digest = none) : (registry.commit next .done).1.Lacks digest := by
  unfold DurableSessionRegistry.commit
  rw [if_pos durable]
  refine ⟨absent, fun document same record listed named => ?_⟩
  rw [← Option.some.inj same, mem_documentOf, named, absent] at listed
  cases listed

omit [Crates] in
theorem get_eq_none_of_imp {first second : DurableSessions}
    (fewer : ∀ record, second.get digest = some record → first.get digest = some record)
    (absent : first.get digest = none) : second.get digest = none := by
  rw [Option.eq_none_iff_forall_ne_some] at absent ⊢
  exact fun record present => absent record (fewer record present)

theorem Lacks.insert {token : String} {userId : Uuid} {issuedAt expiresAt : Instant}
    (lacks : registry.Lacks digest) (apart : sessionTokenDigest token ≠ digest) :
    (registry.insert token userId issuedAt expiresAt write).1.Lacks digest := by
  unfold DurableSessionRegistry.insert
  dsimp only
  split
  · exact lacks
  · apply lacks.commit
    rw [Table.get_insert, if_neg (Ne.symm apart)]
    exact get_eq_none_of_imp (fun record present => (Table.get_retain_eq_some_iff.mp present).1)
      lacks.records

theorem Lacks.resolveAndSlide {token : String} {now newExpiresAt : Instant}
    (lacks : registry.Lacks digest) :
    (registry.resolveAndSlide token now newExpiresAt write).1.Lacks digest := by
  unfold DurableSessionRegistry.resolveAndSlide
  split
  · exact lacks
  · next record present =>
      have apart : digest ≠ sessionTokenDigest token := by
        intro same
        rw [← same, lacks.records] at present
        cases present
      dsimp only
      split
      · apply lacks.commit
        exact get_eq_none_of_imp (fun record present => (Table.get_erase_eq_some_iff.mp present).2)
          lacks.records
      · have named := Table.key_of_get present
        apply lacks.commit
        rw [Table.get_insert, if_neg (fun same => apart (same.trans named))]
        exact lacks.records

theorem Lacks.slideIfPresent {token : String} {now newExpiresAt : Instant}
    (lacks : registry.Lacks digest) :
    (registry.slideIfPresent token now newExpiresAt write).1.Lacks digest := by
  unfold DurableSessionRegistry.slideIfPresent
  split
  · exact lacks.resolveAndSlide
  · exact lacks

omit [Crates] in
theorem Lacks.revokeByDigest {other : String} (lacks : registry.Lacks digest) :
    (registry.revokeByDigest other write).1.Lacks digest := by
  unfold DurableSessionRegistry.revokeByDigest
  split
  · exact lacks
  · apply lacks.commit
    exact get_eq_none_of_imp (fun record present => (Table.get_erase_eq_some_iff.mp present).2)
      lacks.records

theorem Lacks.resolveAndSlide_absent {token : String} {now newExpiresAt : Instant}
    (lacks : registry.Lacks (sessionTokenDigest token)) :
    registry.resolveAndSlide token now newExpiresAt write = (registry, .absent) := by
  unfold DurableSessionRegistry.resolveAndSlide
  rw [lacks.records]

omit [Crates] in
theorem lacks_revokeByDigest (durable : registry.durable = true)
    (held : registry.records.get digest ≠ none → write = .done)
    (stale : registry.records.get digest = none → ∀ document, registry.file = some document →
      ∀ record ∈ document.sessions, record.tokenSha256 ≠ digest) :
    (registry.revokeByDigest digest write).1.Lacks digest := by
  unfold DurableSessionRegistry.revokeByDigest
  cases found : registry.records.get digest with
  | none =>
      rw [if_pos (by simp only [Option.isNone_none, Bool.or_true])]
      exact ⟨found, stale found⟩
  | some record =>
      have written : write = .done := by
        apply held
        rw [found]
        exact Option.some_ne_none record
      rw [if_neg (by simp only [durable, Bool.not_true, Option.isNone_some, Bool.or_self,
        Bool.false_eq_true, not_false_eq_true]), written]
      apply lacks_commit_of_done durable
      rw [Option.eq_none_iff_forall_ne_some]
      exact fun record present => (Table.get_erase_eq_some_iff.mp present).1 rfl

omit [Crates] in
theorem revokeByDigest_done (reported : (registry.revokeByDigest digest write).2 = true)
    (durable : registry.durable = true) (held : registry.records.get digest ≠ none) :
    write = .done := by
  cases found : registry.records.get digest with
  | none => exact absurd found held
  | some record =>
      unfold DurableSessionRegistry.revokeByDigest DurableSessionRegistry.commit at reported
      rw [found] at reported
      simp only [durable, Bool.not_true, Option.isNone_some, Bool.or_self, Bool.false_eq_true,
        ↓reduceIte] at reported
      cases write with
      | done => rfl
      | failedBefore => cases reported
      | failedAfter => cases reported

omit [Crates] in
theorem exists_of_get_loadRecords {now : Int} {sessions : List DurableSessionRecord}
    {seen : List String} {records loaded : DurableSessions}
    (load : loadRecords now sessions seen records = some loaded)
    {record : DurableSessionRecord} (present : loaded.get digest = some record) :
    records.get digest = some record ∨
      ∃ raw ∈ sessions, raw.seen = record ∧ raw.tokenSha256 = digest ∧
        now < record.expiresAtUnix := by
  induction sessions generalizing seen records with
  | nil =>
      obtain rfl := Option.some.inj load
      exact .inl present
  | cons raw rest ih =>
      rw [loadRecords] at load
      split at load
      · cases load
      · rcases ih load with before | ⟨other, listed, facts⟩
        · split at before
          · next unexpired =>
              rcases Table.get_insert_eq_some_iff.mp before with ⟨named, same⟩ | ⟨-, before⟩
              · have key : raw.seen.tokenSha256 = raw.tokenSha256 := by
                  unfold DurableSessionRecord.seen
                  split <;> rfl
                exact .inr ⟨raw, List.mem_cons_self, same, key.symm.trans named.symm,
                  same ▸ unexpired⟩
              · exact .inl before
          · exact .inl before
        · exact .inr ⟨other, List.mem_cons_of_mem raw listed, facts⟩

omit [Crates] in
theorem Lacks.loadAt {readable : Bool} {now : Instant} (lacks : registry.Lacks digest) :
    (DurableSessionRegistry.loadAt registry.file readable now).Lacks digest := by
  refine ⟨?_, lacks.file⟩
  unfold DurableSessionRegistry.loadAt loadDurableSessions
  dsimp only
  split
  · exact Table.get_empty
  · next document held =>
      split
      · exact Table.get_empty
      · cases load : loadRecords now.unixTimestamp document.sessions [] Table.empty with
        | none => exact Table.get_empty
        | some loaded =>
            rw [Option.getD_some, Option.eq_none_iff_forall_ne_some]
            intro record present
            rcases exists_of_get_loadRecords load present with before | ⟨raw, listed, -, same, -⟩
            · rw [Table.get_empty] at before
              cases before
            · exact lacks.file document held raw listed same

end DurableSessionRegistry

end Chancela
