import Chancela.Api.Endpoints
import Chancela.Crates.Base64
import Chancela.Foundation.Keyset
import Chancela.Foundation.Selection
import Mathlib.Data.Prod.Lex
import Mathlib.Data.String.Basic

/-! # Collection pages

The bounded pages of the directory endpoints. A page is the rows after a cursor; the cursor of
the next page is the position of its last row, in an envelope that names the collection and the
query it belongs to.
-/

namespace Chancela.Collection

open Outcome Keyset Framing

def defaultPageLimit : Nat := 50

def maxPageLimit : Nat := 200

def cursorVersion : Nat := 1

def maxCursorBytes : Nat := 2048

structure CursorPosition where
  key : String
  id : String
deriving DecidableEq, Repr

def CursorPosition.rank (position : CursorPosition) : String ×ₗ String :=
  toLex (position.key, position.id)

/-- One position comes after another in the requested order. -/
def Before (descending : Bool) (first second : CursorPosition) : Prop :=
  if descending then second.rank < first.rank else first.rank < second.rank

instance (descending : Bool) : DecidableRel (Before descending) := fun first second =>
  inferInstanceAs (Decidable (if descending then second.rank < first.rank
    else first.rank < second.rank))

theorem before_irrefl (descending : Bool) (position : CursorPosition) :
    ¬Before descending position position := by
  cases descending <;> exact lt_irrefl _

theorem before_trans (descending : Bool) {first second third : CursorPosition}
    (front : Before descending first second) (back : Before descending second third) :
    Before descending first third := by
  cases descending with
  | false => exact lt_trans front back
  | true => exact lt_trans back front

/-- `CollectionPageQuery`, without its search and its sort key. -/
structure CollectionPageQuery where
  offset : Nat
  cursor : Option String
  limit : Option Nat
  order : Option String

/-- `CollectionPageQuery::limit`. -/
def CollectionPageQuery.pageLimit (query : CollectionPageQuery) : Nat :=
  min (max (query.limit.getD defaultPageLimit) 1) maxPageLimit

theorem CollectionPageQuery.pageLimit_pos (query : CollectionPageQuery) : 0 < query.pageLimit := by
  simp only [pageLimit, maxPageLimit]
  omega

structure CursorEnvelope where
  version : Nat
  collection : String
  fingerprint : String
  position : CursorPosition
  integrity : String
deriving DecidableEq, Repr

instance : Serialize CursorEnvelope := ⟨fun envelope => some (.obj [
  ("version", .num envelope.version),
  ("collection", .str envelope.collection),
  ("fingerprint", .str envelope.fingerprint),
  ("position", .obj [("key", .str envelope.position.key), ("id", .str envelope.position.id)]),
  ("integrity", .str envelope.integrity)])⟩

structure CollectionPage (ρ : Type) where
  items : List ρ
  offset : Nat
  limit : Nat
  hasMore : Bool
  nextOffset : Option Nat
  nextCursor : Option String

def invalidCursor : ApiError := .unprocessable
  "invalid or mismatched collection cursor; restart pagination from the first page"

def frameText (text : String) : List UInt8 :=
  bigEndian 8 (Text.utf8 text).length ++ Text.utf8 text

/-- What `query_fingerprint` hashes. -/
def fingerprintBytes (fields : List (String × String)) : List UInt8 :=
  (Selection.sortBy Prod.fst fields).flatMap fun field => frameText field.1 ++ frameText field.2

section Cursor

variable [Crates]

def queryFingerprint (fields : List (String × String)) : String :=
  hex32 (sha256 (fingerprintBytes fields))

def cursorIntegrity (version : Nat) (collection fingerprint : String) (position : CursorPosition) :
    String :=
  queryFingerprint [("version", toString version), ("collection", collection),
    ("fingerprint", fingerprint), ("key", position.key), ("id", position.id)]

def cursorEnvelope (collection fingerprint : String) (position : CursorPosition) :
    CursorEnvelope where
  version := cursorVersion
  collection
  fingerprint
  position
  integrity := cursorIntegrity cursorVersion collection fingerprint position

/-- `serde_json::to_vec(&envelope)`. -/
def envelopeBytes (envelope : CursorEnvelope) : List UInt8 :=
  match serialize envelope with
  | some json => jsonToVec json
  | none => []

/-- `serde_json::from_slice::<CursorEnvelope>`, which reads what was written. -/
class CursorJson where
  fromSlice : List UInt8 → Option CursorEnvelope
  fromSlice_envelopeBytes : ∀ envelope, fromSlice (envelopeBytes envelope) = some envelope
  /-- An object is not written as an empty text. -/
  envelopeBytes_ne_nil : ∀ envelope, envelopeBytes envelope ≠ []

variable [Base64Crate]

def encodeCursor (collection fingerprint : String) (position : CursorPosition) : String :=
  String.ofList (Base64Crate.urlSafeNoPad.encode
    (envelopeBytes (cursorEnvelope collection fingerprint position)))

variable [CursorJson]

def decodeCursor (encoded expectedCollection expectedFingerprint : String) :
    Except ApiError CursorPosition :=
  if encoded = "" ∨ maxCursorBytes < Text.byteLen encoded then .error invalidCursor
  else match Base64Crate.urlSafeNoPad.decode encoded.toList with
    | none => .error invalidCursor
    | some bytes =>
        match CursorJson.fromSlice bytes with
        | none => .error invalidCursor
        | some envelope =>
            if envelope.version ≠ cursorVersion ∨ envelope.collection ≠ expectedCollection ∨
                envelope.fingerprint ≠ expectedFingerprint ∨
                envelope.integrity ≠ cursorIntegrity envelope.version envelope.collection
                  envelope.fingerprint envelope.position then .error invalidCursor
            else .ok envelope.position

/-- `CollectionPageQuery::cursor`. -/
def CollectionPageQuery.cursorPosition (query : CollectionPageQuery)
    (collection fingerprint : String) : Except ApiError (Option CursorPosition) :=
  if query.cursor.isSome ∧ query.offset ≠ 0 then
    .error (.unprocessable "cursor and a non-zero offset are mutually exclusive")
  else match query.cursor with
    | none => .ok none
    | some cursor => (decodeCursor cursor collection fingerprint).map some

def CollectionPageQuery.descending (query : CollectionPageQuery) : Except ApiError Bool :=
  match query.order.getD "asc" with
  | "asc" => .ok false
  | "desc" => .ok true
  | other => .error (.unprocessable
      ("unknown order " ++ debugStr other ++ ": expected \"asc\" or \"desc\""))

variable {ρ : Type} (position : ρ → CursorPosition)

def applyKeyset (items : List ρ) (cursor : Option CursorPosition) (descending : Bool) : List ρ :=
  match cursor with
  | none => items
  | some cursor => items.filter fun item =>
      if descending then (position item).rank < cursor.rank else cursor.rank < (position item).rank

def fromKeysetSorted (items : List ρ) (offset limit : Nat) (cursorMode : Bool)
    (collection fingerprint : String) : CollectionPage ρ :=
  let items := if !cursorMode && offset ≠ 0 then items.drop offset else items
  let truncated := items.take (limit + 1)
  let hasMore := decide (limit < truncated.length)
  let items := if hasMore then truncated.dropLast else truncated
  { items, offset, limit, hasMore
    nextOffset := if !cursorMode && hasMore then some (min (offset + items.length) (2 ^ 64 - 1))
      else none
    nextCursor := if hasMore then
        (items.getLast?.map position).map (encodeCursor collection fingerprint) else none }

/-- A directory endpoint over the rows it shows, which it has sorted. -/
def listPage (query : CollectionPageQuery) (collection fingerprint : String) (visible : List ρ) :
    Except ApiError (CollectionPage ρ) := do
  let limit := query.pageLimit
  let descending ← query.descending
  let cursor ← query.cursorPosition collection fingerprint
  return fromKeysetSorted position (applyKeyset position visible cursor descending) query.offset
    limit cursor.isSome collection fingerprint

/-- What a client has seen, and whether it was told that there is no more. -/
structure Walk (ρ : Type) where
  items : List ρ
  finished : Bool

/-- A client that asks with each cursor it is given, for the rows as they are at that time. One
that stops early could have gone on with its last cursor. -/
def walk (query : CollectionPageQuery) (collection fingerprint : String) :
    List (List ρ) → Option String → Except ApiError (Walk ρ)
  | [], cursor => do
      let _ ← { query with cursor }.cursorPosition collection fingerprint
      return ⟨[], false⟩
  | rows :: later, cursor => do
      let page ← listPage position { query with cursor } collection fingerprint rows
      match page.nextCursor with
      | none => return ⟨page.items, true⟩
      | some next => do
          let rest ← walk query collection fingerprint later (some next)
          return ⟨page.items ++ rest.items, rest.finished⟩

end Cursor

end Chancela.Collection
