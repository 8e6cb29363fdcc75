import Chancela.Core.Payload

/-! # Frozen acts

An act that is out for signature, sealed or archived has a frozen payload: the
setters refuse, the page count may be fixed once while signatures are collected,
and a reopen takes the act back to drafting. `record_superseded_signing_snapshot`
has no such guard. It extends the payload of an act in any state.
-/

namespace Chancela

/-- A call of a public method that changes an act. -/
inductive ActMethod where
  | call (call : ActCall)
  | recordSupersededSigningSnapshot (snapshot : SupersededSigningSnapshot)
deriving DecidableEq

namespace Act

def afterMethod (act : Act) : ActMethod → Act
  | .call call => act.after call
  | .recordSupersededSigningSnapshot snapshot => act.recordSupersededSigningSnapshot snapshot

/-- The payload of a sealed act is left as it is, and that of an act out for
signature changes only by the first page-count freeze or by a reopen. -/
def FrozenUnder (act : Act) (method : ActMethod) : Prop :=
  (act.isSealed = true → ActPayload.of (act.afterMethod method) = ActPayload.of act) ∧
    (act.state = .signing → ActPayload.of (act.afterMethod method) ≠ ActPayload.of act →
      (∃ pages, method = .call (.freezePageCount pages) ∧ act.pageCount = none) ∨
        method = .call .reopenForCorrection)

theorem Effect.payload_of_isSealed {act result : Act} {call : ActCall}
    (effect : act.Effect call result) (isSealed : act.isSealed = true) :
    ActPayload.of result = ActPayload.of act := by
  obtain ⟨state, same⟩ := effect.of_isSealed isSealed
  rw [same]
  rfl

theorem Effect.payload_of_signing {act result : Act} {call : ActCall}
    (effect : act.Effect call result) (signing : act.state = .signing)
    (changed : ActPayload.of result ≠ ActPayload.of act) :
    (∃ pages, call = .freezePageCount pages ∧ act.pageCount = none) ∨
      call = .reopenForCorrection := by
  have frozen : ¬act.isMutable = true := by
    intro allowed
    exact (isMutable_iff.mp allowed).1 signing
  cases effect with
  | refused => exact (changed rfl).elim
  | edited allowed => exact (frozen allowed).elim
  | pagesFrozen unsealed unfrozen pages => exact .inl ⟨pages, rfl, unfrozen⟩
  | moved allowed => exact (frozen allowed).elim
  | reopened => exact .inr rfl
  | archived state => exact (changed rfl).elim

theorem payload_recordSupersededSigningSnapshot_ne (act : Act)
    (snapshot : SupersededSigningSnapshot) :
    ActPayload.of (act.recordSupersededSigningSnapshot snapshot) ≠ ActPayload.of act := by
  intro same
  have extended : act.supersededSigningSnapshots ++ [snapshot] = act.supersededSigningSnapshots :=
    nonEmpty_injective (congrArg ActPayload.supersededSigningSnapshots same)
  simp at extended

/-- **What keeps a frozen payload.** Of all methods only
`record_superseded_signing_snapshot` breaks the freeze, and it does so on every
frozen act. -/
theorem frozenUnder_iff {act : Act} {method : ActMethod}
    (frozen : act.state = .signing ∨ act.isSealed = true) :
    act.FrozenUnder method ↔
      ∀ snapshot, method ≠ .recordSupersededSigningSnapshot snapshot := by
  constructor
  · intro kept snapshot same
    subst same
    have changed := act.payload_recordSupersededSigningSnapshot_ne snapshot
    rcases frozen with signing | isSealed
    · rcases kept.2 signing changed with ⟨pages, other, -⟩ | other
      · cases other
      · cases other
    · exact changed (kept.1 isSealed)
  · intro guarded
    cases method with
    | recordSupersededSigningSnapshot snapshot => exact (guarded snapshot rfl).elim
    | call call =>
        have effect := act.after_effect call
        refine ⟨effect.payload_of_isSealed, fun signing changed => ?_⟩
        rcases effect.payload_of_signing signing changed with ⟨pages, rfl, unfrozen⟩ | rfl
        · exact .inl ⟨pages, rfl, unfrozen⟩
        · exact .inr rfl

/-- A sealed act refuses a new deliberations text. -/
theorem frozenUnder_setDeliberations_sealed :
    ({ annualMeeting with state := .sealed } : Act).isSealed = true ∧
      ({ annualMeeting with state := .sealed } : Act).FrozenUnder
        (.call (.setDeliberations "Rejeitadas as contas.")) :=
  ⟨by decide, (frozenUnder_iff (.inr (by decide))).mpr fun _ other => by cases other⟩

/-- A retired snapshot recorded on a sealed act moves the payload its seal
digested. -/
theorem not_frozenUnder_recordSuperseded :
    ({ annualMeeting with state := .sealed } : Act).isSealed = true ∧
      ¬({ annualMeeting with state := .sealed } : Act).FrozenUnder
        (.recordSupersededSigningSnapshot
          ⟨"doc-1", "", "amelia", ⟨2026, 3, 30, 10, 0, 0, 0, 0⟩, "correction"⟩) := by
  refine ⟨by decide, fun kept => ?_⟩
  exact payload_recordSupersededSigningSnapshot_ne _ _ (kept.1 (by decide))

end Act

end Chancela
