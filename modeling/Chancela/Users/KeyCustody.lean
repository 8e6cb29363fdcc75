import Chancela.Users.Owners

/-! # Custody of the attestation key

The key of an account is wrapped under its password, and each operation on the credentials
prepares its change against a copy of the record before it takes the lock. Where every change
is still against the record it finds — the key rewrapped is the key held, the password a new
key is wrapped under is the password of the verifier, the phrase consumed is the phrase of the
record — the key opens with the password in every state of every run, no retired key comes
back, and a phrase is consumed once (`Chancela.UserSite.keyOpens_always`). Nothing in the
operations makes sure of it.
-/

namespace Chancela

open Interleave Outcome

namespace UserRecord

def unlockKey (user : UserRecord) (password : String) : Except AccountError (Option Nat) :=
  match user.attestationKey with
  | some blob => (blob.unlock password).map some
  | none => .ok none

/-- The key opens with the password of the verifier, and is none that was retired. -/
structure Custody (user : UserRecord) : Prop where
  opens : ∀ blob, user.attestationKey = some blob →
    ∃ hash, user.passwordHash = some hash ∧ hash.accepts = blob.wrappedUnder
  live : ∀ blob, user.attestationKey = some blob →
    ∀ retired ∈ user.retiredAttestationKeys, retired.scalar ≠ blob.scalar

variable {user : UserRecord}

theorem Custody.unlockKey_eq_ok (custody : Custody user) {hash : SecretHash} {password : String}
    (stored : user.passwordHash = some hash) (verified : hash.verifySecret password = true) :
    ∃ key, user.unlockKey password = .ok key := by
  unfold unlockKey
  cases held : user.attestationKey with
  | none => exact ⟨none, rfl⟩
  | some blob =>
      obtain ⟨same, present, accepts⟩ := custody.opens blob held
      rw [stored] at present
      have right : password = blob.wrappedUnder := by
        rw [← accepts, ← Option.some.inj present]
        exact of_decide_eq_true verified
      refine ⟨some blob.scalar, ?_⟩
      dsimp only
      rw [AttestationKeyBlob.unlock, if_pos right]
      rfl

theorem Custody.of_keyless (keyless : user.attestationKey = none) : Custody user := by
  constructor
  all_goals
    intro blob held
    rw [keyless] at held
    cases held

@[simp] theorem attestationKey_retire {retiredAt : String} :
    (user.retireAttestationKey retiredAt).attestationKey = none := by
  unfold retireAttestationKey
  split
  · assumption
  · rfl

@[simp] theorem recoveryHash_retire {retiredAt : String} :
    (user.retireAttestationKey retiredAt).recoveryHash = user.recoveryHash := by
  unfold retireAttestationKey
  split <;> rfl

theorem scalar_of_mem_retire {retiredAt : String} {retired : RetiredAttestationKey}
    (listed : retired ∈ (user.retireAttestationKey retiredAt).retiredAttestationKeys) :
    retired ∈ user.retiredAttestationKeys ∨
      ∃ blob, user.attestationKey = some blob ∧ retired.scalar = blob.scalar := by
  unfold retireAttestationKey at listed
  cases held : user.attestationKey with
  | none =>
      rw [held] at listed
      exact .inl listed
  | some blob =>
      rw [held] at listed
      dsimp only at listed
      split at listed
      · exact .inl listed
      · rcases List.mem_append.mp listed with before | last
        · exact .inl before
        · refine .inr ⟨blob, rfl, ?_⟩
          rw [List.mem_singleton.mp last]
          rfl

end UserRecord

namespace CredentialChange

/-- A key rewrapped for a new password is wrapped under it. -/
def SealsAlike : CredentialChange → Prop
  | .setSecret (some blob) _ newHash _ _ _ => blob.wrappedUnder = newHash.accepts
  | _ => True

/-- The change is against the credentials of the record it is written on, and what it draws is
new: no key has the scalar, and the phrase was never consumed. -/
def Current (user : UserRecord) (spent : List String) : CredentialChange → Prop
  | .setSecret rewrapped dropKey _ _ consumes _ =>
      (∀ phrase ∈ consumes, ∃ hash ∈ user.recoveryHash, hash.accepts = phrase) ∧
      (dropKey = false →
        rewrapped.map AttestationKeyBlob.scalar = user.attestationKey.map AttestationKeyBlob.scalar)
  | .installKey newKey _ =>
      (∃ hash ∈ user.passwordHash, hash.accepts = newKey.wrappedUnder) ∧
      (∀ blob ∈ user.attestationKey, blob.scalar ≠ newKey.scalar) ∧
      ∀ retired ∈ user.retiredAttestationKeys, retired.scalar ≠ newKey.scalar
  | .removeKey consumes _ => ∀ phrase ∈ consumes, ∃ hash ∈ user.recoveryHash, hash.accepts = phrase
  | .issueRecovery verifier => verifier.accepts ∉ spent

instance decidableCurrent (user : UserRecord) (spent : List String) :
    ∀ change : CredentialChange, Decidable (change.Current user spent)
  | .setSecret _ _ _ _ _ _ => inferInstanceAs (Decidable (_ ∧ _))
  | .installKey _ _ => inferInstanceAs (Decidable (_ ∧ _))
  | .removeKey consumes _ =>
      inferInstanceAs
        (Decidable (∀ phrase ∈ consumes, ∃ hash ∈ user.recoveryHash, hash.accepts = phrase))
  | .issueRecovery verifier => inferInstanceAs (Decidable (verifier.accepts ∉ spent))

variable {change : CredentialChange} {user : UserRecord} {spent : List String}

/-- **A change against the record it finds keeps custody of the key.** -/
theorem custody_apply (custody : user.Custody) (seals : change.SealsAlike)
    (current : change.Current user spent) : (change.apply user).Custody := by
  cases change with
  | setSecret rewrapped dropKey newHash source consumes retiredAt =>
      cases dropKey with
      | true =>
          apply UserRecord.Custody.of_keyless
          simp only [apply, ↓reduceIte, UserRecord.attestationKey_retire]
      | false =>
          have same := current.2 rfl
          cases rewrapped with
          | none =>
              apply UserRecord.Custody.of_keyless
              exact Option.map_eq_none_iff.mp same.symm
          | some rewrapped =>
              obtain ⟨blob, held, scalar⟩ := Option.map_eq_some_iff.mp same.symm
              constructor
              · intro other present
                rw [← Option.some.inj present]
                exact ⟨newHash, rfl, seals.symm⟩
              · intro other present retired listed
                rw [← Option.some.inj present, ← scalar]
                exact custody.live blob held retired listed
  | installKey newKey retiredAt =>
      obtain ⟨⟨hash, stored, accepts⟩, replaced, fresh⟩ := current
      constructor
      · intro other present
        rw [← Option.some.inj present]
        refine ⟨hash, ?_, accepts⟩
        unfold apply UserRecord.retireAttestationKey
        dsimp only
        split <;> exact stored
      · intro other present retired listed
        rw [← Option.some.inj present]
        rcases UserRecord.scalar_of_mem_retire listed with before | ⟨blob, held, scalar⟩
        · exact fresh retired before
        · rw [scalar]
          exact replaced blob held
  | removeKey consumes retiredAt =>
      apply UserRecord.Custody.of_keyless
      exact UserRecord.attestationKey_retire
  | issueRecovery verifier => exact ⟨custody.opens, custody.live⟩

theorem recoveryHash_apply :
    (change.apply user).recoveryHash = match change with
      | .issueRecovery verifier => some verifier
      | change => if change.consumes.isSome then none else user.recoveryHash := by
  cases change with
  | setSecret rewrapped dropKey newHash source consumes retiredAt =>
      cases consumes with
      | some phrase => rfl
      | none =>
          cases rewrapped <;> cases dropKey <;>
            first
              | rfl
              | exact UserRecord.recoveryHash_retire
  | installKey newKey retiredAt => exact UserRecord.recoveryHash_retire
  | removeKey consumes retiredAt =>
      cases consumes with
      | some phrase => rfl
      | none => exact UserRecord.recoveryHash_retire
  | issueRecovery verifier => rfl

theorem Current.consumes_eq (current : change.Current user spent) {phrase : String}
    (consumed : change.consumes = some phrase) :
    ∃ hash, user.recoveryHash = some hash ∧ hash.accepts = phrase := by
  cases change with
  | setSecret rewrapped dropKey newHash source consumes retiredAt => exact current.1 phrase consumed
  | removeKey consumes retiredAt => exact current phrase consumed
  | installKey | issueRecovery => cases consumed

/-- **No phrase is consumed twice**: the record accepts none of those consumed, before a change
against it and after. -/
theorem unspent_apply (unspent : ∀ hash, user.recoveryHash = some hash → hash.accepts ∉ spent)
    (current : change.Current user spent) :
    (∀ phrase, change.consumes = some phrase → phrase ∉ spent) ∧
    ∀ hash, (change.apply user).recoveryHash = some hash →
      hash.accepts ∉ spent ++ change.consumes.toList := by
  constructor
  · intro phrase consumed
    obtain ⟨hash, stored, rfl⟩ := current.consumes_eq consumed
    exact unspent hash stored
  · intro hash stored
    rw [recoveryHash_apply] at stored
    have kept : ∀ before, user.recoveryHash = some before → change.consumes = none →
        before.accepts ∉ spent ++ change.consumes.toList := by
      intro before stored none_
      rw [none_, Option.toList_none, List.append_nil]
      exact unspent before stored
    cases change with
    | issueRecovery verifier =>
        rw [← Option.some.inj stored]
        exact fun listed => current (List.append_nil spent ▸ listed)
    | setSecret | installKey | removeKey =>
        dsimp only at stored
        split at stored
        · cases stored
        · rename_i none_
          exact kept hash stored (Option.not_isSome_iff_eq_none.mp none_)

end CredentialChange

/-! ### What an operation prepares -/

section Prepared

variable {draws : CredentialDraws} {decision : SecretAuthz} {snapshot : Option UserRecord}
  {offered : CurrentSecret}

theorem wrappedUnder_rewrap {blob rewrapped : AttestationKeyBlob} {oldSecret newSecret : String}
    {salt : Nat} (succeeded : blob.rewrap oldSecret newSecret salt = .ok rewrapped) :
    rewrapped.wrappedUnder = newSecret := by
  unfold AttestationKeyBlob.rewrap at succeeded
  cases unlocked : blob.unlock oldSecret with
  | error fault =>
      rw [unlocked] at succeeded
      cases succeeded
  | ok scalar =>
      rw [unlocked] at succeeded
      rw [← Except.ok.inj succeeded]

theorem sealsAlike_prepareSetSecret (password : String) :
    ResultsIn CredentialChange.SealsAlike
      (prepareSetSecret draws decision snapshot password offered) := by
  have written : ∀ {rewrapped : Option AttestationKeyBlob} {dropKey source consumes retiredAt}
      (check : Except AccountError Unit),
      (∀ blob, rewrapped = some blob → blob.wrappedUnder = password) →
      ResultsIn CredentialChange.SealsAlike (check >>= fun _ => pure (.setSecret rewrapped dropKey
        ⟨password, draws.salt⟩ source consumes retiredAt)) := by
    intro rewrapped dropKey source consumes retiredAt check wrapped
    refine .bind fun _ _ => .ok ?_
    cases rewrapped with
    | none => exact trivial
    | some blob => exact wrapped blob rfl
  have kept : ∀ rewrapped : Option AttestationKeyBlob,
      (Except.ok none : Except AccountError _) = .ok rewrapped →
      ∀ blob, rewrapped = some blob → blob.wrappedUnder = password := by
    intro rewrapped none_ blob some_
    rw [← Except.ok.inj none_] at some_
    cases some_
  unfold prepareSetSecret
  cases snapshot with
  | none => exact .bind fun _ refused => by cases refused
  | some user =>
      refine .bind fun user _ => .bind fun _ _ => ?_
      dsimp only
      split
      on_goal 1 => refine .bind fun _ _ => ?_
      -- Whether or not the password was asked for again, what is rewrapped is the same.
      all_goals
        split
        · exact .bind fun rewrapped none_ => written _ (kept rewrapped none_)
        · split
          · exact .bind fun rewrapped none_ => written _ (kept rewrapped none_)
          · refine .bind fun rewrapped succeeded => written _ fun blob some_ => ?_
            rename_i held _
            cases result : held.rewrap (offered.currentPassword.getD "") password draws.salt with
            | error fault =>
                rw [result] at succeeded
                cases succeeded
            | ok rewritten =>
                rw [result] at succeeded
                rw [← Except.ok.inj succeeded] at some_
                rw [← Option.some.inj some_]
                exact wrappedUnder_rewrap result

theorem sealsAlike_prepareGenerate :
    ResultsIn CredentialChange.SealsAlike (prepareGenerate draws decision snapshot offered) := by
  unfold prepareGenerate
  cases decision with
  | selfService =>
      cases snapshot with
      | none => exact .bind fun _ _ => .ok trivial
      | some user => exact .bind fun _ _ => .bind fun _ _ => .ok trivial
  | crossUser proof =>
      cases proof <;> exact .bind fun _ _ => .ok trivial

theorem sealsAlike_prepareIssueRecovery :
    ResultsIn CredentialChange.SealsAlike
    (prepareIssueRecovery draws decision snapshot offered) := by
  unfold prepareIssueRecovery
  cases decision with
  | selfService => cases snapshot <;> exact .bind fun _ _ => .ok trivial
  | crossUser proof => exact .bind fun _ _ => .ok trivial

theorem sealsAlike_prepareRemove :
    ResultsIn (fun change : Option CredentialChange => ∀ some_, change = some some_ →
      some_.SealsAlike) (prepareRemove draws decision snapshot offered) := by
  have removes : ResultsIn (fun change : Option CredentialChange => ∀ some_, change = some some_ →
      some_.SealsAlike) (ε := AccountError)
        (.ok (some (.removeKey (decision.consumes offered) draws.retiredAt))) := by
    refine .ok fun change some_ => ?_
    rw [← Option.some.inj some_]
    exact trivial
  unfold prepareRemove
  cases decision with
  | selfService =>
      cases snapshot with
      | none => exact .error _
      | some user =>
          dsimp only
          split
          · refine .ok fun change some_ => ?_
            cases some_
          · exact .bind fun _ _ => removes
  | crossUser proof =>
      cases proof with
      | password => exact removes
      | recovery =>
          cases snapshot with
          | none => exact .error _
          | some user => exact .bind fun _ _ => removes

theorem sealsAlike_prepareCredential {operation : CredentialOperation} {requester : Option Uuid}
    {target : Uuid} {change : CredentialChange}
    (prepared : prepareCredential operation draws requester target snapshot offered =
      .ok (some change)) : change.SealsAlike := by
  have unmapped : ∀ {outcome : Except AccountError CredentialChange},
      ResultsIn CredentialChange.SealsAlike outcome → outcome.map some = .ok (some change) →
      change.SealsAlike := by
    intro outcome results mapped
    cases outcome with
    | error fault => cases mapped
    | ok value => exact results change (congrArg Except.ok (Option.some.inj (Except.ok.inj mapped)))
  unfold prepareCredential at prepared
  obtain ⟨decision, -, rest⟩ := bind_eq_ok_iff.mp prepared
  obtain ⟨-, -, rest⟩ := bind_eq_ok_iff.mp rest
  cases operation with
  | setSecret password => exact unmapped (sealsAlike_prepareSetSecret password) rest
  | generateAttestationKey => exact unmapped sealsAlike_prepareGenerate rest
  | removeAttestationKey => exact sealsAlike_prepareRemove _ rest change rfl
  | issueRecovery => exact unmapped sealsAlike_prepareIssueRecovery rest

end Prepared

/-! ### The operations, interleaved -/

/-- An operation on the credentials of a user, as it is asked for. -/
structure CredentialRequest where
  session : Option String
  target : Uuid
  operation : CredentialOperation
  offered : CurrentSecret

def CredentialRequest.toUserRequest (request : CredentialRequest) : UserRequest :=
  .credential request.session request.target request.operation request.offered

namespace UserSite

/-- The recovery phrase a section consumes, if it changes the credentials of the account. -/
def spends (account : Uuid) (users : UserMap) : UserStage → List String
  | .ready (.credential target change) =>
      if target = account ∧ (users.get account).isSome then change.consumes.toList else []
  | _ => []

/-- The key of the account opens with its password, no retired key is active, and no phrase was
consumed twice. -/
structure KeyOpens (account : Uuid) (shared : UserSite × List String) : Prop where
  custody : ∀ user, shared.1.users.get account = some user → user.Custody
  unlocks : ∀ user hash password, shared.1.users.get account = some user →
    user.passwordHash = some hash → hash.verifySecret password = true →
    ∃ key, user.unlockKey password = .ok key
  once : shared.2.Nodup

theorem KeyOpens.all_wrapped {account : Uuid} {shared : UserSite × List String}
    (holds : KeyOpens account shared) :
    ((shared.1.users.get account).all fun user => user.attestationKey.all fun blob =>
      user.passwordHash.any fun hash => hash.verifySecret blob.wrappedUnder) = true := by
  rw [Option.all_eq_true]
  intro user found
  rw [Option.all_eq_true]
  intro blob held
  obtain ⟨hash, stored, accepts⟩ := (holds.custody user found).opens blob held
  rw [stored]
  exact decide_eq_true accepts.symm

section Requests

variable [Crates] {ι : Type*}

/-- The sections of many operations on credentials, with the phrases an account consumed. -/
def serveCredentials (requests : ι → CredentialRequest) (account : Uuid) (party : ι)
    (around : UserSurroundings) (shared : UserSite × List String) (stage : UserStage) :
    (UserSite × List String) × UserStage :=
  let served := serve (requests party).toUserRequest around shared.1 stage
  ((served.1, shared.2 ++ spends account shared.1.users stage), served.2)

/-- A change of the account's credentials is against the record it is written on. -/
def AgainstCurrent (account : Uuid) (shared : UserSite × List String) : UserStage → Prop
  | .ready (.credential target change) => target = account →
      ∀ user ∈ shared.1.users.get account, change.Current user shared.2
  | _ => True

instance decidableAgainstCurrent (account : Uuid) (shared : UserSite × List String) :
    ∀ stage, Decidable (AgainstCurrent account shared stage)
  | .ready (.credential target change) => inferInstanceAs (Decidable (target = account →
      ∀ user ∈ shared.1.users.get account, change.Current user shared.2))
  | .ready (.assignRole _ _) | .ready (.unassignRole _ _) | .ready (.patchUser _ _)
  | .ready (.patchMeProfile _ _) | .ready (.suspendMe _) | .ready (.createUser _)
  | .arrived | .read _ _ | .proving _ | .savingAssertion _ _ | .noting _ _ | .savingUse _ _ _
  | .provingCode _ _ | .savingCode _ _ | .proved _ _ | .steppedUp | .changed _ _ | .cleared _ _
  | .persisted _ _ | .recorded _ _ | .answered _ _ | .refused _ => .isTrue trivial

abbrev WritesOnCurrent (account : Uuid) (world : World (UserSite × List String) ι UserStage)
    (move : ι × UserSurroundings) : Prop :=
  AgainstCurrent account world.shared (world.progress move.1)

/-- How far an operation on credentials can get, with what it prepared. -/
def Prepared (target : Uuid) : UserStage → Prop
  | .ready (.credential target' change) => target' = target ∧ change.SealsAlike
  | .arrived | .read _ _ | .changed _ _ | .cleared _ _ | .persisted _ _ | .recorded _ _
  | .answered _ _ | .refused _ => True
  | _ => False

/-- What holds of the account, and of every operation, between sections. -/
def custodyDiscipline (requests : ι → CredentialRequest) (account : Uuid) :
    Discipline (UserSite × List String) ι UserStage where
  common shared :=
    (∀ user, shared.1.users.get account = some user → user.Custody ∧
      ∀ hash, user.recoveryHash = some hash → hash.accepts ∉ shared.2) ∧ shared.2.Nodup
  mine party _ stage := Prepared (requests party).target stage
  apart _ _ := True

variable {requests : ι → CredentialRequest} {account : Uuid} {around : UserSurroundings}
  {site : UserSite} {stage : UserStage} {spent : List String}

theorem users_serve_of_prepared {request : UserRequest} {target : Uuid}
    (prepared : Prepared target stage) (elsewhere : ∀ section_, stage ≠ .ready section_) :
    (serve request around site stage).1.users = site.users ∧
      spends account site.users stage = [] := by
  cases stage with
  | ready section_ => exact (elsewhere section_ rfl).elim
  | cleared rest copy => exact ⟨users_saving users_persistUser, rfl⟩
  | arrived | read | changed | persisted | recorded | answered | refused => exact ⟨rfl, rfl⟩
  | _ => exact prepared.elim

theorem get_run_credential {target : Uuid} {change : CredentialChange} {users : UserMap}
    {newId : Uuid} {createdAt : String} :
    ((LockedSection.credential target change).run users newId createdAt).1.get account =
      if target = account then (users.get account).map change.apply else users.get account := by
  split
  · rename_i same
    subst same
    cases found : users.get target with
    | none =>
        simp only [LockedSection.run, UserMap.edit, found]
        rfl
    | some user =>
        have keyed : (change.apply user).id = target :=
          CredentialChange.id_apply.trans (Table.key_of_get found)
        simp only [LockedSection.run]
        rw [UserMap.edit_of_get_eq_some found, Table.get_insert, if_pos keyed.symm]
        rfl
  · rename_i apart
    exact LockedSection.get_run_of_ne (Ne.symm apart)

theorem common_serve {party : ι} {target : Uuid}
    (holds : (custodyDiscipline requests account).common (site, spent))
    (prepared : Prepared target stage)
    (current : AgainstCurrent account (site, spent) stage) :
    (custodyDiscipline requests account).common
      (serveCredentials requests account party around (site, spent) stage).1 := by
  obtain ⟨kept, once⟩ := holds
  by_cases ready : ∃ section_, stage = .ready section_
  · obtain ⟨section_, rfl⟩ := ready
    cases section_ with
    | credential written change =>
        unfold custodyDiscipline serveCredentials serve spends
        dsimp only
        rw [get_run_credential]
        by_cases mine : written = account
        · subst mine
          cases found : site.users.get written with
          | none =>
              rw [if_pos rfl, if_neg (by simp), List.append_nil]
              refine ⟨fun user present => ?_, once⟩
              cases present
          | some user =>
              obtain ⟨custody, unspent⟩ := kept user found
              have against := current rfl user found
              obtain ⟨fresh, after⟩ := CredentialChange.unspent_apply unspent against
              rw [if_pos rfl, if_pos ⟨rfl, rfl⟩]
              refine ⟨fun record present => ?_, ?_⟩
              · rw [← Option.some.inj present]
                exact ⟨CredentialChange.custody_apply custody prepared.2 against, after⟩
              · rw [List.nodup_append]
                refine ⟨once, ?_, ?_⟩
                · cases change.consumes with
                  | none => exact List.nodup_nil
                  | some phrase => exact List.nodup_singleton phrase
                · intro earlier listed phrase consumed same
                  rw [Option.mem_toList] at consumed
                  exact fresh phrase consumed (same ▸ listed)
        · rw [if_neg mine, if_neg fun here => mine here.1, List.append_nil]
          exact ⟨kept, once⟩
    | _ => exact prepared.elim
  · obtain ⟨same, nothing⟩ := @users_serve_of_prepared _ account around site stage
      (requests party).toUserRequest target prepared fun section_ here => ready ⟨section_, here⟩
    unfold custodyDiscipline serveCredentials
    dsimp only
    rw [same, nothing, List.append_nil]
    exact ⟨kept, once⟩

theorem prepared_serve {request : CredentialRequest} {around : UserSurroundings}
    (prepared : Prepared request.target stage) :
    Prepared request.target (serve request.toUserRequest around site stage).2 := by
  have outcomes : ∀ {α : Type} (next : α → UserStage) (outcome : Except AccountError α),
      (∀ value, Prepared request.target (next value)) →
      Prepared request.target (.ofOutcome next outcome) := by
    intro α next outcome onward
    cases outcome with
    | ok value => exact onward value
    | error fault => exact trivial
  cases stage with
  | arrived =>
      unfold serve arrive CredentialRequest.toUserRequest
      dsimp only
      split
      · exact outcomes _ _ fun _ => trivial
      · exact trivial
  | read requester snapshot =>
      unfold serve prepare CredentialRequest.toUserRequest
      dsimp only
      split
      · rename_i change ready
        exact ⟨rfl, sealsAlike_prepareCredential ready⟩
      all_goals exact trivial
  | ready section_ => exact outcomes _ _ fun _ => trivial
  | changed rest copy =>
      unfold serve finish
      dsimp only
      split
      · exact outcomes _ _ fun _ => trivial
      · exact trivial
  | cleared rest copy => exact outcomes _ _ fun _ => trivial
  | persisted rest copy => exact outcomes _ _ fun _ => trivial
  | recorded rest copy =>
      unfold serve finish
      dsimp only
      split
      · exact outcomes _ _ fun _ => trivial
      · exact trivial
  | answered | refused => exact trivial
  | _ => exact prepared.elim

/-- **Changes against the records they find keep custody.** -/
theorem custody_keptBy :
    (custodyDiscipline requests account).KeptBy (serveCredentials requests account)
      (WritesOnCurrent account) where
  symm _ := trivial
  common _ move holds current := common_serve holds.common (holds.mine move.1) current
  mine _ move holds _ := prepared_serve (holds.mine move.1)
  others _ _ holds _ other _ := holds.mine other
  apart _ _ _ _ _ _ := trivial

variable [DecidableEq ι]

/-- **The key opens with the password in every state**, however the operations on credentials
interleave, if each change is against the record it is written on. -/
theorem keyOpens_always (requests : ι → CredentialRequest) (account : Uuid) (site : UserSite)
    (custody : ∀ user, site.users.get account = some user → user.Custody)
    (moves : List (ι × UserSurroundings))
    (current : Run.Admissible (turn (serveCredentials requests account)) (WritesOnCurrent account)
      ⟨(site, []), fun _ => .arrived⟩ moves) :
    ∀ world ∈ Run.states (turn (serveCredentials requests account))
      ⟨(site, []), fun _ => .arrived⟩ moves, KeyOpens account world.shared := by
  have initial : (custodyDiscipline requests account).Holds ⟨(site, []), fun _ => .arrived⟩ := by
    refine ⟨⟨fun user found => ⟨custody user found, fun hash _ => List.not_mem_nil⟩,
      List.nodup_nil⟩, fun _ => trivial, fun _ _ _ => trivial⟩
  intro world reached
  obtain ⟨⟨kept, once⟩, -, -⟩ := custody_keptBy.holds initial current world reached
  refine ⟨fun user found => (kept user found).1, fun user hash password found stored right => ?_,
    once⟩
  exact (kept user found).1.unlockKey_eq_ok stored right

end Requests

/-! ### A new password and a new key -/

open scoped Reference

def keeper : UserSite := ofUsers (.fromIter
  [{ owner ⟨1⟩ "ana" with attestationKey := some ⟨3, "a long passphrase", 0⟩ }])

/-- The user sets another password and rotates the key, proving the password each time. -/
def rekeying (second : String) (party : Bool) : CredentialRequest :=
  if party then ⟨some "ana", ⟨1⟩, .setSecret "another passphrase", ⟨some "a long passphrase", none⟩⟩
  else ⟨some "ana", ⟨1⟩, .generateAttestationKey, ⟨some second, none⟩⟩

theorem custody_keeper : ∀ user, keeper.users.get ⟨1⟩ = some user → user.Custody := by
  have same : keeper.users.get ⟨1⟩ =
      some { owner ⟨1⟩ "ana" with attestationKey := some ⟨3, "a long passphrase", 0⟩ } := by
    decide +kernel
  intro user found
  rw [same] at found
  rw [← Option.some.inj found]
  constructor
  · intro blob held
    rw [← Option.some.inj held]
    exact ⟨_, rfl, rfl⟩
  · intro blob _ retired listed
    cases listed

/-- One after the other, with the new password for the new key. -/
theorem keyOpens_rekeying :
    KeyOpens ⟨1⟩ ((List.replicate 3 (true, calm) ++ List.replicate 3 (false, calm)).foldl
      (turn (serveCredentials (rekeying "another passphrase") ⟨1⟩))
        ⟨(keeper, []), fun _ => .arrived⟩).shared :=
  keyOpens_always (rekeying "another passphrase") ⟨1⟩ keeper custody_keeper _
    (by decide +kernel) _ (Run.foldl_mem_states _ _)

/-- The password set between the check of the old one and the lock: the new key is wrapped under
a password no verifier accepts, and no sign-in opens it. -/
theorem not_keyOpens :
    ¬∀ (requests : Bool → CredentialRequest) (account : Uuid) (site : UserSite)
      (moves : List (Bool × UserSurroundings)),
      (∀ user, site.users.get account = some user → user.Custody) →
      ∀ world ∈ Run.states (turn (serveCredentials requests account))
        ⟨(site, []), fun _ => .arrived⟩ moves, KeyOpens account world.shared := by
  intro always
  have holds := always (rekeying "a long passphrase") ⟨1⟩ keeper
    [(false, calm), (false, calm), (true, calm), (true, calm), (true, calm), (false, calm)]
    custody_keeper _ (Run.foldl_mem_states _ _)
  exact absurd holds.all_wrapped (by decide +kernel)

end UserSite

end Chancela
