import Chancela.Crates.Reference
import Chancela.Token.Store

/-! # What a store of emailed tokens remembers

A store run from empty holds a record for each token issued and neither superseded, presented,
invalidated nor found expired since. A secret is therefore redeemed exactly when it is that of
such a token, for its purpose and before its expiry, and at most once
(`Chancela.AuthTokenStore.accounted`).
-/

namespace Chancela

open Table

variable [Crates] [Base64Crate]

/-- A call on the store, with what it draws. -/
inductive StoreCall where
  | issue (purpose : AuthTokenPurpose) (subject : AuthTokenSubject) (ttl : Int) (now : Instant)
      (id : Uuid) (drawn : Vector UInt8 32)
  | issueTranscribable (purpose : AuthTokenPurpose) (subject : AuthTokenSubject) (ttl : Int)
      (now : Instant) (id : Uuid) (drawn : List UInt8)
  | redeem (purpose : AuthTokenPurpose) (presented : String) (now : Instant)
  | invalidateSubject (subject : AuthTokenSubject)
  | invalidateUser (userId : Uuid)
  | invalidatePurposeForSubject (purpose : AuthTokenPurpose) (subject : AuthTokenSubject)
  | pruneExpired (now : Instant)

namespace StoreCall

/-- The secret and the record of the token a call issues. -/
def issued : StoreCall → Option (String × AuthTokenRecord)
  | .issue purpose subject ttl now id drawn =>
      let plaintext := String.ofList (Base64Crate.urlSafeNoPad.encode drawn.toList)
      some (plaintext, AuthTokenStore.recordOf purpose subject ttl now id plaintext)
  | .issueTranscribable purpose subject ttl now id drawn =>
      let plaintext := transcribableSecret drawn
      some (plaintext, AuthTokenStore.recordOf purpose subject ttl now id plaintext)
  | _ => none

def secret : StoreCall → Option String
  | .redeem _ presented _ => some presented
  | call => call.issued.map Prod.fst

def serve (store : AuthTokenStore) : StoreCall → AuthTokenStore
  | .issue purpose subject ttl now id drawn => (store.issue purpose subject ttl now id drawn).1
  | .issueTranscribable purpose subject ttl now id drawn =>
      (store.issueTranscribable purpose subject ttl now id drawn).1
  | .redeem purpose presented now => (store.redeem purpose presented now).1
  | .invalidateSubject subject => (store.invalidateSubject subject).1
  | .invalidateUser userId => (store.invalidateUser userId).1
  | .invalidatePurposeForSubject purpose subject =>
      (store.invalidatePurposeForSubject purpose subject).1
  | .pruneExpired now => (store.pruneExpired now).1

def redeemed (store : AuthTokenStore) : StoreCall → List String
  | .redeem purpose presented now =>
      match (store.redeem purpose presented now).2 with
      | .ok _ => [presented]
      | .error _ => []
  | _ => []

/-- The call puts an end to a token: it issues a newer one for the same purpose and subject, it
presents the secret, for whatever purpose, it invalidates the token, or it finds it expired. -/
def Ends (secret : String) (record : AuthTokenRecord) : StoreCall → Prop
  | .issue purpose subject _ now _ _ | .issueTranscribable purpose subject _ now _ _ =>
      (record.purpose = purpose ∧ record.subject = subject) ∨ record.expiresAt ≤ now
  | .redeem _ presented _ => presented = secret
  | .invalidateSubject subject => record.subject = subject
  | .invalidateUser userId => record.subject = .user userId
  | .invalidatePurposeForSubject purpose subject =>
      record.purpose = purpose ∧ record.subject = subject
  | .pruneExpired now => record.expiresAt ≤ now

end StoreCall

namespace AuthTokenStore

def after (calls : List StoreCall) : AuthTokenStore := calls.foldl StoreCall.serve empty

def redeemedFrom (store : AuthTokenStore) : List StoreCall → List String
  | [] => []
  | call :: rest => call.redeemed store ++ redeemedFrom (call.serve store) rest

/-- The token of the call is live in what follows: nothing has put an end to it. -/
def Stands (calls : List StoreCall) (secret : String) (record : AuthTokenRecord) : Prop :=
  ∃ before call rest, calls = before ++ call :: rest ∧ call.issued = some (secret, record) ∧
    ∀ later ∈ rest, ¬later.Ends secret record

/-- What a store keeps of a run, and which secrets it redeems. -/
structure Accounted (calls : List StoreCall) : Prop where
  single : ∀ first ∈ (after calls).values, ∀ second ∈ (after calls).values,
    first.purpose = second.purpose → first.subject = second.subject → first = second
  own : ∀ verifier record, (after calls).get verifier = some record → record.verifier = verifier
  lifetime : ∀ record ∈ (after calls).values,
    (record.purpose.ttlBounds.1 ≤ record.expiresAt.nanos - record.issuedAt.nanos ∧
      record.expiresAt.nanos - record.issuedAt.nanos ≤ record.purpose.ttlBounds.2) ∨
    ∀ instant : Instant, instant.offset = record.issuedAt.offset → instant ≤ record.expiresAt
  redeems : ∀ before purpose presented now rest,
    calls = before ++ .redeem purpose presented now :: rest → ∀ record,
      (redeem (after before) purpose presented now).2 = .ok record ↔
        Stands before presented record ∧ record.purpose = purpose ∧ now < record.expiresAt
  once : (redeemedFrom empty calls).Nodup

def change : StoreCall → Edit AuthTokenRecord
  | .issue purpose subject ttl now id drawn =>
      ⟨fun record =>
          record.isLiveAt now && !(record.purpose == purpose && record.subject == subject),
        some (recordOf purpose subject ttl now id
          (String.ofList (Base64Crate.urlSafeNoPad.encode drawn.toList)))⟩
  | .issueTranscribable purpose subject ttl now id drawn =>
      ⟨fun record =>
          record.isLiveAt now && !(record.purpose == purpose && record.subject == subject),
        some (recordOf purpose subject ttl now id (transcribableSecret drawn))⟩
  | .redeem _ presented _ => ⟨fun record => record.verifier != .of presented, none⟩
  | .invalidateSubject subject => ⟨fun record => record.subject != subject, none⟩
  | .invalidateUser userId => ⟨fun record => record.subject != .user userId, none⟩
  | .invalidatePurposeForSubject purpose subject =>
      ⟨fun record => !(record.purpose == purpose && record.subject == subject), none⟩
  | .pruneExpired now => ⟨fun record => record.isLiveAt now, none⟩

variable {store : AuthTokenStore} {verifier : AuthTokenVerifier} {record : AuthTokenRecord}

omit [Base64Crate] in
theorem get_issueSecret {purpose : AuthTokenPurpose} {subject : AuthTokenSubject} {ttl : Int}
    {now : Instant} {id : Uuid} {plaintext : String} {edit : Edit AuthTokenRecord}
    (keeps : edit.keeps = fun record =>
      record.isLiveAt now && !(record.purpose == purpose && record.subject == subject))
    (put : edit.puts = some (recordOf purpose subject ttl now id plaintext)) :
    (issueSecret store purpose subject ttl now id plaintext).1.get verifier = some record ↔
      record.verifier = verifier ∧ (edit.puts = some record ∨
        store.get verifier = some record ∧ edit.Leaves AuthTokenRecord.verifier record) := by
  rw [← get_insert_retain_iff_leaves put]
  unfold issueSecret invalidatePurposeForSubject pruneExpired dropUnless
  rw [get_insert_eq_some_iff, get_insert_eq_some_iff, get_retain_eq_some_iff,
    get_retain_eq_some_iff, get_retain_eq_some_iff, keeps, Bool.and_eq_true, and_assoc]

omit [Base64Crate] in
theorem get_redeem {purpose : AuthTokenPurpose} {presented : String} {now : Instant} :
    (store.redeem purpose presented now).1.get verifier = some record ↔
      verifier ≠ .of presented ∧ store.get verifier = some record := by
  unfold redeem
  dsimp only
  split
  · next absent =>
      constructor
      · intro present
        refine ⟨fun same => ?_, present⟩
        rw [same, absent] at present
        cases present
      · exact And.right
  · exact get_erase_eq_some_iff

theorem follows : Follows StoreCall.serve change := by
  intro store call verifier record
  cases call with
  | issue purpose subject ttl now id drawn => exact get_issueSecret rfl rfl
  | issueTranscribable purpose subject ttl now id drawn => exact get_issueSecret rfl rfl
  | redeem purpose presented now =>
      rw [← get_retain_iff_leaves (change (.redeem purpose presented now)) rfl, StoreCall.serve,
        get_redeem, get_retain_eq_some_iff]
      constructor
      · intro ⟨apart, present⟩
        refine ⟨present, ?_⟩
        rw [← key_of_get present] at apart
        exact bne_iff_ne.mpr apart
      · intro ⟨present, apart⟩
        refine ⟨?_, present⟩
        rw [← key_of_get present]
        exact bne_iff_ne.mp apart
  | invalidateSubject subject =>
    exact get_retain_iff_leaves (change (.invalidateSubject subject)) rfl
  | invalidateUser userId => exact get_retain_iff_leaves (change (.invalidateUser userId)) rfl
  | invalidatePurposeForSubject purpose subject =>
    exact get_retain_iff_leaves (change (.invalidatePurposeForSubject purpose subject)) rfl
  | pruneExpired now => exact get_retain_iff_leaves (change (.pruneExpired now)) rfl

def issuedSecrets (calls : List StoreCall) : List String :=
  calls.filterMap fun call => call.issued.map Prod.fst

def secrets (calls : List StoreCall) : Set String :=
  {secret | ∃ call ∈ calls, call.secret = some secret}

variable {calls : List StoreCall} {call : StoreCall} {secret : String}

theorem puts_change : (change call).puts = call.issued.map Prod.snd := by
  cases call <;> rfl

theorem verifier_of_issued (issued : call.issued = some (secret, record)) :
    record.verifier = .of secret := by
  cases call with
  | issue purpose subject ttl now id drawn =>
      obtain ⟨rfl, rfl⟩ := Prod.mk.inj (Option.some.inj issued)
      rfl
  | issueTranscribable purpose subject ttl now id drawn =>
      obtain ⟨rfl, rfl⟩ := Prod.mk.inj (Option.some.inj issued)
      rfl
  | _ => cases issued

theorem secret_of_issued (issued : call.issued = some (secret, record)) :
    call.secret = some secret := by
  cases call with
  | redeem purpose presented now => cases issued
  | _ => exact congrArg (Option.map Prod.fst) issued

theorem leaves_change_iff (verifier : record.verifier = .of secret)
    (told : ∀ other, call.secret = some other → AuthTokenVerifier.of other = .of secret →
      other = secret)
    (fresh : ∀ other, call.issued = some other → other.1 ≠ secret) :
    (change call).Leaves AuthTokenRecord.verifier record ↔ ¬call.Ends secret record := by
  have apart : ∀ other, (change call).puts = some other → other.verifier ≠ record.verifier := by
    intro other put same
    rw [puts_change] at put
    obtain ⟨⟨issued, _⟩, given, rfl⟩ := Option.map_eq_some_iff.mp put
    rw [verifier_of_issued given, verifier] at same
    exact fresh _ given (told issued (secret_of_issued given) same)
  have keeps : (change call).Leaves AuthTokenRecord.verifier record ↔
      (change call).keeps record = true := and_iff_left apart
  rw [keeps]
  cases call with
  | redeem purpose presented now =>
      have same : AuthTokenVerifier.of presented = .of secret ↔ presented = secret :=
        ⟨told presented rfl, congrArg _⟩
      simp only [change, bne_iff_ne, verifier, StoreCall.Ends, ← same]
      exact not_congr eq_comm
  | issue purpose subject ttl now id drawn =>
      simp only [change, StoreCall.Ends, AuthTokenRecord.isLiveAt, Bool.and_eq_true,
        decide_eq_true_eq, Bool.not_eq_true', Bool.and_eq_false_iff, beq_eq_false_iff_ne,
        not_or, Instant.lt_def, Instant.le_def, Int.not_le, ← not_and_or, and_comm]
  | issueTranscribable purpose subject ttl now id drawn =>
      simp only [change, StoreCall.Ends, AuthTokenRecord.isLiveAt, Bool.and_eq_true,
        decide_eq_true_eq, Bool.not_eq_true', Bool.and_eq_false_iff, beq_eq_false_iff_ne,
        not_or, Instant.lt_def, Instant.le_def, Int.not_le, ← not_and_or, and_comm]
  | invalidateSubject subject => simp only [change, bne_iff_ne, StoreCall.Ends, ne_eq]
  | invalidateUser userId => simp only [change, bne_iff_ne, StoreCall.Ends, ne_eq]
  | invalidatePurposeForSubject purpose subject =>
      simp only [change, StoreCall.Ends, Bool.not_eq_true', Bool.and_eq_false_iff,
        beq_eq_false_iff_ne, ← not_and_or]
  | pruneExpired now =>
      simp only [change, StoreCall.Ends, AuthTokenRecord.isLiveAt, decide_eq_true_eq,
        Instant.lt_def, Instant.le_def, Int.not_le]

theorem mem_issuedSecrets (listed : call ∈ calls) (issued : call.issued = some (secret, record)) :
    secret ∈ issuedSecrets calls :=
  List.mem_filterMap.mpr ⟨call, listed, by rw [issued]; rfl⟩

theorem issuedSecrets_append (first second : List StoreCall) :
    issuedSecrets (first ++ second) = issuedSecrets first ++ issuedSecrets second :=
  List.filterMap_append

theorem issuedSecrets_cons (issued : call.issued = some (secret, record)) :
    issuedSecrets (call :: calls) = secret :: issuedSecrets calls := by
  unfold issuedSecrets
  rw [List.filterMap_cons, issued]
  rfl

/-- **What the store holds.** With secrets issued once and told apart by their verifiers, the
store holds the tokens that stand. -/
theorem get_after_iff (distinct : (issuedSecrets calls).Nodup)
    (injective : Set.InjOn AuthTokenVerifier.of (insert secret (secrets calls))) :
    (after calls).get (.of secret) = some record ↔ Stands calls secret record := by
  have told : ∀ call ∈ calls, ∀ other, call.secret = some other →
      AuthTokenVerifier.of other = .of secret → other = secret := fun call listed other named =>
    injective (.inr ⟨call, listed, named⟩) (.inl rfl)
  have fresh : ∀ before call rest, calls = before ++ call :: rest →
      call.issued = some (secret, record) → ∀ later ∈ rest, ∀ other,
        later.issued = some other → other.1 ≠ secret := by
    intro before call rest split issued later listed other given same
    rw [split, issuedSecrets_append, issuedSecrets_cons issued] at distinct
    have once := (List.nodup_cons.mp distinct.of_append_right).1
    obtain ⟨issued', _⟩ := other
    exact once (same ▸ mem_issuedSecrets listed given)
  unfold after
  rw [follows.get_foldl_eq_some_iff]
  constructor
  · intro ⟨verifier, before, call, rest, split, put, left⟩
    rw [puts_change] at put
    obtain ⟨⟨issued, _⟩, given, rfl⟩ := Option.map_eq_some_iff.mp put
    have listed : call ∈ calls := by
      rw [split]
      exact List.mem_append_right before List.mem_cons_self
    rw [verifier_of_issued given] at verifier
    obtain rfl := told call listed issued (secret_of_issued given) verifier
    refine ⟨before, call, rest, split, given, fun later member => ?_⟩
    have among : later ∈ calls := by
      rw [split]
      exact List.mem_append_right before (List.mem_cons_of_mem call member)
    exact (leaves_change_iff (verifier_of_issued given) (told later among)
      (fresh before call rest split given later member)).mp (left later member)
  · intro ⟨before, call, rest, split, given, stands⟩
    refine ⟨verifier_of_issued given, before, call, rest, split, ?_, fun later member => ?_⟩
    · rw [puts_change, given]
      rfl
    · have among : later ∈ calls := by
        rw [split]
        exact List.mem_append_right before (List.mem_cons_of_mem call member)
      exact (leaves_change_iff (verifier_of_issued given) (told later among)
        (fresh before call rest split given later member)).mpr (stands later member)

omit [Base64Crate] in
theorem redeem_eq_ok_iff {purpose : AuthTokenPurpose} {presented : String} {now : Instant} :
    (store.redeem purpose presented now).2 = .ok record ↔
      store.get (.of presented) = some record ∧ record.purpose = purpose ∧
        now < record.expiresAt := by
  unfold redeem
  dsimp only
  split
  · next absent => simp only [absent, reduceCtorEq, false_and]
  · next found present =>
      have same : found.verifier.matches_ (.of presented) = true :=
        AuthTokenVerifier.matches_iff.mpr (key_of_get present)
      simp only [present, same, Bool.not_true, Bool.false_or, Option.some.injEq]
      constructor
      · intro given
        split at given
        · cases given
        · next passes =>
            obtain rfl := Except.ok.inj given
            simp only [Bool.or_eq_true, bne_iff_ne, ne_eq, Bool.not_eq_true', not_or,
              Decidable.not_not, Bool.not_eq_false] at passes
            exact ⟨rfl, passes.1, of_decide_eq_true passes.2⟩
      · intro ⟨same, named, live⟩
        subst same
        have alive : found.isLiveAt now = true := decide_eq_true live
        simp only [named, alive, bne_self_eq_false, Bool.not_true, Bool.or_self,
          Bool.false_eq_true, ↓reduceIte]

theorem after_concat : after (calls ++ [call]) = call.serve (after calls) :=
  List.foldl_concat ..

theorem not_keeps_of_puts {issued : AuthTokenRecord} (put : (change call).puts = some issued)
    (purpose : record.purpose = issued.purpose) (subject : record.subject = issued.subject) :
    (change call).keeps record = false := by
  cases call with
  | issue _ _ _ now _ _ =>
      obtain rfl := Option.some.inj put
      simp only [change, recordOf] at purpose subject ⊢
      simp only [purpose, subject, beq_self_eq_true, Bool.and_self, Bool.not_true, Bool.and_false]
  | issueTranscribable _ _ _ now _ _ =>
      obtain rfl := Option.some.inj put
      simp only [change, recordOf] at purpose subject ⊢
      simp only [purpose, subject, beq_self_eq_true, Bool.and_self, Bool.not_true, Bool.and_false]
  | _ => cases put

theorem single_after (calls : List StoreCall) : ∀ first ∈ (after calls).values,
    ∀ second ∈ (after calls).values, first.purpose = second.purpose →
      first.subject = second.subject → first = second := by
  induction calls using List.reverseRecOn with
  | nil =>
      intro first member
      exact absurd member List.not_mem_nil
  | append_singleton calls call ih =>
      intro first held second held' purpose subject
      rw [mem_values, after_concat, follows] at held held'
      rcases held.2 with put | ⟨present, kept, _⟩ <;>
        rcases held'.2 with put' | ⟨present', kept', _⟩
      · exact Option.some.inj (put.symm.trans put')
      · rw [not_keeps_of_puts put purpose.symm subject.symm] at kept'
        cases kept'
      · rw [not_keeps_of_puts put' purpose subject] at kept
        cases kept
      · exact ih first (mem_values.mpr present) second (mem_values.mpr present') purpose subject

theorem lifetime_of_put (put : (change call).puts = some record) :
    (record.purpose.ttlBounds.1 ≤ record.expiresAt.nanos - record.issuedAt.nanos ∧
      record.expiresAt.nanos - record.issuedAt.nanos ≤ record.purpose.ttlBounds.2) ∨
    ∀ instant : Instant, instant.offset = record.issuedAt.offset →
      instant ≤ record.expiresAt := by
  have limited : ∀ (purpose : AuthTokenPurpose) (ttl : Int) (now : Instant),
      (purpose.ttlBounds.1 ≤ (now.saturatingAdd (purpose.clampTtl ttl)).nanos - now.nanos ∧
        (now.saturatingAdd (purpose.clampTtl ttl)).nanos - now.nanos ≤ purpose.ttlBounds.2) ∨
      ∀ instant : Instant, instant.offset = now.offset →
        instant ≤ now.saturatingAdd (purpose.clampTtl ttl) := by
    intro purpose ttl now
    have bounds := purpose.clampTtl_bounds ttl
    have forward : 0 ≤ purpose.clampTtl ttl := Int.le_trans purpose.ordered_ttlBounds.1 bounds.1
    rcases Instant.saturatingAdd_of_nonneg forward with sum | last
    · rw [sum]
      exact .inl (by omega)
    · rw [last]
      exact .inr fun instant same => same ▸ instant.le_latest
  cases call with
  | issue purpose _ ttl now _ _ =>
      obtain rfl := Option.some.inj put
      exact limited purpose ttl now
  | issueTranscribable purpose _ ttl now _ _ =>
      obtain rfl := Option.some.inj put
      exact limited purpose ttl now
  | _ => cases put

theorem redeemedFrom_append (first second : List StoreCall) :
    redeemedFrom store (first ++ second) =
      redeemedFrom store first ++ redeemedFrom (first.foldl StoreCall.serve store) second := by
  induction first generalizing store with
  | nil => rfl
  | cons call rest ih =>
      rw [List.cons_append, redeemedFrom, redeemedFrom, ih, List.append_assoc, List.foldl_cons]

omit [Base64Crate] in
theorem mem_redeemed (member : secret ∈ call.redeemed store) :
    ∃ purpose now record, call = .redeem purpose secret now ∧
      (store.redeem purpose secret now).2 = .ok record := by
  cases call with
  | redeem purpose presented now =>
      unfold StoreCall.redeemed at member
      dsimp only at member
      split at member
      · next record success =>
          obtain rfl := List.mem_singleton.mp member
          exact ⟨purpose, now, record, rfl, success⟩
      · exact absurd member List.not_mem_nil
  | _ => exact absurd member List.not_mem_nil

theorem mem_redeemedFrom (member : secret ∈ redeemedFrom empty calls) :
    ∃ before purpose now record rest, calls = before ++ .redeem purpose secret now :: rest ∧
      ((after before).redeem purpose secret now).2 = .ok record := by
  induction calls using List.reverseRecOn with
  | nil => exact absurd member List.not_mem_nil
  | append_singleton calls call ih =>
      rw [redeemedFrom_append] at member
      rcases List.mem_append.mp member with earlier | last
      · obtain ⟨before, purpose, now, record, rest, rfl, success⟩ := ih earlier
        exact ⟨before, purpose, now, record, rest ++ [call], by simp, success⟩
      · rw [redeemedFrom, redeemedFrom, List.append_nil] at last
        obtain ⟨purpose, now, record, rfl, success⟩ := mem_redeemed last
        exact ⟨calls, purpose, now, record, [], rfl, success⟩

theorem rest_eq_of_issued {before before' rest rest' : List StoreCall} {call' : StoreCall}
    {record' : AuthTokenRecord} (distinct : (issuedSecrets (before ++ call :: rest)).Nodup)
    (issued : call.issued = some (secret, record)) (issued' : call'.issued = some (secret, record'))
    (same : before ++ call :: rest = before' ++ call' :: rest') : rest = rest' := by
  have once : ∀ {front middle back : List StoreCall} {one other : StoreCall}
      {r r' : AuthTokenRecord}, one.issued = some (secret, r) → other.issued = some (secret, r') →
      ¬(issuedSecrets (front ++ one :: middle ++ other :: back)).Nodup := by
    intro front middle back one other r r' given given' nodup
    rw [List.append_assoc, List.cons_append, issuedSecrets_append,
      issuedSecrets_cons given] at nodup
    have fresh := (List.nodup_cons.mp nodup.of_append_right).1
    exact fresh (mem_issuedSecrets (List.mem_append_right middle List.mem_cons_self) given')
  rcases List.append_eq_append_iff.mp same with ⟨between, rfl, parts⟩ | ⟨between, rfl, parts⟩
  · cases between with
    | nil => exact (List.cons.inj parts).2
    | cons head middle =>
        obtain ⟨rfl, rfl⟩ := List.cons.inj parts
        rw [same] at distinct
        exact absurd distinct (once issued issued')
  · cases between with
    | nil => exact (List.cons.inj parts).2.symm
    | cons head middle =>
        obtain ⟨rfl, rfl⟩ := List.cons.inj parts
        exact absurd distinct (once issued' issued)

/-- **Tokens are accounted for.** With generated secrets distinct and told apart by their
digests, a store has one record for a purpose and a subject at most, each under its own
verifier and of a lifetime its purpose allows; a secret is redeemed exactly while its token
stands, for its purpose and before its expiry, and once at most. -/
theorem accounted (calls : List StoreCall) (distinct : (issuedSecrets calls).Nodup)
    (injective : Set.InjOn sha256 (Set.image Text.utf8 (secrets calls))) : Accounted calls := by
  have told : Set.InjOn AuthTokenVerifier.of (secrets calls) := by
    intro first listed second listed' same
    apply Text.utf8_injective
    apply injective (Set.mem_image_of_mem _ listed) (Set.mem_image_of_mem _ listed')
    exact congrArg AuthTokenVerifier.bytes same
  have redeems : ∀ before purpose presented now rest,
      calls = before ++ .redeem purpose presented now :: rest → ∀ record,
        (redeem (after before) purpose presented now).2 = .ok record ↔
          Stands before presented record ∧ record.purpose = purpose ∧ now < record.expiresAt := by
    intro before purpose presented now rest split record
    have fewer : (issuedSecrets before).Nodup := by
      rw [split, issuedSecrets_append] at distinct
      exact distinct.of_append_left
    have within : insert presented (secrets before) ⊆ secrets calls := by
      intro secret member
      rcases member with rfl | ⟨call, listed, named⟩
      · exact ⟨.redeem purpose secret now, by simp [split], rfl⟩
      · exact ⟨call, by simp [split, listed], named⟩
    rw [redeem_eq_ok_iff, get_after_iff fewer (told.mono within)]
  refine ⟨single_after calls, fun _ _ => key_of_get, fun record held => ?_, redeems, ?_⟩
  · obtain ⟨-, before, call, rest, -, put, -⟩ :=
      follows.get_foldl_eq_some_iff.mp (mem_values.mp held)
    exact lifetime_of_put put
  · clear told injective
    induction calls using List.reverseRecOn with
    | nil => exact List.nodup_nil
    | append_singleton calls call ih =>
        have fewer : (issuedSecrets calls).Nodup := by
          rw [issuedSecrets_append] at distinct
          exact distinct.of_append_left
        have earlier := ih fewer fun before purpose presented now rest split =>
          redeems before purpose presented now (rest ++ [call]) (by simp [split])
        rw [redeemedFrom_append, redeemedFrom, redeemedFrom, List.append_nil]
        refine earlier.append ?_ fun secret redeemed again => ?_
        · cases call with
          | redeem purpose presented now =>
              unfold StoreCall.redeemed
              dsimp only
              split
              · exact List.nodup_singleton _
              · exact List.nodup_nil
          | _ => exact List.nodup_nil
        · -- The token stood when the secret was redeemed, and has been spent since.
          obtain ⟨before, purpose, now, record, rest, rfl, success⟩ := mem_redeemedFrom redeemed
          obtain ⟨purpose', now', record', rfl, success'⟩ := mem_redeemed again
          obtain ⟨⟨front, issue, middle, rfl, issued, -⟩, -, -⟩ :=
            (redeems before purpose secret now
              (rest ++ [.redeem purpose' secret now']) (by simp) record).mp success
          obtain ⟨⟨front', issue', after', split, issued', stands⟩, -, -⟩ :=
            (redeems _ purpose' secret now' [] rfl record').mp success'
          have parts : front ++ issue :: (middle ++ .redeem purpose secret now :: rest) =
              front' ++ issue' :: after' := by
            rw [← split]
            simp
          have same := rest_eq_of_issued (by rw [parts, ← split]; exact fewer) issued issued' parts
          have spent : StoreCall.redeem purpose secret now ∈ after' := by
            rw [← same]
            exact List.mem_append_right middle List.mem_cons_self
          exact stands _ spent rfl

end AuthTokenStore

end Chancela

namespace Chancela.AuthTokenStore

open scoped Reference

theorem mailedAt_representable : (-377705116800000000000 : Int) ≤ 1770000000000000000 ∧
    (1770000000000000000 : Int) ≤ 253402300799999999999 := by decide

def mailedAt : Instant := ⟨1770000000000000000, 0, mailedAt_representable⟩

/-- A recovery token is issued and its secret typed in twice. -/
def recoveryCalls : List StoreCall :=
  [.issueTranscribable .passwordRecovery (.user ⟨1#128⟩) (Duration.minutes 15) mailedAt ⟨2#128⟩
      (List.replicate 16 0),
    .redeem .passwordRecovery "AAAA-AAAA-AAAA-AAAA" mailedAt,
    .redeem .passwordRecovery "AAAA-AAAA-AAAA-AAAA" mailedAt]

/-- It is redeemed once. -/
theorem accounted_recovery : Accounted recoveryCalls ∧
    redeemedFrom Table.empty recoveryCalls = ["AAAA-AAAA-AAAA-AAAA"] := by
  have alone : ∀ secret ∈ secrets recoveryCalls, secret = "AAAA-AAAA-AAAA-AAAA" := by
    intro secret member
    obtain ⟨call, listed, named⟩ := member
    simp only [recoveryCalls, List.mem_cons, List.not_mem_nil, or_false] at listed
    rcases listed with rfl | rfl | rfl
    · exact (Option.some.inj named).symm
    · exact (Option.some.inj named).symm
    · exact (Option.some.inj named).symm
  refine ⟨accounted recoveryCalls (List.nodup_singleton _) ?_, by decide +kernel⟩
  intro _ first _ second _
  obtain ⟨secret, listed, rfl⟩ := first
  obtain ⟨secret', listed', rfl⟩ := second
  rw [alone secret listed, alone secret' listed']

end Chancela.AuthTokenStore
