import Chancela.Connector.Registry
import Chancela.Foundation.Replay

/-! # Changes of the registry

What a change of a target is meant to do, whoever makes it and whatever it copied before: a new
target is added, a patch sets the fields it gives on the target as it is, an archive puts it
away. The registry is what its acknowledged changes, replayed, make of it; then every field
shows the last change that set it, an archived target stays archived, and names and numbers
stay within their bounds (`Chancela.TargetRegistry.sound_of_replay`).
-/

namespace Chancela

open Replay

/-- The fields of a target that requests set. -/
inductive TargetField where
  | name
  | enabled
  | purposes
  | config
deriving DecidableEq

/-- A change of a target, made to the target as it is. -/
inductive TargetChange where
  | created (record : ConnectorTargetRecord)
  | updated (target : Uuid) (body : PatchTargetBody) (now : String)
  | archived (target : Uuid) (now : String)

/-- The map and the events that describe it. -/
structure TargetRegistry where
  targets : ConnectorTargetMap
  events : List TargetEvent

/-- A change, and who made it. -/
structure TargetEdit where
  actor : String
  change : TargetChange

def TargetField.SameOn (first second : ConnectorTargetRecord) : TargetField → Prop
  | name => first.name = second.name
  | enabled => first.enabled = second.enabled
  | purposes => first.purposes = second.purposes
  | config => first.config = second.config

namespace TargetChange

def target : TargetChange → Uuid
  | created record => record.id
  | updated target _ _ => target
  | archived target _ => target

def kind : TargetChange → String
  | created _ => "connector_target.created"
  | updated _ _ _ => "connector_target.updated"
  | archived _ _ => "connector_target.archived"

/-- What a change makes of its target: a new one needs its id, its name and its place free, a
patch needs its target active and the name free. -/
def result (targets : ConnectorTargetMap) : TargetChange → Option ConnectorTargetRecord
  | created record =>
      if targets.get record.id = none ∧ targets.countActive record.tenantId < maxTargetsPerTenant ∧
          targets.values.any record.rivals = false then some record else none
  | updated target body now =>
      (targets.get target).bind fun found =>
        if found.isActive = true ∧ targets.values.any (fun candidate =>
            candidate.id ≠ found.id && (found.patched body now).rivals candidate) = false then
          some (found.patched body now) else none
  | archived target now => (targets.get target).map (·.archived now)

def Sets : TargetChange → TargetField → Prop
  | created _, _ => True
  | updated _ body _, .name => body.name.isSome = true
  | updated _ body _, .enabled => body.enabled.isSome = true
  | updated _ body _, .purposes => body.purposes.isSome = true
  | updated _ body _, .config => body.config.isSome = true
  | archived _ _, field => field = .enabled

/-- A record has in a field what a change asks for there. -/
def ShowsOn (record : ConnectorTargetRecord) : TargetChange → TargetField → Prop
  | created asked, .name => record.name = asked.name
  | created asked, .enabled => record.enabled = asked.enabled
  | created asked, .purposes => record.purposes = asked.purposes
  | created asked, .config => record.config = asked.config
  | updated _ body _, .name => body.name.map Text.trim = some record.name
  | updated _ body _, .enabled => body.enabled = some record.enabled
  | updated _ body _, .purposes => body.purposes = some record.purposes
  | updated target body _, .config =>
      body.config.map (·.withId target.display) = some record.config
  | archived _ _, .enabled => record.enabled = false
  | archived _ _, _ => True

end TargetChange

namespace TargetRegistry

def edit (registry : TargetRegistry) (edit : TargetEdit) : Option TargetRegistry :=
  (edit.change.result registry.targets).map fun record =>
    { targets := registry.targets.insert record
      events := registry.events ++ [record.event edit.actor edit.change.kind] }

def Shows (edit : TargetEdit) (place : Uuid × TargetField) (registry : TargetRegistry) : Prop :=
  ∃ record, registry.targets.get place.1 = some record ∧ edit.change.ShowsOn record place.2

def Sets (edit : TargetEdit) (place : Uuid × TargetField) : Prop :=
  edit.change.target = place.1 ∧ edit.change.Sets place.2

end TargetRegistry

def ArchivedStay (before after : ConnectorTargetMap) : Prop :=
  ∀ target record, before.get target = some record → record.isActive = false →
    ∃ later, after.get target = some later ∧ later.isActive = false

theorem ArchivedStay.refl (targets : ConnectorTargetMap) : ArchivedStay targets targets :=
  fun _ record present archived => ⟨record, present, archived⟩

theorem ArchivedStay.trans {first second third : ConnectorTargetMap}
    (before : ArchivedStay first second) (after : ArchivedStay second third) :
    ArchivedStay first third := by
  intro target record present archived
  obtain ⟨later, found, still⟩ := before target record present archived
  exact after target later found still

/-! ### One change -/

namespace TargetChange

variable {targets : ConnectorTargetMap} {change : TargetChange} {record : ConnectorTargetRecord}

theorem id_of_result (made : change.result targets = some record) : record.id = change.target := by
  cases change with
  | created asked =>
      obtain ⟨-, same⟩ := Option.ite_none_right_eq_some.mp made
      rw [← Option.some.inj same]
      rfl
  | updated target body now =>
      obtain ⟨found, present, made⟩ := Option.bind_eq_some_iff.mp made
      obtain ⟨-, same⟩ := Option.ite_none_right_eq_some.mp made
      rw [← Option.some.inj same]
      exact (Table.key_of_get present : found.id = target)
  | archived target now =>
      obtain ⟨found, present, same⟩ := Option.map_eq_some_iff.mp made
      rw [← same]
      exact (Table.key_of_get present : found.id = target)

theorem showsOn_result (made : change.result targets = some record) {field : TargetField}
    (sets : change.Sets field) : change.ShowsOn record field := by
  cases change with
  | created asked =>
      obtain ⟨-, same⟩ := Option.ite_none_right_eq_some.mp made
      rw [← Option.some.inj same]
      cases field <;> rfl
  | updated target body now =>
      obtain ⟨found, present, made⟩ := Option.bind_eq_some_iff.mp made
      obtain ⟨-, same⟩ := Option.ite_none_right_eq_some.mp made
      rw [← Option.some.inj same]
      have named : found.id = target := Table.key_of_get present
      cases field with
      | name =>
          obtain ⟨name, given⟩ := Option.isSome_iff_exists.mp sets
          simp only [ShowsOn, ConnectorTargetRecord.patched, given, Option.map_some,
            Option.getD_some]
      | enabled =>
          obtain ⟨enabled, given⟩ := Option.isSome_iff_exists.mp sets
          simp only [ShowsOn, ConnectorTargetRecord.patched, given, Option.getD_some]
      | purposes =>
          obtain ⟨purposes, given⟩ := Option.isSome_iff_exists.mp sets
          simp only [ShowsOn, ConnectorTargetRecord.patched, given, Option.getD_some]
      | config =>
          obtain ⟨config, given⟩ := Option.isSome_iff_exists.mp sets
          simp only [ShowsOn, ConnectorTargetRecord.patched, given, Option.map_some,
            Option.getD_some, named]
  | archived target now =>
      obtain ⟨found, -, same⟩ := Option.map_eq_some_iff.mp made
      rw [← same]
      obtain rfl : field = .enabled := sets
      rfl

theorem sameOn_of_not_sets {found : ConnectorTargetRecord}
    (present : targets.get change.target = some found) (made : change.result targets = some record)
    {field : TargetField} (spared : ¬ change.Sets field) : field.SameOn record found := by
  cases change with
  | created asked => exact (spared trivial).elim
  | updated target body now =>
      obtain ⟨other, present', made⟩ := Option.bind_eq_some_iff.mp made
      obtain ⟨-, same⟩ := Option.ite_none_right_eq_some.mp made
      obtain rfl : other = found := Option.some.inj (present'.symm.trans present)
      rw [← Option.some.inj same]
      cases field with
      | name =>
          have absent : body.name = none := Option.not_isSome_iff_eq_none.mp spared
          simp only [TargetField.SameOn, ConnectorTargetRecord.patched, absent, Option.map_none,
            Option.getD_none]
      | enabled =>
          have absent : body.enabled = none := Option.not_isSome_iff_eq_none.mp spared
          simp only [TargetField.SameOn, ConnectorTargetRecord.patched, absent, Option.getD_none]
      | purposes =>
          have absent : body.purposes = none := Option.not_isSome_iff_eq_none.mp spared
          simp only [TargetField.SameOn, ConnectorTargetRecord.patched, absent, Option.getD_none]
      | config =>
          have absent : body.config = none := Option.not_isSome_iff_eq_none.mp spared
          simp only [TargetField.SameOn, ConnectorTargetRecord.patched, absent, Option.map_none,
            Option.getD_none]
  | archived target now =>
      obtain ⟨other, present', same⟩ := Option.map_eq_some_iff.mp made
      obtain rfl : other = found := Option.some.inj (present'.symm.trans present)
      rw [← same]
      cases field with
      | enabled => exact (spared rfl).elim
      | name | purposes | config => rfl

theorem ShowsOn.of_sameOn {first second : ConnectorTargetRecord} {field : TargetField}
    (shows : change.ShowsOn first field) (same : field.SameOn second first) :
    change.ShowsOn second field := by
  cases field <;> unfold TargetField.SameOn at same <;> cases change <;>
    first | exact trivial | (unfold ShowsOn at shows ⊢; rw [same]; exact shows)

theorem isActive_result {found : ConnectorTargetRecord}
    (present : targets.get change.target = some found) (archived : found.isActive = false)
    (made : change.result targets = some record) : record.isActive = false := by
  cases change with
  | created asked =>
      obtain ⟨⟨absent, -⟩, -⟩ := Option.ite_none_right_eq_some.mp made
      cases absent.symm.trans present
  | updated target body now =>
      obtain ⟨other, present', made⟩ := Option.bind_eq_some_iff.mp made
      obtain ⟨⟨active, -⟩, -⟩ := Option.ite_none_right_eq_some.mp made
      obtain rfl : other = found := Option.some.inj (present'.symm.trans present)
      rw [archived] at active
      cases active
  | archived target now =>
      obtain ⟨other, -, same⟩ := Option.map_eq_some_iff.mp made
      rw [← same]
      rfl

theorem archivedStay_insert (made : change.result targets = some record) :
    ArchivedStay targets (targets.insert record) := by
  intro target found present archived
  by_cases same : target = record.id
  · subst same
    refine ⟨record, Table.get_insert_self, ?_⟩
    rw [id_of_result made] at present
    exact isActive_result present archived made
  · refine ⟨found, ?_, archived⟩
    rw [Table.get_insert, if_neg same]
    exact present

end TargetChange

/-! ### Names and numbers -/

namespace ConnectorTargetMap

variable {targets : ConnectorTargetMap} {record found : ConnectorTargetRecord}

theorem countActive_insert_le_of_absent (absent : targets.get record.id = none)
    (tenant : TenantId) :
    countActive (targets.insert record) tenant ≤
      targets.countActive tenant + if record.tenantId = tenant then 1 else 0 := by
  unfold countActive
  rw [Table.values_insert_of_absent absent, List.filter_cons]
  by_cases here : record.tenantId = tenant
  · rw [if_pos here]
    split
    · exact le_refl _
    · exact Nat.le_succ _
  · simp only [here, decide_false, Bool.false_and, Bool.false_eq_true, ↓reduceIte]
    exact le_refl _

theorem countActive_insert_le_of_present (present : targets.get record.id = some found)
    (same : record.tenantId = found.tenantId)
    (active : record.isActive = true → found.isActive = true) (tenant : TenantId) :
    countActive (targets.insert record) tenant ≤ targets.countActive tenant := by
  obtain ⟨rest, order, inserted⟩ := Table.exists_values_insert present
  unfold countActive
  rw [inserted, (order.filter _).length_eq, List.filter_cons, List.filter_cons, same]
  cases activity : record.isActive with
  | true =>
      simp only [active activity, Bool.and_true]
      split <;> exact le_refl _
  | false =>
      simp only [Bool.and_false, Bool.false_eq_true, ↓reduceIte]
      split
      · exact Nat.le_succ _
      · exact le_refl _

theorem rivals_symm {first second : ConnectorTargetRecord} (active : first.isActive = true)
    (rival : first.rivals second = true) : second.rivals first = true := by
  unfold ConnectorTargetRecord.rivals at rival ⊢
  simp only [Bool.and_eq_true, decide_eq_true_eq] at rival ⊢
  exact ⟨⟨rival.1.1.symm, active⟩, BEq.symm rival.2⟩

theorem isActive_of_rivals {first second : ConnectorTargetRecord}
    (rival : first.rivals second = true) : second.isActive = true := by
  unfold ConnectorTargetRecord.rivals at rival
  simp only [Bool.and_eq_true] at rival
  exact rival.1.2

theorem Registered.insert (registered : targets.Registered)
    (bounded : ∀ tenant, countActive (targets.insert record) tenant ≤ maxTargetsPerTenant)
    (free : record.isActive = true → ∀ other ∈ targets.values, other.id ≠ record.id →
      record.rivals other = false) : Registered (targets.insert record) := by
  have alone : ∀ {other}, other ∈ (targets.insert record).values → record.isActive = true →
      record.rivals other = true → record.id = other.id := by
    intro other member active rival
    rcases Table.eq_or_mem_of_mem_values_insert member with rfl | before
    · rfl
    · by_contra apart
      rw [free active other before fun same => apart same.symm] at rival
      cases rival
  refine ⟨?_, bounded⟩
  intro first second firstIn secondIn active rival
  rcases Table.eq_or_mem_of_mem_values_insert firstIn with rfl | firstBefore
  · exact alone secondIn active rival
  rcases Table.eq_or_mem_of_mem_values_insert secondIn with rfl | secondBefore
  · exact (alone firstIn (isActive_of_rivals rival) (rivals_symm active rival)).symm
  · exact registered.unique firstBefore secondBefore active rival

/-- **A change keeps names unique and numbers bounded.** -/
theorem Registered.insert_result {change : TargetChange} (registered : targets.Registered)
    (made : change.result targets = some record) : Registered (targets.insert record) := by
  cases change with
  | created asked =>
      obtain ⟨⟨absent, few, free⟩, same⟩ := Option.ite_none_right_eq_some.mp made
      obtain rfl := Option.some.inj same
      apply registered.insert
      · intro tenant
        apply (countActive_insert_le_of_absent absent tenant).trans
        by_cases here : asked.tenantId = tenant
        · rw [if_pos here, ← here]
          exact few
        · rw [if_neg here]
          exact registered.bounded tenant
      · intro _ other member _
        exact Bool.eq_false_of_not_eq_true (List.any_eq_false.mp free other member)
  | updated target body now =>
      obtain ⟨found, present, made⟩ := Option.bind_eq_some_iff.mp made
      obtain ⟨⟨active, free⟩, same⟩ := Option.ite_none_right_eq_some.mp made
      obtain rfl := Option.some.inj same
      obtain rfl : found.id = target := Table.key_of_get present
      apply registered.insert
      · intro tenant
        have replaced := @countActive_insert_le_of_present targets (found.patched body now) found
          present rfl (fun _ => active) tenant
        exact replaced.trans (registered.bounded tenant)
      · intro _ other member apart
        have spared := List.any_eq_false.mp free other member
        rw [Bool.and_eq_true, not_and] at spared
        exact Bool.eq_false_of_not_eq_true (spared (decide_eq_true apart))
  | archived target now =>
      obtain ⟨found, present, rfl⟩ := Option.map_eq_some_iff.mp made
      obtain rfl : found.id = target := Table.key_of_get present
      apply registered.insert
      · intro tenant
        have replaced := @countActive_insert_le_of_present targets (found.archived now) found
          present rfl (fun active => Bool.noConfusion active) tenant
        exact replaced.trans (registered.bounded tenant)
      · intro active
        cases active

end ConnectorTargetMap

/-! ### Replayed changes -/

namespace TargetRegistry

variable {registry next : TargetRegistry} {changed : TargetEdit}

theorem exists_result_of_edit (made : registry.edit changed = some next) :
    ∃ record, changed.change.result registry.targets = some record ∧
      next.targets = registry.targets.insert record := by
  obtain ⟨record, result, rfl⟩ := Option.map_eq_some_iff.mp made
  exact ⟨record, result, rfl⟩

/-- The fields of the targets, and the changes that show in them. -/
def fields : Replay.Fields edit (Uuid × TargetField) where
  sets := Sets
  shows := Shows
  shown := by
    intro registry next changed place made sets
    obtain ⟨record, result, rfl⟩ := Option.map_eq_some_iff.mp made
    refine ⟨record, ?_, TargetChange.showsOn_result result sets.2⟩
    rw [← sets.1, ← TargetChange.id_of_result result]
    exact Table.get_insert_self
  spared := by
    intro registry next changed place earlier made spared shows
    obtain ⟨record, result, rfl⟩ := Option.map_eq_some_iff.mp made
    obtain ⟨found, present, shows⟩ := shows
    have named := TargetChange.id_of_result result
    by_cases same : place.1 = record.id
    · refine ⟨record, ?_, ?_⟩
      · rw [same]
        exact Table.get_insert_self
      · rw [same, named] at present
        have other : ¬ changed.change.Sets place.2 :=
          fun sets => spared ⟨(same.trans named).symm, sets⟩
        exact shows.of_sameOn (TargetChange.sameOn_of_not_sets present result other)
    · refine ⟨found, ?_, shows⟩
      rw [Table.get_insert, if_neg same]
      exact present

theorem registered_of_edit (made : registry.edit changed = some next)
    (registered : registry.targets.Registered) : next.targets.Registered := by
  obtain ⟨record, result, inserted⟩ := exists_result_of_edit made
  rw [inserted]
  exact registered.insert_result result

theorem archivedStay_of_edit (made : registry.edit changed = some next) :
    ArchivedStay registry.targets next.targets := by
  obtain ⟨record, result, inserted⟩ := exists_result_of_edit made
  rw [inserted]
  exact TargetChange.archivedStay_insert result

/-- What a registry is after a log of changes: the targets and the events are those of the log
replayed, every field shows the last change that set it, and names and numbers are in their
bounds. -/
structure Sound (start : TargetRegistry) (log : List TargetEdit) (registry : TargetRegistry) :
    Prop where
  replayed : replay edit start log = some registry
  shows : ∀ {before changed after place}, log = before ++ changed :: after → Sets changed place →
    (∀ later ∈ after, ¬ Sets later place) → Shows changed place registry
  registered : registry.targets.Registered

/-- **A replayed log shows every last change.** -/
theorem sound_of_replay {start : TargetRegistry} {log : List TargetEdit}
    (registered : start.targets.Registered) (replayed : replay edit start log = some registry) :
    Sound start log registry where
  replayed := replayed
  shows := by
    intro before changed after place split sets spared
    subst split
    exact shows_of_replay fields replayed sets spared
  registered := invariant_of_replay (fun made held => registered_of_edit made held) replayed
    registered

end TargetRegistry

end Chancela
