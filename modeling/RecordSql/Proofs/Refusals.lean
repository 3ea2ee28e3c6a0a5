import RecordSql.Proofs.Checks
import RecordSql.Proofs.Registrations
/-! # When a statement is refused

A statement builds exactly when nothing that it needs is missing and each of its references
holds. Otherwise it is refused for what is missing first, and among the references for the
leftmost that does not hold (`Statement.build_references`). -/
set_option autoImplicit false
namespace RecordSql

open Render

variable {e : Entity} {r : Registry} {m : Model}

/-- The model in force for the entity, if there is one, is a model of the entity. -/
def Registry.Models (r : Registry) (e : Entity) : Prop :=
  ∀ m, r.find? e.identity = some m → ∃ options, Model.ofEntity e options = .ok m

theorem Registry.Models.lists {after : Registry} (models : r.Models e)
    (derives : r.get e = .ok (m, after)) : m.Lists e := by
  rw [get] at derives
  cases known : r.find? e.identity with
  | some model =>
    simp only [known, Except.ok.injEq, Prod.mk.injEq] at derives
    obtain ⟨options, made⟩ := models model known
    rw [← derives.1]
    exact Model.lists_of_ofEntity made
  | none =>
    simp only [known, register] at derives
    cases made : Model.ofEntity e [] with
    | error err => simp [made] at derives
    | ok model =>
      simp only [made, Except.ok.injEq, Prod.mk.injEq] at derives
      rw [← derives.1]
      exact Model.lists_of_ofEntity made

/-- This is so behind every sequence of calls, as long as they mean one entity by one identity. -/
theorem Registry.models_run {calls : List RegistryCall}
    (faithful : ∀ d ∈ calls, d.entity.identity = e.identity → d.entity = e) :
    (empty.run calls).Models e := by
  intro model known
  have reflects := reflects_run faithful
  rw [Reflects, known] at reflects
  exact ⟨_, reflects⟩

namespace Statement

def lacksRecords : Statement e → Bool
  | insert s => s.records.isEmpty
  | _ => false

def assignsNothing : Statement e → Bool
  | update s => s.isVoid
  | _ => false

inductive Refusal (s : Statement e) (style : Style) (r : Registry) : Error → Prop
  | noRecords (lacks : s.lacksRecords = true) : Refusal s style r .insertZeroRow
  | noModel {err : Error} (has : s.lacksRecords = false) (underived : r.get e = .error err) :
      Refusal s style r err
  | noAssignments {m : Model} {after : Registry} (has : s.lacksRecords = false)
      (derives : r.get e = .ok (m, after)) (void : s.assignsNothing = true) :
      Refusal s style r .emptyAssignments
  | reference {m : Model} {after : Registry} {front back : List Reference} {ref : Reference}
      {err : Error} (has : s.lacksRecords = false) (derives : r.get e = .ok (m, after))
      (assigns : s.assignsNothing = false)
      (order : s.references style.dialect = front ++ ref :: back)
      (holds : ∀ earlier ∈ front, earlier.check r m = .ok ())
      (broken : ref.check r m = .error err) : Refusal s style r err

/-- Nothing is missing and every reference holds. -/
def Sound (s : Statement e) (style : Style) (r : Registry) : Prop :=
  s.lacksRecords = false ∧ s.assignsNothing = false ∧ ∃ m after, r.get e = .ok (m, after) ∧
    ∀ ref ∈ s.references style.dialect, ref.check r m = .ok ()

theorem sound_or_refused (style : Style) (r : Registry) (s : Statement e) :
    s.Sound style r ∨ ∃ err, s.Refusal style r err := by
  cases lacks : s.lacksRecords with
  | true => exact .inr ⟨_, .noRecords lacks⟩
  | false =>
    cases derives : r.get e with
    | error err => exact .inr ⟨err, .noModel lacks derives⟩
    | ok found =>
      cases void : s.assignsNothing with
      | true => exact .inr ⟨_, .noAssignments lacks derives void⟩
      | false =>
        cases outcome : Reference.checkAll r found.1 (s.references style.dialect) with
        | ok _ =>
          exact .inl ⟨lacks, void, found.1, found.2, derives,
            Reference.checkAll_eq_ok_iff.mp outcome⟩
        | error err =>
          obtain ⟨front, ref, back, order, holds, broken⟩ :=
            Reference.checkAll_eq_error_iff.mp outcome
          exact .inr ⟨err, .reference lacks derives void order holds broken⟩

theorem checks_render (derived : e.IsDerived) (lists : m.Lists e) (style : Style)
    {s : Statement e} (assigns : s.assignsNothing = false) :
    (s.render style).Checks r m (s.references style.dialect) := by
  cases s with
  | select s => exact s.checks_render
  | insert s => exact s.checks_render derived lists style
  | update s => exact Update.checks_render derived lists style assigns
  | delete s =>
    exact checks_ownModel_bind <| checks_write.quietly fun _ => checks_quoted.quietly fun _ =>
      checks_renderClause s.conditions
  | raw fragment => exact checks_emit

theorem draft_eq_draftFor {style : Style} {s : Statement e} (written : s.queryType ≠ .raw)
    (has : s.lacksRecords = false) :
    s.draft style r = draftFor e (do s.render style; write ";") r := by
  cases s with
  | insert s =>
    obtain ⟨records, fields, upsert⟩ := s
    cases records with
    | nil => simp [lacksRecords] at has
    | cons record rest => rfl
  | raw fragment => exact absurd rfl written
  | _ => rfl

/-- The outcome of building, without what is written. -/
theorem map_result_build (style : Style) (s : Statement e) :
    (s.build style r).result.map (fun _ => ()) = (s.draft style r).result := by
  rw [build]
  cases (s.draft style r).result <;> rfl

theorem result_draft_of_lacksRecords {style : Style} {s : Statement e}
    (lacks : s.lacksRecords = true) : (s.draft style r).result = .error .insertZeroRow := by
  cases s with
  | insert s =>
    obtain ⟨records, fields, upsert⟩ := s
    cases records with
    | nil => rfl
    | cons record rest => simp [lacksRecords] at lacks
  | _ => simp [lacksRecords] at lacks

theorem result_draft_of_error {style : Style} {s : Statement e} {err : Error}
    (written : s.queryType ≠ .raw) (has : s.lacksRecords = false)
    (underived : r.get e = .error err) : (s.draft style r).result = .error err := by
  rw [draft_eq_draftFor written has, draftFor, underived]

theorem result_draft_of_assignsNothing {style : Style} {s : Statement e} {after : Registry}
    (derives : r.get e = .ok (m, after)) (void : s.assignsNothing = true) :
    (s.draft style r).result = .error .emptyAssignments := by
  cases s with
  | update s =>
    have void : s.isVoid = true := void
    rw [draft_eq_draftFor (by simp [queryType]) rfl, draftFor, derives]
    simp [render, Update.render, void, Bind.bind, Render.bind, ownModel, fail]
  | _ => simp [assignsNothing] at void

theorem result_draft_eq_checkAll {style : Style} {s : Statement e} {after : Registry}
    (derived : e.IsDerived) (lists : m.Lists e) (written : s.queryType ≠ .raw)
    (has : s.lacksRecords = false) (assigns : s.assignsNothing = false)
    (derives : r.get e = .ok (m, after))
    (faithful : Faithful (e :: (s.references style.dialect).filterMap Reference.entity?)) :
    (s.draft style r).result = Reference.checkAll r m (s.references style.dialect) := by
  have ended : (do s.render style; write ";" : Render Unit).Checks r m
      (s.references style.dialect) :=
    (checks_render derived lists style assigns).andThen fun _ => checks_write
  -- The entity's own model is asked for first, which may have registered it.
  have grown := Registry.grows_get derives (List.mem_cons_self
    (l := (s.references style.dialect).filterMap Reference.entity?))
  obtain ⟨outcome, -⟩ := ended _ after faithful (List.subset_cons_self _ _) grown
  rw [draft_eq_draftFor written has, draftFor, derives, ← outcome]
  cases ((do s.render style; write ";" : Render Unit) m after).result <;> rfl

theorem exists_build_eq_ok_iff {style : Style} {s : Statement e} :
    (∃ q, (s.build style r).result = .ok q) ↔ (s.draft style r).result = .ok () := by
  rw [← map_result_build]
  cases (s.build style r).result with
  | error err => simp [Except.map]
  | ok q => simp [Except.map]

theorem build_eq_error_iff {style : Style} {s : Statement e} {err : Error} :
    (s.build style r).result = .error err ↔ (s.draft style r).result = .error err := by
  rw [← map_result_build]
  cases (s.build style r).result with
  | error other => simp [Except.map]
  | ok q => simp [Except.map]

theorem result_draft_of_sound {style : Style} {s : Statement e} (derived : e.IsDerived)
    (written : s.queryType ≠ .raw) (models : r.Models e)
    (faithful : Faithful (e :: (s.references style.dialect).filterMap Reference.entity?))
    (sound : s.Sound style r) : (s.draft style r).result = .ok () := by
  obtain ⟨has, assigns, m, after, derives, holds⟩ := sound
  rw [result_draft_eq_checkAll derived (models.lists derives) written has assigns derives faithful]
  exact Reference.checkAll_eq_ok_iff.mpr holds

theorem result_draft_of_refusal {style : Style} {s : Statement e} {err : Error}
    (derived : e.IsDerived) (written : s.queryType ≠ .raw) (models : r.Models e)
    (faithful : Faithful (e :: (s.references style.dialect).filterMap Reference.entity?))
    (refusal : s.Refusal style r err) : (s.draft style r).result = .error err := by
  cases refusal with
  | noRecords lacks => exact result_draft_of_lacksRecords lacks
  | noModel has underived => exact result_draft_of_error written has underived
  | noAssignments has derives void => exact result_draft_of_assignsNothing derives void
  | reference has derives assigns order holds broken =>
    rw [result_draft_eq_checkAll derived (models.lists derives) written has assigns derives
      faithful]
    exact Reference.checkAll_eq_error_iff.mpr ⟨_, _, _, order, holds, broken⟩

/-- A statement on a derived entity builds exactly when an insertion has records, the entity has
a model, an update has something to assign and every reference holds by the models in force
before. Otherwise it is refused for the first of these that is missing, and among the references
for the leftmost that does not hold. -/
theorem build_references {style : Style} {s : Statement e} (derived : e.IsDerived)
    (written : s.queryType ≠ .raw) (models : r.Models e)
    (faithful : Faithful (e :: (s.references style.dialect).filterMap Reference.entity?)) :
    ((∃ q, (s.build style r).result = .ok q) ↔ s.Sound style r) ∧
      ∀ err, (s.build style r).result = .error err ↔ s.Refusal style r err := by
  have succeeds (sound : s.Sound style r) : (s.draft style r).result = .ok () :=
    result_draft_of_sound derived written models faithful sound
  have fails {err : Error} (refusal : s.Refusal style r err) :
      (s.draft style r).result = .error err :=
    result_draft_of_refusal derived written models faithful refusal
  constructor
  · rw [exists_build_eq_ok_iff]
    refine ⟨fun success => ?_, succeeds⟩
    rcases s.sound_or_refused style r with sound | ⟨err, refusal⟩
    · exact sound
    · rw [fails refusal] at success
      contradiction
  · intro err
    rw [build_eq_error_iff]
    refine ⟨fun failed => ?_, fails⟩
    rcases s.sound_or_refused style r with sound | ⟨other, refusal⟩
    · rw [succeeds sound] at failed
      contradiction
    · rw [fails refusal] at failed
      obtain rfl := Except.error.inj failed
      exact refusal

/-- A misplaced assignment behind references that hold, and before one that does not. -/
theorem build_references_misplaced :
    let badge : Entity := .derived 8 "Badge" "" [⟨"code", .scalar .int64, ""⟩]
    let r := Registry.empty.run [.register account [.tableName "people"]]
    let on : Predicate := .compare ⟨"code", none, some ⟨badge, some "b"⟩⟩ .eq
      (.column ⟨"id", none, none⟩)
    let misplaced : Predicate := .compare ⟨"owner", none, none⟩ .eq
      (.assignment "id" (.column ⟨"lost", none, none⟩))
    let s : Statement account := .select ⟨some (.join .inner (.table ⟨account, none⟩)
      (.table ⟨badge, some "b"⟩) ["id"] [on]), [.aggregate ⟨.count, "id", none⟩], [misplaced],
      [⟨"lost", none, none⟩], [], [], none, none⟩
    s.references .mysql =
        [.own "id", .table account, .table badge, .own "id", .qualified badge "code", .own "id",
          .own "owner"] ++ .misplaced "id" :: [.own "lost"] ∧
      (s.build ⟨.mysql, .accessor⟩ r).result =
        .error (.invalidExpression "assignment to `id` used as an expression") := by
  intro badge r on misplaced s
  have order : s.references .mysql =
      [.own "id", .table account, .table badge, .own "id", .qualified badge "code", .own "id",
        .own "owner"] ++ .misplaced "id" :: [.own "lost"] := by
    simp [s, on, misplaced, references, Select.references, Source.references,
      Selectable.references, Predicate.references, Expr.references, Column.references]
  have people : r.get account =
      .ok (⟨"people", [⟨"id", "id", "i64", 0⟩, ⟨"owner", "owner", "i64", 1⟩]⟩, r) := by
    decide +kernel
  have models : r.Models account := Registry.models_run (by decide)
  have faithful : Faithful (account :: (s.references .mysql).filterMap Reference.entity?) := by
    rw [order]
    decide +kernel
  have written : s.queryType ≠ .raw := by decide
  have refusal : s.Refusal ⟨.mysql, .accessor⟩ r
      (.invalidExpression "assignment to `id` used as an expression") :=
    .reference rfl people rfl order (by decide +kernel) rfl
  obtain ⟨-, refused⟩ :=
    build_references Materializer.isDerived_account written models faithful
  exact ⟨order, (refused _).mpr refusal⟩

end Statement

end RecordSql
