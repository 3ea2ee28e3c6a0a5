import RecordSql.Proofs.Composition
/-! # Building again

Building only adds registrations, of entities that the statement mentions, and every model that
it asked for stays in force. So a statement that is built once more, from the registry that it
left, builds to the same and adds nothing, also when it fails. -/
set_option autoImplicit false
namespace RecordSql

namespace Statement

variable {e : Entity}

/-- A statement is written against the model of its entity, or without any registry. -/
theorem draft_eq (style : Style) (s : Statement e) :
    (∃ pieces result, ∀ r, s.draft style r = ⟨pieces, r, result⟩) ∨
      e ∈ s.entities ∧ ∀ r, s.draft style r = draftFor e (do s.render style; Render.write ";") r := by
  cases s with
  | insert s =>
    obtain ⟨records, fields, upsert⟩ := s
    cases records with
    | nil => exact .inl ⟨[], .error .insertZeroRow, fun _ => rfl⟩
    | cons r rest => exact .inr ⟨List.mem_cons_self, fun _ => rfl⟩
  | raw r => exact .inl ⟨[.raw r], .ok (), fun _ => rfl⟩
  | _ => exact .inr ⟨List.mem_cons_self, fun _ => rfl⟩

theorem composed_ended (style : Style) (s : Statement e) :
    (do s.render style; Render.write ";" : Render Unit).Composed s.entities :=
  (s.composed_render style).bind fun _ => Render.composed_write ";"

/-- Building registers nothing but entities that the statement mentions. -/
theorem grows_draft (style : Style) (s : Statement e) (r : Registry) :
    r.Grows s.entities (s.draft style r).registry := by
  rcases s.draft_eq style with ⟨pieces, result, fixed⟩ | ⟨own, drafted⟩
  · rw [fixed]
    exact Registry.grows_refl r
  · rw [drafted]
    cases got : r.get e with
    | error err => simpa only [draftFor, got] using Registry.grows_refl r
    | ok found =>
      obtain ⟨model, after⟩ := found
      have grown := (s.composed_ended style).grows (m := model) after
      simpa only [draftFor, got] using (Registry.grows_get got own).trans grown

theorem draft_after_draft (style : Style) (s : Statement e) (r : Registry) :
    s.draft style (s.draft style r).registry = s.draft style r := by
  rcases s.draft_eq style with ⟨pieces, result, fixed⟩ | ⟨-, drafted⟩
  · rw [fixed r, fixed r]
  · rw [drafted, drafted]
    cases got : r.get e with
    | error err => simp only [draftFor, got]
    | ok found =>
      obtain ⟨model, after⟩ := found
      have grown := ((s.composed_ended style).grows (m := model) after).extends
      simp only [draftFor, got, Registry.get_of_extends got grown]
      exact (s.composed_ended style).run_again (Registry.extends_refl _) fun _ _ => rfl

/-- Built again from the registry that it left, a statement gives the same and leaves the
registry as it is. -/
theorem build_again (style : Style) (s : Statement e) (r : Registry) :
    s.build style (s.build style r).registry = s.build style r := by
  have again := s.draft_after_draft style r
  simp only [build, again]

/-- A statement builds to the same once its entity has a model. -/
theorem build_after_get {style : Style} {s : Statement e} {r after : Registry} {model : Model}
    (got : r.get e = .ok (model, after)) :
    (s.build style after).result = (s.build style r).result := by
  rcases s.draft_eq style with ⟨pieces, result, fixed⟩ | ⟨-, drafted⟩
  · simp only [build, fixed]
  · have again := Registry.get_of_extends got (Registry.extends_refl after)
    simp only [build, drafted, draftFor, got, again]

/-- Whether it succeeds or fails, building leaves the models in force alone, registers only
mentioned entities that had no model and derive one, without options, and can be repeated: the
result is the same and nothing more is registered. -/
theorem build_grows (style : Style) (s : Statement e) (r : Registry) :
    let built := s.build style r
    (∀ identity m, r.find? identity = some m → built.registry.find? identity = some m) ∧
      (∃ added, built.registry.history = added ++ r.history ∧ ∀ entry ∈ added,
        r.find? entry.entity = none ∧
          ∃ f ∈ s.entities, f.identity = entry.entity ∧ f.typeName = entry.typeName ∧
            Model.ofEntity f [] = .ok entry.model) ∧
      (∀ f err, Model.ofEntity f [] = .error err →
        (∀ g ∈ s.entities, g.identity = f.identity → g = f) →
          r.find? f.identity = none → built.registry.find? f.identity = none) ∧
      s.build style built.registry = built := by
  intro built
  have grown : r.Grows s.entities built.registry := s.grows_draft style r
  refine ⟨grown.extends, grown, ?_, s.build_again style r⟩
  intro f err underivable only missing
  cases found : built.registry.find? f.identity with
  | none => rfl
  | some m =>
    obtain ⟨g, mentioned, same, derived⟩ := grown.derives missing found
    rw [only g mentioned same, underivable] at derived
    contradiction

/-- A join that stops at an entity without a model, when another one has been registered. -/
theorem build_grows_underivable :
    let badge : Entity := .derived 8 "Badge" "" [⟨"code", .scalar .int64, ""⟩]
    let nothing : Entity := .derived 9 "Nothing" "" []
    let people : Model := ⟨"people", [⟨"id", "id", "i64", 0⟩, ⟨"owner", "owner", "i64", 1⟩]⟩
    let r : Registry := ⟨[⟨0, "Account", people⟩]⟩
    let on : Predicate := .compare ⟨"code", none, some ⟨badge, none⟩⟩ .eq
      (.column ⟨"id", none, some ⟨nothing, none⟩⟩)
    let s : Statement account := .select
      ⟨some (.join .inner (.table ⟨account, none⟩) (.table ⟨badge, none⟩) [] [on]), [], [], [], [],
        [], none, none⟩
    let built := s.build ⟨.mysql, .accessor⟩ r
    built.result = .error (.invalidType "Nothing") ∧
      built.registry.find? 0 = some people ∧
      built.registry.find? 8 = some ⟨"badge", [⟨"code", "code", "i64", 0⟩]⟩ ∧
      built.registry.find? 9 = none ∧
      s.build ⟨.mysql, .accessor⟩ built.registry = built := by
  intro badge nothing people r on s built
  obtain ⟨keeps, -, underived, again⟩ := build_grows ⟨.mysql, .accessor⟩ s r
  have failed : Model.ofEntity nothing [] = .error (.invalidType "Nothing") := rfl
  have only : ∀ g ∈ s.entities, g.identity = nothing.identity → g = nothing := by decide +kernel
  refine ⟨?_, keeps 0 people rfl, ?_, underived nothing _ failed only rfl, again⟩
  · decide +kernel
  · decide +kernel

end Statement

end RecordSql
