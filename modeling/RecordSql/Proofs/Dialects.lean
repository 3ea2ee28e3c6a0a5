import RecordSql.Proofs.Bindings.Statement
import RecordSql.Proofs.Composition
import RecordSql.Proofs.Insertion
/-! # What a dialect changes

Without an upsert, the pieces of a statement do not depend on the dialect, which is left with the
character around names. The clause of an upsert is a text of its own for each dialect, behind
pieces that all of them share. Its items end alike in every dialect, whatever they write, so what
MySQL rejects, which asks for nothing but the items, no other dialect accepts. -/
set_option autoImplicit false
namespace RecordSql

open Render

/-- The bindings of pieces are all that brings arguments. -/
theorem Binds.argsOf_eq {pieces bs : List Piece} (binds : Binds pieces bs) :
    argsOf pieces = argsOf bs := by
  rw [← binds.bindings]
  clear binds
  induction pieces with
  | nil => rfl
  | cons piece rest ih =>
    cases piece <;> simp [argsOf, Piece.args, Piece.isBinding, List.filter_cons, ih]

namespace Render

variable {α β : Type}

/-- Two renderings that leave the same result and the same registry, whatever they write. -/
def EndsLike (x y : Render α) : Prop :=
  ∀ m r, (x m r).result = (y m r).result ∧ (x m r).registry = (y m r).registry

theorem endsLike_refl (x : Render α) : x.EndsLike x := fun _ _ => ⟨rfl, rfl⟩

theorem endsLike_write (s t : String) : (write s).EndsLike (write t) := fun _ _ => ⟨rfl, rfl⟩

theorem EndsLike.bind {x y : Render α} {f g : α → Render β} (first : x.EndsLike y)
    (second : ∀ a, (f a).EndsLike (g a)) : (x >>= f).EndsLike (y >>= g) := by
  intro m r
  obtain ⟨result, registry⟩ := first m r
  simp only [Bind.bind, Render.bind]
  rw [result, registry]
  cases (y m r).result with
  | error e => exact ⟨rfl, rfl⟩
  | ok a => exact second a m (y m r).registry

theorem endsLike_commaTail {f g : α → Render Unit} (each : ∀ a, (f a).EndsLike (g a))
    (items : List α) : (commaTail f items).EndsLike (commaTail g items) := by
  induction items with
  | nil => exact endsLike_refl _
  | cons a rest ih => exact (endsLike_refl _).bind fun _ => (each a).bind fun _ => ih

theorem endsLike_commaList {f g : α → Render Unit} (each : ∀ a, (f a).EndsLike (g a))
    (items : List α) : (commaList f items).EndsLike (commaList g items) := by
  cases items with
  | nil => exact endsLike_refl _
  | cons a rest => exact (each a).bind fun _ => endsLike_commaTail each rest

theorem EndsLike.yields {x y : Render Unit} {m : Model} {r after : Registry} {pieces : List Piece}
    (alike : x.EndsLike y) (run : x.Yields m r pieces after ()) :
    ∃ others, y.Yields m r others after () := by
  obtain ⟨result, registry⟩ := alike m r
  rw [run] at result registry
  refine ⟨(y m r).pieces, ?_⟩
  rcases other : y m r with ⟨others, left, outcome⟩
  rw [other] at result registry
  obtain rfl : after = left := registry
  obtain rfl : Except.ok () = outcome := result
  exact other

end Render

/-! ## Upserts -/

namespace Upsert

variable {u : Upsert} {m : Model} {r after : Registry} {clause : List Piece}

theorem endsLike_renderItem (before after before' after' : String) (item : Assignable) :
    (renderItem before after item).EndsLike (renderItem before' after' item) := by
  cases item with
  | assignment a => exact endsLike_refl _
  | column c =>
    exact (endsLike_refl _).bind fun _ => (endsLike_refl _).bind fun _ =>
      (endsLike_write _ _).bind fun _ => (endsLike_refl _).bind fun _ => endsLike_write _ _

/-- The clause for duplicate keys can be written wherever the clause for conflicts can: the
fields that recognise a row are looked up first and leave the registry as it is. -/
theorem yields_duplicateKey_of_conflict (run : u.renderConflict.Yields m r clause after ()) :
    ∃ other, u.renderDuplicateKey.Yields m r other after () := by
  obtain ⟨front, middle, _, back, target, items, rfl⟩ := yields_bind.mp run
  have kept : middle = r := by
    have nothing : u.renderTarget.Composed [] := u.composed_renderTarget
    have grown := nothing.grows (m := m) r
    rw [target] at grown
    exact grown.eq_of_nil
  subst kept
  obtain ⟨others, same⟩ := (endsLike_commaList
    (endsLike_renderItem "=excluded." "" "=VALUES(" ")") u.assignments).yields items
  have keyword : (write " ON DUPLICATE KEY UPDATE ").Yields m middle
    [.text " ON DUPLICATE KEY UPDATE "] middle () := rfl
  exact ⟨_, keyword.bind same⟩

theorem yields_duplicateKey {d : Dialect} (run : (u.render d).Yields m r clause after ()) :
    ∃ other, (u.render .mysql).Yields m r other after () := by
  cases d with
  | mysql => exact ⟨clause, run⟩
  | sqlite => exact yields_duplicateKey_of_conflict run
  | postgres =>
    rw [render] at run
    split at run
    next => exact absurd run yields_fail
    next => exact yields_duplicateKey_of_conflict run

theorem render_sqlite_eq_postgres (target : u.conflictFields ≠ []) :
    u.render .sqlite = u.render .postgres := by
  rw [render, render, if_neg (by simpa using target)]

end Upsert

/-! ## Statements -/

section Statements

variable {e : Entity}

def Insert.withoutUpsert (s : Insert e) : Insert e := { s with upsert := none }

theorem Insert.render_eq {s : Insert e} {u : Upsert} (given : s.upsert = some u) (style : Style) :
    s.render style = s.withoutUpsert.render style >>= fun _ => u.render style.dialect := by
  simp only [render, withoutUpsert, given, bind_assoc, pure_bind]

def Statement.upsert? : Statement e → Option Upsert
  | insert s => s.upsert
  | _ => none

theorem Statement.draft_dialect {s : Statement e} (plain : s.upsert? = none) (c d : Dialect)
    (k : Materializer) (r : Registry) : s.draft ⟨c, k⟩ r = s.draft ⟨d, k⟩ r := by
  cases s with
  | insert s =>
    obtain ⟨records, fields, upsert⟩ := s
    obtain rfl : upsert = none := plain
    cases records <;> rfl
  | _ => rfl

theorem Insert.draft_sqlite_eq_postgres (s : Insert e) {u : Upsert} (given : s.upsert = some u)
    (target : u.conflictFields ≠ []) (k : Materializer) (r : Registry) :
    (Statement.insert s).draft ⟨.sqlite, k⟩ r = (Statement.insert s).draft ⟨.postgres, k⟩ r := by
  have same : s.render ⟨.sqlite, k⟩ = s.render ⟨.postgres, k⟩ := by
    rw [render_eq given, render_eq given, Upsert.render_sqlite_eq_postgres target]
    rfl
  obtain ⟨records, fields, upsert⟩ := s
  cases records with
  | nil => rfl
  | cons first rest => simp only [Statement.draft, Statement.render, same]

/-- The two results of building are the same error, or two queries of the same pieces, each with
its own character around names. -/
def SameBetweenQuotes (c d : Char) : Except Error Query → Except Error Query → Prop
  | .ok p, .ok q => ∃ pieces, p = .ofPieces c pieces ∧ q = .ofPieces d pieces
  | .error a, .error b => a = b
  | _, _ => False

theorem sameBetweenQuotes_build {s t : Statement e} {style other : Style} {r : Registry}
    (same : s.draft style r = t.draft other r) :
    SameBetweenQuotes style.dialect.quote other.dialect.quote (s.build style r).result
      (t.build other r).result := by
  simp only [Statement.build, same]
  cases (t.draft other r).result with
  | error err => exact rfl
  | ok _ => exact ⟨_, rfl, rfl⟩

/-- What an insertion with an upsert builds: the pieces of the insertion without it, which no
dialect changes, and the clause of the dialect. -/
theorem Insert.exists_clause {s : Insert e} {u : Upsert} {style : Style} {r : Registry} {q : Query}
    (given : s.upsert = some u)
    (built : ((Statement.insert s).build style r).result = .ok q) :
    ∃ m before body middle clause after, s.records ≠ [] ∧ r.get e = .ok (m, before) ∧
      (s.withoutUpsert.render style).Yields m before body middle () ∧
      (u.render style.dialect).Yields m middle clause after () ∧
      q = .ofPieces style.dialect.quote (body ++ clause ++ [.text ";"]) := by
  obtain ⟨success, rfl⟩ := Statement.build_eq_ok built
  have some : s.records ≠ [] := by
    intro none
    obtain ⟨records, fields, upsert⟩ := s
    obtain rfl : records = [] := none
    simp [Statement.draft] at success
  obtain ⟨m, before, pieces, after, inForce, run, whole⟩ :=
    Statement.yields_of_draft (by simp [Statement.queryType]) success
  change (s.render style).Yields m before pieces after () at run
  rw [render_eq given] at run
  obtain ⟨body, middle, _, clause, first, second, rfl⟩ := yields_bind.mp run
  exact ⟨m, before, body, middle, clause, after, some, inForce, first, second, by rw [whole]⟩

/-- Between two dialects, a statement without an upsert fails with the same error or has the same
pieces. If an insertion with an upsert builds for both, it has the same arguments, and up to the
clause the pieces of the insertion without it; SQLite and PostgreSQL agree on the clause too where
fields recognise a row; and where MySQL rejects it, all do. -/
theorem build_dialects (k : Materializer) (r : Registry) :
    (∀ s : Statement e, s.upsert? = none → ∀ c d : Dialect,
      SameBetweenQuotes c.quote d.quote (s.build ⟨c, k⟩ r).result (s.build ⟨d, k⟩ r).result) ∧
    ∀ (s : Insert e) (u : Upsert), s.upsert = some u →
      let built (d : Dialect) := ((Statement.insert s).build ⟨d, k⟩ r).result
      (∀ c d p q, built c = .ok p → built d = .ok q → p.args = q.args ∧
        ∃ m middle body clause clause' after after',
          ((Statement.insert s.withoutUpsert).build ⟨c, k⟩ r).result =
            .ok (.ofPieces c.quote (body ++ [.text ";"])) ∧
          (u.render c).Yields m middle clause after () ∧
          (u.render d).Yields m middle clause' after' () ∧
          p = .ofPieces c.quote (body ++ clause ++ [.text ";"]) ∧
          q = .ofPieces d.quote (body ++ clause' ++ [.text ";"])) ∧
      (u.conflictFields ≠ [] → SameBetweenQuotes Dialect.sqlite.quote Dialect.postgres.quote
        (built .sqlite) (built .postgres)) ∧
      ((∃ err, built .mysql = .error err) → ∀ d, ∃ err, built d = .error err) := by
  constructor
  · intro s plain c d
    exact sameBetweenQuotes_build (s.draft_dialect plain c d k r)
  intro s u given built
  refine ⟨?_, ?_, ?_⟩
  · intro c d p q first second
    obtain ⟨m, before, body, middle, clause, after, some, inForce, text, run, rfl⟩ :=
      s.exists_clause given first
    obtain ⟨m', before', body', middle', clause', after', -, inForce', text', run', rfl⟩ :=
      s.exists_clause given second
    -- Both dialects start from one model and one registry, and share the pieces up to the clause.
    obtain ⟨rfl, rfl⟩ : m = m' ∧ before = before' := by simpa using inForce.symm.trans inForce'
    obtain ⟨rfl, rfl, -⟩ : body = body' ∧ middle = middle' ∧ _ := by
      simpa only [Draft.mk.injEq] using text.symm.trans text'
    refine ⟨?_, m, middle, body, clause, clause', after, after', ?_, run, run', rfl, rfl⟩
    · have arguments := (u.binds_render c middle clause after () run).argsOf_eq.trans
        (u.binds_render d middle clause' after' () run').argsOf_eq.symm
      simp only [Query.ofPieces, argsOf_append, arguments]
    · exact Insert.build_of_yields some inForce text
  · intro target
    exact sameBetweenQuotes_build (s.draft_sqlite_eq_postgres given target k r)
  · rintro ⟨err, rejected⟩ d
    cases success : built d with
    | error other => exact ⟨other, rfl⟩
    | ok q =>
      obtain ⟨m, before, body, middle, clause, after, some, inForce, text, run, -⟩ :=
        s.exists_clause given success
      obtain ⟨standard, accepted⟩ := Upsert.yields_duplicateKey run
      have whole : (s.render ⟨.mysql, k⟩).Yields m before (body ++ standard) after () := by
        rw [Insert.render_eq given]
        exact Yields.bind text accepted
      have accepts := Insert.build_of_yields some inForce whole
      have impossible := rejected.symm.trans accepts
      contradiction

end Statements

/-- An upsert that every dialect writes in its way, one with an unknown field, and a deletion. -/
theorem build_dialects_ownerUpsert :
    let conditions : List Predicate := [.compare ⟨"id", none, none⟩ .eq (.value (.int 7))]
    let deletion : Statement account := .delete ⟨none, conditions⟩
    let u : Upsert := ⟨[.column ⟨"owner", none, none⟩, .assignment ⟨"id", .value (.int 7)⟩], ["id"]⟩
    let unknown : Upsert := ⟨[.column ⟨"missing", none, none⟩], ["id"]⟩
    let insertion (u : Upsert) : Insert account := ⟨[.initial], [], some u⟩
    let built (d : Dialect) (s : Statement account) := (s.build ⟨d, .reflect⟩ .empty).result
    let p : Query := ⟨"INSERT INTO `account`(`id`,`owner`) VALUES (?,?) ON DUPLICATE KEY UPDATE " ++
      "`owner`=VALUES(`owner`),`id`=?;", [.int 0, .int 0, .int 7]⟩
    let q : Query := ⟨"INSERT INTO \"account\"(\"id\",\"owner\") VALUES (?,?) ON CONFLICT(\"id\") " ++
      "DO UPDATE SET \"owner\"=excluded.\"owner\",\"id\"=?;", [.int 0, .int 0, .int 7]⟩
    SameBetweenQuotes '\x60' '"' (built .mysql deletion) (built .postgres deletion) ∧
      built .mysql (.insert (insertion u)) = .ok p ∧
      built .postgres (.insert (insertion u)) = .ok q ∧ p.args = q.args ∧
      SameBetweenQuotes '\x60' '"' (built .sqlite (.insert (insertion u)))
        (built .postgres (.insert (insertion u))) ∧
      built .mysql (.insert (insertion unknown)) = .error (.unknownField "missing") ∧
      ∃ err, built .postgres (.insert (insertion unknown)) = .error err := by
  intro conditions deletion u unknown insertion built p q
  obtain ⟨plain, upserts⟩ := build_dialects (e := account) .reflect .empty
  obtain ⟨alike, conflict, -⟩ := upserts (insertion u) u rfl
  obtain ⟨-, -, rejects⟩ := upserts (insertion unknown) unknown rfl
  have first : built .mysql (.insert (insertion u)) = .ok p := by decide +kernel
  have second : built .postgres (.insert (insertion u)) = .ok q := by decide +kernel
  have rejected : built .mysql (.insert (insertion unknown)) = .error (.unknownField "missing") := by
    decide +kernel
  exact ⟨plain deletion rfl .mysql .postgres, first, second,
    (alike .mysql .postgres p q first second).1, conflict (by decide), rejected,
    rejects ⟨_, rejected⟩ .postgres⟩

end RecordSql
