import RecordSql.Middleware.Guard
import RecordSql.Middleware.Steps
import RecordSql.Proofs.Placeholders
import RecordSql.Proofs.QuotedText
/-! # What the guard of changes lets pass

The guard is there so that the rest of the chain only gets changes with a WHERE outside quotes.
It calls the rest with an execution that it admits, and with no other. A statement that does not
know of its conditions is admitted by the text at hand, whoever put it there. One that knows of
them is admitted without a look at that text, so the guard does what it is there for only as long
as the text is the statement's own and the names in it end where their quotes do. -/
set_option autoImplicit false
namespace RecordSql

open Render

/-! ## Statements with conditions -/

namespace Render

variable {α β : Type} {m : Model}

/-- A rendering that cannot succeed without the keyword WHERE. -/
def WritesWhere (x : Render α) (m : Model) : Prop :=
  ∀ r pieces after a, x.Yields m r pieces after a →
    ∃ front back, pieces = front ++ .text " WHERE " :: back

theorem WritesWhere.behind {x : Render α} {f : α → Render β} (last : ∀ a, (f a).WritesWhere m) :
    (x >>= f).WritesWhere m := by
  intro r pieces after b run
  obtain ⟨before, middle, a, rest, -, second, rfl⟩ := yields_bind.mp run
  obtain ⟨front, back, rfl⟩ := last a middle rest after b second
  exact ⟨before ++ front, back, (List.append_assoc before front _).symm⟩

theorem writesWhere_renderClause {conditions : List Predicate} (given : conditions ≠ []) :
    (renderClause " WHERE " conditions).WritesWhere m := by
  intro r pieces after a run
  cases conditions with
  | nil => exact absurd rfl given
  | cons p rest =>
    simp only [renderClause, yields_bind, yields_write] at run
    obtain ⟨_, _, _, back, ⟨rfl, rfl⟩, _, rfl⟩ := run
    exact ⟨[], back, rfl⟩

end Render

namespace Statement

variable {e : Entity} {style : Style} {registry : Registry} {s : Statement e} {q : Query}

theorem writesWhere_render {m : Model} (conditional : s.hasWhere = some true) :
    (s.render style).WritesWhere m := by
  cases s with
  | select s => simp [hasWhere] at conditional
  | insert s => simp [hasWhere] at conditional
  | raw f => simp [hasWhere] at conditional
  | update s =>
    have given : s.conditions ≠ [] := by simpa [hasWhere] using conditional
    have body (model : Model) : (do
        write "UPDATE "
        quoted model.table
        write " SET "
        s.renderAssignments style.materializer
        renderClause " WHERE " s.conditions : Render Unit).WritesWhere m :=
      .behind fun _ => .behind fun _ => .behind fun _ => .behind fun _ =>
        writesWhere_renderClause given
    refine .behind fun model => ?_
    split
    next => exact .behind fun _ => body model
    next => exact body model
  | delete s =>
    have given : s.conditions ≠ [] := by simpa [hasWhere] using conditional
    exact .behind fun _ => .behind fun _ => .behind fun _ => writesWhere_renderClause given

theorem written_of_hasWhere {flag : Bool} (known : s.hasWhere = some flag) :
    s.queryType ≠ .raw := by
  intro raw
  cases s <;> simp_all [hasWhere, queryType]

/-- A statement that knows of its conditions has a WHERE outside quotes in its text, unless a
name holds the quote character or a raw fragment leaves a quote open. -/
theorem sqlHasWhere_of_build (conditional : s.hasWhere = some true)
    (built : (s.build style registry).result = .ok q)
    (clean : ∀ name ∈ namesOf (s.draft style registry).pieces, style.dialect.quote ∉ name.toList)
    (closes : ∀ r ∈ rawsOf (s.draft style registry).pieces,
      ClosesQuotes isQuoteChar r.sql.toList) :
    sqlHasWhere q.sql = true := by
  have written := written_of_hasWhere conditional
  have each := closesQuotes_piece_of_build style.dialect.isQuoteChar_quote (fun _ => id) built clean
    closes
  obtain ⟨success, rfl⟩ := build_eq_ok built
  obtain ⟨model, middle, body, after, -, run, drafted⟩ := yields_of_draft written success
  obtain ⟨front, back, rfl⟩ := writesWhere_render conditional middle body after () run
  have split : (s.draft style registry).pieces =
      front ++ .text " WHERE " :: (back ++ [.text ";"]) := by
    rw [drafted, List.append_assoc, List.cons_append]
  have closed : ClosesQuotes isQuoteChar (sqlOf style.dialect.quote front).toList := by
    refine closesQuotes_sqlOf fun piece member => each piece ?_
    rw [split]
    exact List.mem_append_left _ member
  have text : (Query.ofPieces style.dialect.quote (s.draft style registry).pieces).sql =
      sqlOf style.dialect.quote front ++ " WHERE " ++
        sqlOf style.dialect.quote (back ++ [.text ";"]) := by
    rw [Query.ofPieces, split, sqlOf_append, sqlOf, Piece.sql, String.append_assoc]
  rw [text]
  exact sqlHasWhere_of_closes closed

end Statement

/-! ## What the guard admits -/

section Admission

variable {ω ρ : Type}

/-- The guard's decision: the execution with which the rest of the chain is called, or the
refusal and the execution that is left. -/
def Execution.admission (x : Execution (World ω) ρ) :
    Except Error Unit × Execution (World ω) ρ :=
  if x.queryType.isGuarded then
    match x.buildable.hasWhere with
    | some true => (.ok (), x)
    | some false => (.error (unconditionalRefusal x.queryType), x)
    | none =>
      match x.buildQuery with
      | (.error e, y) => (.error e, y)
      | (.ok q, y) =>
        if textPasses y.queryType q.sql then (.ok (), y)
        else (.error (unconditionalRefusal y.queryType), y)
  else (.ok (), x)

/-- The statement builds the query itself, and neither a name nor a raw fragment in it leaves
a quote open. -/
def Buildable.Writes (b : Buildable (World ω)) (q : Query) : Prop :=
  ∃ (e : Entity) (style : Style) (s : Statement e) (registry : Registry),
    b = .ofStatement style s ∧ (s.build style registry).result = .ok q ∧
      (∀ name ∈ namesOf (s.draft style registry).pieces, style.dialect.quote ∉ name.toList) ∧
      ∀ r ∈ rawsOf (s.draft style registry).pieces, ClosesQuotes isQuoteChar r.sql.toList

/-- Nothing stands in the place of what a statement that knows of its conditions writes. -/
def Execution.IsOwn (y : Execution (World ω) ρ) : Prop :=
  y.buildable.hasWhere = none ∨ ∀ q z, y.buildQuery = (.ok q, z) → y.buildable.Writes q

/-- What the guard is there for: the query that the next step is handed has a WHERE outside
quotes if it is an update, a deletion, or a raw statement that begins like one. -/
def Execution.Conditional (y : Execution (World ω) ρ) : Prop :=
  y.queryType.isGuarded = true → ∀ q z, y.buildQuery = (.ok q, z) →
    (y.queryType = .raw → startsLikeChange q.sql = true) → sqlHasWhere q.sql = true

/-- Asking for the query gives the one at hand, or builds the statement and keeps a success. -/
theorem Execution.buildQuery_cases {x : Execution (World ω) ρ} {e : Entity} {style : Style}
    {s : Statement e}
    (buildable : x.buildable = .ofStatement style s) :
    (∃ q, x.query = some q ∧ x.buildQuery = (.ok q, x)) ∨
      x.query = none ∧ x.buildQuery = ((s.build style x.state.registry).result,
        { x with
          query := (s.build style x.state.registry).result.toOption
          state := x.state.adoptRegistry (s.build style x.state.registry).registry }) := by
  cases found : x.query with
  | some q => exact .inl ⟨q, rfl, buildQuery_of_some found⟩
  | none =>
    have run : x.buildable.build x.state = ((s.build style x.state.registry).result,
        x.state.adoptRegistry (s.build style x.state.registry).registry) := by
      rw [buildable]
      rfl
    exact .inr ⟨rfl, buildQuery_of_none found run⟩

/-- What nobody has built or replaced yet is the statement's own. -/
theorem Execution.isOwn_of_query_eq_none {x : Execution (World ω) ρ} {e : Entity} {style : Style}
    {s : Statement e} (unbuilt : x.query = none) (buildable : x.buildable = .ofStatement style s)
    (clean : ∀ name ∈ namesOf (s.draft style x.state.registry).pieces,
      style.dialect.quote ∉ name.toList)
    (closes : ∀ r ∈ rawsOf (s.draft style x.state.registry).pieces,
      ClosesQuotes isQuoteChar r.sql.toList) : x.IsOwn := by
  refine .inr fun q z built => ?_
  rcases buildQuery_cases buildable with ⟨p, found, -⟩ | ⟨-, run⟩
  · simp [unbuilt] at found
  · rw [run, Prod.mk.injEq] at built
    exact ⟨e, style, s, x.state.registry, buildable, built.1, clean, closes⟩

theorem Execution.buildQuery_eq_ok {x y : Execution (World ω) ρ} {q : Query}
    (built : x.buildQuery = (.ok q, y)) :
    y.buildQuery = (.ok q, y) ∧ y.queryType = x.queryType ∧ y.buildable = x.buildable := by
  have frame : y = { x with query := y.query, state := y.state } := by
    have kept := x.buildQuery_frame
    rw [built] at kept
    exact kept
  refine ⟨buildQuery_of_some (query_of_buildQuery built), ?_, ?_⟩
  · rw [frame]
  · rw [frame]

theorem safeChanges_handle (rest : Handler (World ω) ρ) (x : Execution (World ω) ρ) :
    safeChanges.handle rest x =
      match x.admission with
      | (.ok (), y) => rest y
      | (.error e, y) => (.error e, y) := by
  unfold safeChanges Execution.admission
  by_cases guarded : x.queryType.isGuarded = true
  · simp only [if_pos guarded]
    cases known : x.buildable.hasWhere with
    | some flag => cases flag <;> rfl
    | none =>
      rcases built : x.buildQuery with ⟨result, y⟩
      cases result with
      | error e => rfl
      | ok q =>
        by_cases passes : textPasses y.queryType q.sql = true
        · simp only [if_pos passes]
        · simp only [if_neg passes]
  · simp only [if_neg guarded]

/-- Why an execution is admitted: it is no change, it knows that it has conditions, or the text at
hand was read. -/
theorem admission_cases {x y : Execution (World ω) ρ} (admitted : x.admission = (.ok (), y)) :
    (x.queryType.isGuarded = false ∧ y = x) ∨ (x.buildable.hasWhere = some true ∧ y = x) ∨
      x.buildable.hasWhere = none ∧ ∃ q, x.buildQuery = (.ok q, y) ∧
        textPasses y.queryType q.sql = true := by
  unfold Execution.admission at admitted
  by_cases guarded : x.queryType.isGuarded = true
  · rw [if_pos guarded] at admitted
    cases known : x.buildable.hasWhere with
    | some flag =>
      cases flag with
      | false => simp [known] at admitted
      | true =>
        simp only [known, Prod.mk.injEq, true_and] at admitted
        exact .inr (.inl ⟨rfl, admitted.symm⟩)
    | none =>
      simp only [known] at admitted
      rcases built : x.buildQuery with ⟨result, w⟩
      rw [built] at admitted
      cases result with
      | error e => simp at admitted
      | ok q =>
        by_cases passes : textPasses w.queryType q.sql = true
        · simp only [if_pos passes, Prod.mk.injEq, true_and] at admitted
          subst admitted
          exact .inr (.inr ⟨rfl, q, rfl, passes⟩)
        · simp [if_neg passes] at admitted
  · rw [if_neg guarded, Prod.mk.injEq] at admitted
    exact .inl ⟨eq_false_of_ne_true guarded, admitted.2.symm⟩

theorem hasWhere_ne_of_admission {x y : Execution (World ω) ρ}
    (admitted : x.admission = (.ok (), y)) (guarded : y.queryType.isGuarded = true) :
    y.buildable.hasWhere ≠ some false := by
  rcases admission_cases admitted with ⟨harmless, rfl⟩ | ⟨known, rfl⟩ | ⟨silent, q, built, -⟩
  · simp [harmless] at guarded
  · simp [known]
  · obtain ⟨-, -, same⟩ := Execution.buildQuery_eq_ok built
    simp [same, silent]

theorem conditional_of_admission {x y : Execution (World ω) ρ}
    (admitted : x.admission = (.ok (), y)) (own : y.IsOwn) : y.Conditional := by
  intro guarded q z rebuilt change
  rcases admission_cases admitted with ⟨harmless, rfl⟩ | ⟨known, rfl⟩ | ⟨silent, read, built, passes⟩
  · simp [harmless] at guarded
  · -- Nothing was read here: the text has conditions because the statement wrote it.
    rcases own with unknown | writes
    · simp [known] at unknown
    · obtain ⟨e, style, s, registry, same, text, clean, closes⟩ := writes q z rebuilt
      rw [same] at known
      exact Statement.sqlHasWhere_of_build known text clean closes
  · -- The text that was read is kept, so the next step is handed the same one.
    obtain ⟨again, -, -⟩ := Execution.buildQuery_eq_ok built
    obtain rfl : read = q := by
      rw [again, Prod.mk.injEq, Except.ok.injEq] at rebuilt
      exact rebuilt.1
    simp only [textPasses, Bool.or_eq_true, Bool.and_eq_true, beq_iff_eq,
      Bool.not_eq_true'] at passes
    rcases passes with ⟨raw, begins⟩ | found
    · rw [change raw] at begins
      contradiction
    · exact found

/-- In any chain the guard decides on its own whether the steps inside it are called. It calls
them with no change that reports to have no conditions, and what it calls them with has a WHERE
outside quotes, as long as a statement that knows of its conditions has its own text. -/
theorem compose_safeChanges :
    (∀ x y : Execution (World ω) ρ, x.admission = (.ok (), y) →
      (y.queryType.isGuarded = true → y.buildable.hasWhere ≠ some false) ∧
        (y.IsOwn → y.Conditional)) ∧
      ∀ (outer inner : List (Middleware (World ω))) (innermost : Handler (World ω) ρ),
        compose (outer ++ safeChanges :: inner) innermost =
          compose outer fun x =>
            match x.admission with
            | (.ok (), y) => compose inner innermost y
            | (.error e, y) => (.error e, y) := by
  constructor
  · intro x y admitted
    exact ⟨hasWhere_ne_of_admission admitted, conditional_of_admission admitted⟩
  · intro outer inner innermost
    rw [compose_append, compose_cons]
    congr 1
    funext x
    exact safeChanges_handle (compose inner innermost) x

end Admission

def conditionalDeletion (table : Option String) : Execution (World Unit) Unit :=
  let s : Statement account :=
    .delete ⟨table, [.compare ⟨"id", none, none⟩ .eq (.value (.int 1))]⟩
  .start .delete (.ofStatement ⟨.mysql, .accessor⟩ s) ⟨"account", [⟨"id", "id", "i64", 0⟩]⟩
    (.initial ()) ()

/-- A deletion on its way to the guard, whose text nobody has asked for yet. -/
theorem compose_safeChanges_deletion :
    let x := conditionalDeletion none
    x.IsOwn ∧ x.queryType.isGuarded = true ∧ x.admission = (.ok (), x) ∧
      ∃ q z, x.buildQuery = (.ok q, z) ∧ sqlHasWhere q.sql = true := by
  intro x
  have own : x.IsOwn := by
    apply Execution.isOwn_of_query_eq_none rfl rfl
    · decide +kernel
    · decide +kernel
  obtain ⟨guards, -⟩ := compose_safeChanges (ω := Unit) (ρ := Unit)
  have conditional := (guards x x rfl).2 own
  refine ⟨own, rfl, rfl, ?_⟩
  obtain ⟨q, built⟩ : ∃ q, x.buildQuery.1 = .ok q :=
    ⟨⟨"DELETE FROM \x60account\x60 WHERE \x60id\x60 = ?;", [.int 1]⟩, by decide +kernel⟩
  exact ⟨q, x.buildQuery.2, Prod.ext built rfl, conditional rfl q _ (Prod.ext built rfl) nofun⟩

/-- Where the text is not the statement's own, the guard fails: behind a statement that knows of
its conditions it lets a text without any pass that a middleware put in the place of the
statement's own, and one whose WHERE stands between the quotes of two names. -/
theorem compose_safeChanges_passes_unconditional :
    let replacement : Query := ⟨"DELETE FROM account", []⟩
    let y := (conditionalDeletion none).setQuery replacement
    let z := conditionalDeletion (some "t`x")
    (∀ innermost, compose [Steps.replace replacement, safeChanges] innermost
        (conditionalDeletion none) = innermost y) ∧
      y.queryType = .delete ∧ y.buildQuery.1 = .ok replacement ∧
      sqlHasWhere replacement.sql = false ∧
      (∀ innermost, compose [safeChanges] innermost z = innermost z) ∧ z.queryType = .delete ∧
      z.buildQuery.1 = .ok ⟨"DELETE FROM `t`x` WHERE `id` = ?;", [.int 1]⟩ ∧
      sqlHasWhere "DELETE FROM `t`x` WHERE `id` = ?;" = false := by
  refine ⟨fun _ => rfl, rfl, rfl, ?_, fun _ => rfl, rfl, ?_, ?_⟩
  · decide +kernel
  · decide +kernel
  · decide +kernel

end RecordSql
