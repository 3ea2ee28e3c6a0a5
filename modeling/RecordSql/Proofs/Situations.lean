import RecordSql.Middleware.Metrics
import RecordSql.Middleware.QueryLog
import RecordSql.Middleware.SlowQuery
import RecordSql.Middleware.Span
import RecordSql.Middleware.Steps
import RecordSql.Proofs.Guard
import RecordSql.Proofs.Nesting
import RecordSql.Proofs.Repetition
/-! # What the middlewares of the library do in a situation

They observe a statement or guard against it. However an execution was observed before, it is
still in the same situation: the same statement, which builds to the same, for the same caller
and the same databases. Each middleware hands the situation on and leaves the ending alone, or
stops with an error that depends on nothing else. -/
set_option autoImplicit false
namespace RecordSql

variable {ω ρ : Type} {e : Entity}

/-- The middlewares of the library. A pause is time that passes between them. -/
inductive BuiltIn
  | queryLog (l : QueryLog)
  | slowQuery (s : SlowQuery)
  | span
  | metrics
  | noDelete
  | safeChanges
  | pause (d : Duration)

namespace BuiltIn

def middleware : BuiltIn → Middleware (World ω)
  | queryLog l => l.middleware
  | slowQuery s => s.middleware
  | span => spanMiddleware
  | metrics => metricsMiddleware
  | noDelete => RecordSql.noDelete
  | safeChanges => RecordSql.safeChanges
  | pause d => Steps.pause d

def isGuard : BuiltIn → Bool
  | noDelete => true
  | safeChanges => true
  | _ => false

/-- The error with which the middleware stops before the rest of the chain: that of a
statement that does not build, where it needs the query, or that of a guard. -/
def stop? (s : Statement e) (table : String) (result : Except Error Query) :
    BuiltIn → Option Error
  | queryLog _ =>
    match result with
    | .error err => some err
    | .ok _ => none
  | noDelete => if s.queryType = .delete then some (deletionRefusal table) else none
  | safeChanges =>
    if s.queryType.isGuarded then
      match s.hasWhere, result with
      | some true, _ => none
      | some false, _ => some (unconditionalRefusal s.queryType)
      | none, .error err => some err
      | none, .ok q =>
        if textPasses s.queryType q.sql then none else some (unconditionalRefusal s.queryType)
    else none
  | _ => none

theorem stop?_ok_of_observer {b : BuiltIn} (observer : b.isGuard = false) (s : Statement e)
    (table : String) (q : Query) : b.stop? s table (.ok q) = none := by
  cases b with
  | noDelete => simp [isGuard] at observer
  | safeChanges => simp [isGuard] at observer
  | _ => rfl

/-- A middleware stops with the error of the statement, or it is a guard that aborts. -/
theorem error_or_aborted_of_stop? {b : BuiltIn} {s : Statement e} {table : String}
    {result : Except Error Query} {err : Error} (stops : b.stop? s table result = some err) :
    result = .error err ∨ b.isGuard = true ∧ ∃ reason, err = .aborted reason := by
  cases b with
  | queryLog l =>
    cases result with
    | ok q => simp [stop?] at stops
    | error failure => exact .inl (congrArg Except.error (Option.some.inj stops))
  | noDelete =>
    simp only [stop?, Option.ite_none_right_eq_some, Option.some.injEq] at stops
    exact .inr ⟨rfl, _, stops.2.symm⟩
  | safeChanges =>
    have refused (same : some (unconditionalRefusal s.queryType) = some err) :
        ∃ reason, err = .aborted reason := ⟨_, (Option.some.inj same).symm⟩
    simp only [stop?, Option.ite_none_right_eq_some] at stops
    obtain ⟨-, stops⟩ := stops
    split at stops
    next => simp at stops
    next => exact .inr ⟨rfl, refused stops⟩
    next => exact .inl (congrArg Except.error (Option.some.inj stops))
    next =>
      split at stops
      next => simp at stops
      next => exact .inr ⟨rfl, refused stops⟩
  | _ => simp [stop?] at stops

end BuiltIn

/-! ## The situation of an execution -/

/-- A change of the world that leaves models and databases alone. -/
def World.IsNote (f : World ω → World ω) : Prop :=
  ∀ w, (f w).registry = w.registry ∧ (f w).backend = w.backend

namespace World

theorem isNote_emit (event : Event) : IsNote (ω := ω) fun w => w.emit event := fun _ => ⟨rfl, rfl⟩

theorem isNote_pass (nanos : Nat) : IsNote (ω := ω) fun w => w.pass nanos := fun _ => ⟨rfl, rfl⟩

theorem isNote_enterSpan : IsNote (ω := ω) enterSpan := fun _ => ⟨rfl, rfl⟩

theorem isNote_leaveSpan : IsNote (ω := ω) leaveSpan := fun _ => ⟨rfl, rfl⟩

theorem isNote_reportFailure (err : Error) : IsNote (ω := ω) fun w => w.reportFailure err :=
  fun _ => ⟨rfl, rfl⟩

theorem adoptRegistry_eq (w : World ω) (registry : Registry) :
    (w.adoptRegistry registry).registry = registry ∧
      (w.adoptRegistry registry).backend = w.backend := by
  have reported (entries : List Registration) (w : World ω) :
      (entries.foldl reportRegistration w).registry = w.registry ∧
        (entries.foldl reportRegistration w).backend = w.backend := by
    induction entries generalizing w with
    | nil => exact ⟨rfl, rfl⟩
    | cons entry rest ih => exact ih (w.reportRegistration entry)
  exact reported (registry.since w.registry) { w with registry }

end World

theorem QueryLog.isNote_write (l : QueryLog) (queryType : QueryType) (table : String) (q : Query) :
    World.IsNote (ω := ω) (l.write queryType table q) := by
  intro w
  unfold write
  split
  next => exact ⟨rfl, rfl⟩
  next => exact ⟨rfl, rfl⟩

theorem SlowQuery.isNote_report (s : SlowQuery) (queryType : QueryType) (elapsed : Duration)
    (q : Query) : World.IsNote (ω := ω) (s.report queryType elapsed q) := by
  intro w
  unfold report
  split
  next => exact ⟨rfl, rfl⟩
  next => exact ⟨rfl, rfl⟩

/-- What an execution is about: a statement, what that builds to, the databases and the
caller's slot. -/
structure Situation (ω ρ : Type) (e : Entity) where
  style : Style
  statement : Statement e
  model : Model
  result : Except Error Query
  backend : ω
  slot : ρ

/-- How an execution ends for its caller and the databases. -/
structure Ending (ω ρ : Type) where
  outcome : Outcome
  backend : ω
  slot : ρ

namespace Execution

/-- The execution is about this. The statement builds to the result as often as it is built,
until the query is at hand. -/
structure Is (x : Execution (World ω) ρ) (c : Situation ω ρ e) : Prop where
  queryType : x.queryType = c.statement.queryType
  buildable : x.buildable = .ofStatement c.style c.statement
  model : x.model = c.model
  backend : x.state.backend = c.backend
  slot : x.slot = c.slot
  query : (x.query = none ∧ (c.statement.build c.style x.state.registry).result = c.result) ∨
    ∃ q, x.query = some q ∧ c.result = .ok q

structure Ends (x : Execution (World ω) ρ) (c : Situation ω ρ e) (a : Ending ω ρ) : Prop where
  buildable : x.buildable = .ofStatement c.style c.statement
  backend : x.state.backend = a.backend
  slot : x.slot = a.slot

variable {x : Execution (World ω) ρ} {c : Situation ω ρ e} {a : Ending ω ρ}

theorem Is.mapState (about : x.Is c) {f : World ω → World ω} (note : World.IsNote f) :
    (x.mapState f).Is c := by
  obtain ⟨registry, backend⟩ := note x.state
  refine ⟨about.queryType, about.buildable, about.model, backend.trans about.backend,
    about.slot, ?_⟩
  rcases about.query with ⟨none, built⟩ | found
  · exact .inl ⟨none, by rw [← built, Execution.mapState, registry]⟩
  · exact .inr found

theorem Ends.mapState (ends : x.Ends c a) {f : World ω → World ω} (note : World.IsNote f) :
    (x.mapState f).Ends c a :=
  ⟨ends.buildable, (note x.state).2.trans ends.backend, ends.slot⟩

/-- Every step that asks for the query gets the same result, and the situation stays. -/
theorem Is.buildQuery (about : x.Is c) : ∃ y, x.buildQuery = (c.result, y) ∧ y.Is c := by
  rcases buildQuery_cases about.buildable with ⟨q, found, kept⟩ | ⟨missing, run⟩
  · rcases about.query with ⟨none, -⟩ | ⟨p, same, success⟩
    · simp [found] at none
    · obtain rfl : q = p := Option.some.inj (found.symm.trans same)
      exact ⟨x, by rw [kept, success], about⟩
  · have built : (c.statement.build c.style x.state.registry).result = c.result := by
      rcases about.query with ⟨-, built⟩ | ⟨p, same, -⟩
      · exact built
      · simp [missing] at same
    have again := c.statement.build_again c.style x.state.registry
    obtain ⟨registry, backend⟩ := World.adoptRegistry_eq x.state
      (c.statement.build c.style x.state.registry).registry
    rw [built] at run
    refine ⟨x.buildQuery.2, by rw [run], ?_⟩
    rw [run]
    refine ⟨about.queryType, about.buildable, about.model, backend.trans about.backend,
      about.slot, ?_⟩
    -- A success is kept, after a failure the next step builds again from the new registry.
    cases result : c.result with
    | error err => exact .inl ⟨rfl, by rw [registry, again, built, result]⟩
    | ok q => exact .inr ⟨q, rfl, rfl⟩

theorem Ends.buildQuery (ends : x.Ends c a) : x.buildQuery.2.Ends c a := by
  rcases buildQuery_cases ends.buildable with ⟨q, -, kept⟩ | ⟨-, run⟩
  · rw [kept]
    exact ends
  · rw [run]
    exact ⟨ends.buildable, (World.adoptRegistry_eq x.state _).2.trans ends.backend, ends.slot⟩

theorem Is.ends (about : x.Is c) (outcome : Outcome) :
    x.Ends c ⟨outcome, c.backend, c.slot⟩ := ⟨about.buildable, about.backend, about.slot⟩

end Execution

/-! ## Observing an execution -/

/-- The second execution is the first one after it was observed: it was asked for its query,
and notes were made in its world. -/
inductive Execution.Observed (x : Execution (World ω) ρ) : Execution (World ω) ρ → Prop
  | start : x.Observed x
  | asked {y : Execution (World ω) ρ} : x.Observed y → x.Observed y.buildQuery.2
  | noted {y : Execution (World ω) ρ} {f : World ω → World ω} :
      World.IsNote f → x.Observed y → x.Observed (y.mapState f)

namespace Execution.Observed

variable {x y : Execution (World ω) ρ} {c : Situation ω ρ e} {a : Ending ω ρ}

theorem of_buildQuery {z : Execution (World ω) ρ} {result : Except Error Query}
    (observed : x.Observed y) (built : y.buildQuery = (result, z)) : x.Observed z := by
  have asked := observed.asked
  rw [built] at asked
  exact asked

theorem trans {z : Execution (World ω) ρ} (first : x.Observed y) (second : y.Observed z) :
    x.Observed z := by
  induction second with
  | start => exact first
  | asked _ ih => exact ih.asked
  | noted note _ ih => exact .noted note ih

theorem is (observed : x.Observed y) (about : x.Is c) : y.Is c := by
  induction observed with
  | start => exact about
  | asked _ ih =>
    obtain ⟨z, built, aboutZ⟩ := ih.buildQuery
    rw [built]
    exact aboutZ
  | noted note _ ih => exact ih.mapState note

theorem ends (observed : x.Observed y) (ends : x.Ends c a) : y.Ends c a := by
  induction observed with
  | start => exact ends
  | asked _ ih => exact ih.buildQuery
  | noted note _ ih => exact ih.mapState note

end Execution.Observed

/-! ## The middlewares are layers -/

def SlowQuery.follow (s : SlowQuery) (elapsed : Duration) (x : Execution (World ω) ρ) :
    Execution (World ω) ρ :=
  if elapsed.nanos ≤ s.threshold.nanos then x
  else
    match x.buildQuery with
    | (.error _, y) => y
    | (.ok q, y) => y.mapState (s.report y.queryType elapsed q)

def Execution.openSpan (x : Execution (World ω) ρ) : Execution (World ω) ρ :=
  let opened := x.mapState fun w => w.emit (.spanOpened (spanFields x.queryType x.table))
  match opened.buildQuery with
  | (.ok q, y) => (y.mapState fun w => w.emit (.spanSql q.sql)).mapState World.enterSpan
  | (.error _, y) => y.mapState World.enterSpan

def Execution.closeSpan (outcome : Outcome) (x : Execution (World ω) ρ) : Execution (World ω) ρ :=
  match outcome with
  | .ok _ => x.mapState World.leaveSpan
  | .error e => (x.mapState World.leaveSpan).mapState fun w => w.reportFailure e

def Execution.countRun (started : Nat) (outcome : Outcome) (x : Execution (World ω) ρ) :
    Execution (World ω) ρ :=
  x.mapState fun w =>
    { w.pass 1 with
      stats := w.stats.record (x.queryType, x.table) ⟨w.clock - started⟩ (!outcome.isOk) }

namespace BuiltIn

def layer : BuiltIn → Layer (World ω)
  | queryLog l => ⟨fun x =>
    match x.buildQuery with
    | (.error e, y) => .answer (.error e) y
    | (.ok q, y) => .call (y.mapState (l.write y.queryType y.table q)) id⟩
  | slowQuery s => ⟨fun x => .call (x.mapState (·.pass 1)) fun (outcome, y) =>
    (outcome, s.follow ⟨y.state.clock - x.state.clock⟩ (y.mapState (·.pass 1)))⟩
  | span => ⟨fun x => .call x.openSpan fun (outcome, y) => (outcome, y.closeSpan outcome)⟩
  | metrics => ⟨fun x => .call (x.mapState (·.pass 1)) fun (outcome, y) =>
    (outcome, y.countRun x.state.clock outcome)⟩
  | noDelete => ⟨fun x =>
    if x.queryType = .delete then .answer (.error (deletionRefusal x.table)) x else .call x id⟩
  | safeChanges => ⟨fun x =>
    match x.admission with
    | (.ok (), y) => .call y id
    | (.error e, y) => .answer (.error e) y⟩
  | pause d => ⟨fun x => .call (x.mapState fun w => w.pass d.nanos) id⟩

theorem handle_layer (b : BuiltIn) (rest : Handler (World ω) ρ) (x : Execution (World ω) ρ) :
    b.layer.middleware.handle rest x = b.middleware.handle rest x := by
  cases b with
  | queryLog l =>
    simp only [layer, middleware, QueryLog.middleware, Layer.middleware]
    rcases x.buildQuery with ⟨result, y⟩
    cases result <;> rfl
  | slowQuery s =>
    rcases run : rest (x.mapState (·.pass 1)) with ⟨outcome, y⟩
    simp only [Execution.mapState] at run
    simp only [layer, middleware, SlowQuery.middleware, Layer.middleware, SlowQuery.follow,
      World.readClock, Execution.mapState, run]
    by_cases fast : y.state.clock - x.state.clock ≤ s.threshold.nanos
    · simp only [if_pos fast]
    · simp only [if_neg fast]
      rcases Execution.buildQuery { y with state := y.state.pass 1 } with ⟨result, z⟩
      cases result <;> rfl
  | span =>
    simp only [layer, middleware, spanMiddleware, Layer.middleware, Execution.openSpan]
    rcases (x.mapState fun w => w.emit (.spanOpened (spanFields x.queryType x.table))).buildQuery
      with ⟨result, y⟩
    cases result with
    | ok q =>
      simp only
      rcases rest ((y.mapState fun w => w.emit (.spanSql q.sql)).mapState World.enterSpan)
        with ⟨outcome, z⟩
      cases outcome <;> rfl
    | error e =>
      simp only
      rcases rest (y.mapState World.enterSpan) with ⟨outcome, z⟩
      cases outcome <;> rfl
  | metrics =>
    rcases run : rest (x.mapState (·.pass 1)) with ⟨outcome, y⟩
    simp only [Execution.mapState] at run
    simp only [layer, middleware, metricsMiddleware, Layer.middleware, Execution.countRun,
      World.readClock, Execution.mapState, run]
    cases outcome <;> rfl
  | noDelete =>
    simp only [layer, middleware, RecordSql.noDelete, Layer.middleware]
    by_cases deletes : x.queryType = .delete
    · simp only [if_pos deletes]
    · simp only [if_neg deletes, id]
  | safeChanges =>
    rw [middleware, safeChanges_handle]
    simp only [layer, Layer.middleware]
    rcases x.admission with ⟨result, y⟩
    cases result <;> rfl
  | pause d => rfl

end BuiltIn

/-! ## The layers observe -/

section Observers

variable (x : Execution (World ω) ρ)

theorem SlowQuery.observed_follow (s : SlowQuery) (elapsed : Duration) :
    x.Observed (s.follow elapsed x) := by
  unfold follow
  split
  next => exact .start
  next =>
    split
    next y failed => exact Execution.Observed.start.of_buildQuery failed
    next q y found =>
      exact .noted (s.isNote_report _ elapsed q) (Execution.Observed.start.of_buildQuery found)

namespace Execution

theorem observed_openSpan : x.Observed x.openSpan := by
  have opened : x.Observed
      (x.mapState fun w => w.emit (.spanOpened (spanFields x.queryType x.table))) :=
    .noted (World.isNote_emit _) .start
  unfold openSpan
  dsimp only
  split
  next q y built =>
    exact .noted World.isNote_enterSpan (.noted (World.isNote_emit (.spanSql q.sql))
      (opened.of_buildQuery built))
  next y failed => exact .noted World.isNote_enterSpan (opened.of_buildQuery failed)

theorem observed_closeSpan (outcome : Outcome) : x.Observed (x.closeSpan outcome) := by
  have closed : x.Observed (x.mapState World.leaveSpan) := .noted World.isNote_leaveSpan .start
  cases outcome with
  | ok output => exact closed
  | error err => exact .noted (World.isNote_reportFailure err) closed

theorem observed_countRun (started : Nat) (outcome : Outcome) :
    x.Observed (x.countRun started outcome) :=
  .noted (fun _ => ⟨rfl, rfl⟩) .start

theorem observed_admission : x.Observed x.admission.2 := by
  unfold admission
  split
  next =>
    split
    next => exact .start
    next => exact .start
    next =>
      split
      next failed => exact Observed.start.of_buildQuery failed
      next built => split <;> exact Observed.start.of_buildQuery built
  next => exact .start

end Execution

/-- The layer does no more than observe, before the rest of the chain and after it. -/
def Move.Observes : Move (World ω) ρ → Prop
  | .answer _ y => x.Observed y
  | .call y leave => x.Observed y ∧
      ∀ (outcome : Outcome) (z : Execution (World ω) ρ), z.Observed (leave (outcome, z)).2

/-- What one middleware does to an execution. -/
theorem BuiltIn.observes_layer (b : BuiltIn) : (b.layer.move x).Observes x := by
  have passed (nanos : Nat) (y : Execution (World ω) ρ) : y.Observed (y.mapState (·.pass nanos)) :=
    .noted (World.isNote_pass nanos) .start
  cases b with
  | queryLog l =>
    rcases built : x.buildQuery with ⟨result, y⟩
    have asked : x.Observed y := Execution.Observed.start.of_buildQuery built
    simp only [layer, built]
    cases result with
    | error err => exact asked
    | ok q =>
      exact ⟨.noted (l.isNote_write y.queryType y.table q) asked, fun _ _ => .start⟩
  | slowQuery s =>
    exact ⟨passed 1 x, fun _ z => (passed 1 z).trans (s.observed_follow _ _)⟩
  | span => exact ⟨x.observed_openSpan, fun outcome z => z.observed_closeSpan outcome⟩
  | metrics => exact ⟨passed 1 x, fun outcome z => z.observed_countRun _ outcome⟩
  | noDelete =>
    simp only [layer]
    split
    next => exact Execution.Observed.start
    next => exact ⟨.start, fun _ _ => .start⟩
  | safeChanges =>
    have decided := x.observed_admission
    simp only [layer]
    split
    next admitted =>
      rw [admitted] at decided
      exact ⟨decided, fun _ _ => .start⟩
    next refused =>
      rw [refused] at decided
      exact decided
  | pause d => exact ⟨passed d.nanos x, fun _ _ => .start⟩

end Observers

/-! ## Every middleware hands the situation on or stops -/

section Steps

variable {c : Situation ω ρ e} {a : Ending ω ρ}

/-- Every execution about this ends like that. -/
def Handler.Answers (h : Handler (World ω) ρ) (c : Situation ω ρ e) (a : Ending ω ρ) : Prop :=
  ∀ x, x.Is c → (h x).1 = a.outcome ∧ (h x).2.Ends c a

def Situation.stopped (c : Situation ω ρ e) (err : Error) : Ending ω ρ :=
  ⟨.error err, c.backend, c.slot⟩

def Situation.ending (c : Situation ω ρ e) (stop? : Option Error) (a : Ending ω ρ) : Ending ω ρ :=
  match stop? with
  | some err => c.stopped err
  | none => a

/-- The move stops with the error if there is one. Else it hands the situation on and leaves
the ending as it is. -/
def Move.HandsOn (move : Move (World ω) ρ) (c : Situation ω ρ e) : Option Error → Prop
  | some err => ∃ y, move = .answer (.error err) y ∧ y.Is c
  | none => ∃ y leave, move = .call y leave ∧ y.Is c ∧
      ∀ outcome z a, z.Ends c a →
        (leave (outcome, z)).1 = outcome ∧ (leave (outcome, z)).2.Ends c a

def Layer.HandsOn (l : Layer (World ω)) (c : Situation ω ρ e) (stop? : Option Error) : Prop :=
  ∀ x, x.Is c → (l.move x).HandsOn c stop?

theorem Layer.HandsOn.answers {l : Layer (World ω)} {stop? : Option Error}
    {rest : Handler (World ω) ρ} (handsOn : l.HandsOn c stop?) (inner : rest.Answers c a) :
    (l.middleware.handle rest).Answers c (c.ending stop? a) := by
  intro x about
  have moved := handsOn x about
  cases stop? with
  | some err =>
    obtain ⟨y, move, aboutY⟩ := moved
    rw [l.handle_of_answer move]
    exact ⟨rfl, aboutY.ends _⟩
  | none =>
    obtain ⟨y, leave, move, aboutY, left⟩ := moved
    obtain ⟨outcome, ends⟩ := inner y aboutY
    obtain ⟨same, after⟩ := left (rest y).1 (rest y).2 a ends
    rw [l.handle_of_call move]
    exact ⟨same.trans outcome, after⟩

/-- What the guard of changes decides in a situation. -/
theorem Execution.Is.admission {x : Execution (World ω) ρ} (about : x.Is c) :
    ∃ y, y.Is c ∧ x.admission =
      match BuiltIn.safeChanges.stop? c.statement c.model.table c.result with
      | some err => (.error err, y)
      | none => (.ok (), y) := by
  have known : x.buildable.hasWhere = c.statement.hasWhere := by
    rw [about.buildable]
    rfl
  simp only [Execution.admission, BuiltIn.stop?, known, about.queryType]
  by_cases guarded : c.statement.queryType.isGuarded = true
  · simp only [if_pos guarded]
    cases c.statement.hasWhere with
    | some flag =>
      cases flag with
      | true => exact ⟨x, about, rfl⟩
      | false => exact ⟨x, about, rfl⟩
    | none =>
      obtain ⟨y, built, aboutY⟩ := about.buildQuery
      refine ⟨y, aboutY, ?_⟩
      rw [built]
      cases c.result with
      | error err => rfl
      | ok q =>
        simp only [aboutY.queryType]
        by_cases passes : textPasses c.statement.queryType q.sql = true
        · simp only [if_pos passes]
        · simp only [if_neg passes]
  · simp only [if_neg guarded]
    exact ⟨x, about, rfl⟩

/-- What one middleware does: the step of every chain. -/
theorem BuiltIn.handsOn_layer (b : BuiltIn) (c : Situation ω ρ e) :
    b.layer.HandsOn c (b.stop? c.statement c.model.table c.result) := by
  intro x about
  -- A layer that always calls the rest and gives its outcome back only observes.
  have handed (b : BuiltIn) {y : Execution (World ω) ρ}
      {leave : Outcome × Execution (World ω) ρ → Outcome × Execution (World ω) ρ}
      (move : b.layer.move x = .call y leave) (same : ∀ outcome z, (leave (outcome, z)).1 = outcome) :
      (b.layer.move x).HandsOn c none := by
    have observes := b.observes_layer x
    rw [move] at observes
    exact ⟨y, leave, move, observes.1.is about, fun outcome z _ ends =>
      ⟨same outcome z, (observes.2 outcome z).ends ends⟩⟩
  cases b with
  | queryLog l =>
    obtain ⟨y, built, aboutY⟩ := about.buildQuery
    have written := fun q => aboutY.mapState (l.isNote_write y.queryType y.table q)
    simp only [layer, built, stop?]
    cases c.result with
    | error err => exact ⟨y, rfl, aboutY⟩
    | ok q => exact ⟨_, id, rfl, written q, fun _ _ _ ends => ⟨rfl, ends⟩⟩
  | slowQuery s => exact handed (slowQuery s) rfl fun _ _ => rfl
  | span => exact handed span rfl fun _ _ => rfl
  | metrics => exact handed metrics rfl fun _ _ => rfl
  | noDelete =>
    have table : x.table = c.model.table := by rw [Execution.table, about.model]
    simp only [layer, stop?, about.queryType, table]
    by_cases deletes : c.statement.queryType = .delete
    · rw [if_pos deletes, if_pos deletes]
      exact ⟨x, rfl, about⟩
    · rw [if_neg deletes, if_neg deletes]
      exact ⟨x, id, rfl, about, fun _ _ _ ends => ⟨rfl, ends⟩⟩
  | safeChanges =>
    obtain ⟨y, aboutY, decided⟩ := about.admission
    simp only [layer, decided]
    cases BuiltIn.safeChanges.stop? c.statement c.model.table c.result with
    | some err => exact ⟨y, rfl, aboutY⟩
    | none => exact ⟨y, id, rfl, aboutY, fun _ _ _ ends => ⟨rfl, ends⟩⟩
  | pause d => exact handed (pause d) rfl fun _ _ => rfl

end Steps

end RecordSql
