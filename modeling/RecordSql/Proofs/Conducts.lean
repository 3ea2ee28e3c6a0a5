import RecordSql.Proofs.Courses
import RecordSql.Proofs.Transparency
/-! # Middlewares as programs

A conduct is a program over what a middleware can do: look around, ask for the query, replace
it, run the rest of the chain and end. The same program is followed in a plain world, where it
is a middleware, and in a world that keeps a record of what happens to the query. The
middlewares of the library are conducts. -/
set_option autoImplicit false
namespace RecordSql

variable {ω σ ρ : Type}

inductive Deed
  /-- The builder was called. -/
  | built (answer : Except Error Query)
  /-- A step asked for the query. -/
  | asked (answer : Except Error Query)
  | replaced (q : Query)
  /-- The executor was called. -/
  | sent (call : Call)

/-- What a middleware can look at without asking for the query. -/
structure Sight (ω : Type) where
  queryType : QueryType
  model : Model
  hasWhere : Option Bool
  world : World ω

/-- A middleware as a program: it looks around, changes what it sees, asks for the query and
goes on with whatever it is told, replaces the query, runs the rest of the chain as often as
it likes, and ends with an outcome. -/
inductive Conduct (ω : Type)
  | done (outcome : Outcome)
  | look (next : Sight ω → Conduct ω)
  | change (queryType : QueryType) (model : Model) (world : World ω) (next : Conduct ω)
  | ask (next : Except Error Query → Conduct ω)
  | replace (q : Query) (next : Conduct ω)
  | run (next : Outcome → Conduct ω)

/-- How a state carries a world, and how deeds are put on record in it. -/
structure Recorder (ω σ : Type) where
  world : σ → World ω
  setWorld : World ω → σ → σ
  note : Deed → σ → σ

def Recorder.blind : Recorder ω (World ω) := ⟨id, fun w _ => w, fun _ => id⟩

namespace Execution

def ask (r : Recorder ω σ) (x : Execution σ ρ) : Except Error Query × Execution σ ρ :=
  let (answer, y) := x.buildQuery
  (answer, y.mapState (r.note (.asked answer)))

@[simp] theorem ask_blind (x : Execution (World ω) ρ) : x.ask .blind = x.buildQuery := rfl

def replaceQuery (r : Recorder ω σ) (q : Query) (x : Execution σ ρ) : Execution σ ρ :=
  (x.setQuery q).mapState (r.note (.replaced q))

def sight (r : Recorder ω σ) (x : Execution σ ρ) : Sight ω :=
  ⟨x.queryType, x.model, x.buildable.hasWhere, r.world x.state⟩

@[simp] theorem sight_blind (x : Execution (World ω) ρ) :
    x.sight .blind = ⟨x.queryType, x.model, x.buildable.hasWhere, x.state⟩ := rfl

end Execution

namespace Conduct

def follow (r : Recorder ω σ) (rest : Handler σ ρ) : Conduct ω → Handler σ ρ
  | done outcome, x => (outcome, x)
  | look next, x => (next (x.sight r)).follow r rest x
  | change queryType model world next, x =>
    next.follow r rest { x with queryType, model, state := r.setWorld world x.state }
  | ask next, x =>
    let (answer, y) := x.ask r
    (next answer).follow r rest y
  | replace q next, x => next.follow r rest (x.replaceQuery r q)
  | run next, x =>
    let (outcome, y) := rest x
    (next outcome).follow r rest y

/-- The conduct as a middleware whose deeds are put on record. -/
def recordedBy (r : Recorder ω σ) (c : Conduct ω) : Middleware σ := ⟨fun rest => c.follow r rest⟩

def middleware (c : Conduct ω) : Middleware (World ω) := c.recordedBy .blind

def inspect : Conduct ω :=
  .ask fun
    | .error err => .done (.error err)
    | .ok _ => .run .done

@[simp] theorem follow_ite (p : Prop) [Decidable p] (c d : Conduct ω) (r : Recorder ω σ)
    (rest : Handler σ ρ) (x : Execution σ ρ) :
    (if p then c else d).follow r rest x = if p then c.follow r rest x else d.follow r rest x := by
  by_cases holds : p
  · rw [if_pos holds, if_pos holds]
  · rw [if_neg holds, if_neg holds]

def noting (f : World ω → World ω) (next : Conduct ω) : Conduct ω :=
  .look fun seen => .change seen.queryType seen.model (f seen.world) next

@[simp] theorem follow_noting (f : World ω → World ω) (next : Conduct ω)
    (rest : Handler (World ω) ρ) (x : Execution (World ω) ρ) :
    (noting f next).follow .blind rest x = next.follow .blind rest (x.mapState f) := rfl

def edit (change : String → String) : Conduct ω :=
  .ask fun
    | .error err => .done (.error err)
    | .ok q => .replace { q with sql := change q.sql } (.run .done)

theorem middleware_edit (change : String → String) :
    (edit change : Conduct ω).middleware = Steps.edit change := by
  refine Middleware.eq_of_handle fun ρ rest x => ?_
  show (edit change).follow .blind rest x = (Steps.edit change).handle rest x
  simp only [edit, follow, Execution.ask_blind, Steps.edit]
  rcases x.buildQuery with ⟨answer, y⟩
  cases answer <;> rfl

end Conduct

/-! ### The middlewares of the library -/

namespace BuiltIn

def conduct : BuiltIn → Conduct ω
  | queryLog l => .ask fun
    | .error err => .done (.error err)
    | .ok q => .look fun seen =>
      .noting (l.write seen.queryType seen.model.table q) (.run .done)
  | slowQuery s => .look fun before => .noting (·.pass 1) <| .run fun outcome =>
    .look fun behind => .noting (·.pass 1) <|
      let elapsed : Duration := ⟨behind.world.clock - before.world.clock⟩
      if elapsed.nanos ≤ s.threshold.nanos then .done outcome
      else .ask fun
        | .error _ => .done outcome
        | .ok q => .look fun seen => .noting (s.report seen.queryType elapsed q) (.done outcome)
  | span => .look fun seen =>
    .noting (fun w => w.emit (.spanOpened (spanFields seen.queryType seen.model.table))) <|
      .ask fun answer =>
        .noting (match answer with
          | .ok q => fun w => w.emit (.spanSql q.sql)
          | .error _ => id) <| .noting World.enterSpan <| .run fun outcome =>
            .noting World.leaveSpan <| match outcome with
              | .ok _ => .done outcome
              | .error err => .noting (fun w => w.reportFailure err) (.done outcome)
  | metrics => .look fun before => .noting (·.pass 1) <| .run fun outcome => .look fun behind =>
    .noting (fun w => { w.pass 1 with
      stats := w.stats.record (behind.queryType, behind.model.table)
        ⟨w.clock - before.world.clock⟩ (!outcome.isOk) }) (.done outcome)
  | noDelete => .look fun seen =>
    if seen.queryType = .delete then .done (.error (deletionRefusal seen.model.table))
    else .run .done
  | safeChanges => .look fun seen =>
    if seen.queryType.isGuarded then
      match seen.hasWhere with
      | some true => .run .done
      | some false => .done (.error (unconditionalRefusal seen.queryType))
      | none => .ask fun
        | .error err => .done (.error err)
        | .ok q => .look fun seen =>
          if textPasses seen.queryType q.sql then .run .done
          else .done (.error (unconditionalRefusal seen.queryType))
    else .run .done
  | pause d => .noting (fun w => w.pass d.nanos) (.run .done)

theorem middleware_conduct (b : BuiltIn) : (b.conduct : Conduct ω).middleware = b.middleware := by
  refine Middleware.eq_of_handle fun ρ rest x => ?_
  show b.conduct.follow .blind rest x = b.middleware.handle rest x
  cases b with
  | queryLog l =>
    simp only [conduct, middleware, QueryLog.middleware, Conduct.follow, Execution.ask_blind]
    rcases x.buildQuery with ⟨answer, y⟩
    cases answer <;> rfl
  | slowQuery s =>
    rcases run : rest (x.mapState (·.pass 1)) with ⟨outcome, y⟩
    have run' : rest { x with state := x.state.pass 1 } = (outcome, y) := run
    simp only [conduct, middleware, SlowQuery.middleware, World.readClock, run', Conduct.follow,
      Conduct.follow_noting, Execution.sight_blind, run]
    simp only [Conduct.follow_ite, Conduct.follow, Execution.ask_blind, Execution.mapState]
    rcases Execution.buildQuery { y with state := y.state.pass 1 } with ⟨answer, z⟩
    cases answer <;> rfl
  | span =>
    simp only [conduct, middleware, spanMiddleware, Conduct.follow, Conduct.follow_noting,
      Execution.sight_blind, Execution.ask_blind, Execution.table]
    rcases (x.mapState fun w =>
      w.emit (.spanOpened (spanFields x.queryType x.model.table))).buildQuery with ⟨answer, y⟩
    cases answer with
    | ok q =>
      simp only
      rcases rest ((y.mapState fun w => w.emit (.spanSql q.sql)).mapState World.enterSpan)
        with ⟨outcome, z⟩
      cases outcome <;> rfl
    | error err =>
      have same : y.mapState id = y := rfl
      simp only [same]
      rcases rest (y.mapState World.enterSpan) with ⟨outcome, z⟩
      cases outcome <;> rfl
  | metrics =>
    rcases run : rest (x.mapState (·.pass 1)) with ⟨outcome, y⟩
    have run' : rest { x with state := x.state.pass 1 } = (outcome, y) := run
    simp only [conduct, middleware, metricsMiddleware, World.readClock, run', Conduct.follow,
      Conduct.follow_noting, Execution.sight_blind, run]
    cases outcome <;> rfl
  | noDelete =>
    simp only [conduct, Conduct.follow, Conduct.follow_ite]
    rfl
  | safeChanges =>
    simp only [middleware, RecordSql.safeChanges, conduct, Conduct.follow, Conduct.follow_ite]
    have seen : (x.sight .blind).hasWhere = x.buildable.hasWhere := rfl
    rw [seen]
    cases x.buildable.hasWhere with
    | some conditional => cases conditional <;> rfl
    | none =>
      simp only [Conduct.follow, Execution.ask_blind]
      rcases x.buildQuery with ⟨answer, y⟩
      cases answer with
      | error err => rfl
      | ok q =>
        simp only [Conduct.follow, Conduct.follow_ite]
        rfl
  | pause d => rfl

end BuiltIn

end RecordSql
