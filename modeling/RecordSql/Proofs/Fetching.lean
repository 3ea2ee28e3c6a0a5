import RecordSql.Proofs.Decoding
import RecordSql.Proofs.Transparency
/-! # Fetching one record and fetching all

A middleware passes an execution on when, whatever the rest of the chain is, the outcome and the
slot are those that the rest leaves. If a whole chain does so, both ways to fetch end with the
decoding of the rows that the executor gives: of the first row, or of all of them in order up to
the first that is refused. -/
set_option autoImplicit false
namespace RecordSql

variable {σ ω ρ : Type} {e : Entity} {m : Model}

/-! ## Decoding a list of rows -/

namespace Materializer

variable {k : Materializer}

theorem decodeRows_cons_ok {row : Row} {record : e.Record} (decoded : k.decodeRow m e row = .ok record)
    (rest : List Row) : k.decodeRows m e (row :: rest) = (k.decodeRows m e rest).map (record :: ·) := by
  simp only [decodeRows, decoded]
  cases k.decodeRows m e rest <;> rfl

theorem decodeRows_cons_error {row : Row} {err : Error} (failed : k.decodeRow m e row = .error err)
    (rest : List Row) : k.decodeRows m e (row :: rest) = .error err := by
  simp only [decodeRows, failed]

section Effect

variable {options : List ModelOption} {row : Row} {record : e.Record}

end Effect

end Materializer

/-! ## Chains that pass an execution through -/

def Execution.Builds (x : Execution σ ρ) : Prop := ∃ q, x.buildQuery.1 = .ok q

/-- The middleware hands the execution `x` on as `y`, for the same caller and model and with a query
that still builds, and gives back what the rest of the chain makes of it. -/
structure Middleware.PassesOn (first : Middleware σ) (x y : Execution σ ρ) : Prop where
  model : y.model = x.model
  slot : y.slot = x.slot
  builds : x.Builds → y.Builds
  outcome : ∀ rest : Handler σ ρ, (first.handle rest x).1 = (rest y).1
  kept : ∀ rest : Handler σ ρ, (first.handle rest x).2.slot = (rest y).2.slot

/-- Every middleware of the chain passes on what reaches it; `y` reaches the innermost step. -/
inductive PassesThrough : List (Middleware σ) → Execution σ ρ → Execution σ ρ → Prop
  | nil (x : Execution σ ρ) : PassesThrough [] x x
  | cons {first : Middleware σ} {rest : List (Middleware σ)} {x y z : Execution σ ρ}
      (step : first.PassesOn x y) (tail : PassesThrough rest y z) : PassesThrough (first :: rest) x z

namespace PassesThrough

variable {chain : List (Middleware σ)} {x y : Execution σ ρ}

theorem model (passes : PassesThrough chain x y) : y.model = x.model := by
  induction passes with
  | nil x => rfl
  | cons step _ ih => exact ih.trans step.model

theorem slot (passes : PassesThrough chain x y) : y.slot = x.slot := by
  induction passes with
  | nil x => rfl
  | cons step _ ih => exact ih.trans step.slot

theorem builds (passes : PassesThrough chain x y) (start : x.Builds) : y.Builds := by
  induction passes with
  | nil x => exact start
  | cons step _ ih => exact ih (step.builds start)

theorem compose (passes : PassesThrough chain x y) (innermost : Handler σ ρ) :
    (RecordSql.compose chain innermost x).1 = (innermost y).1 ∧
      (RecordSql.compose chain innermost x).2.slot = (innermost y).2.slot := by
  induction passes with
  | nil x => exact ⟨rfl, rfl⟩
  | cons step _ ih =>
    rw [compose_cons]
    exact ⟨(step.outcome _).trans ih.1, (step.kept _).trans ih.2⟩

end PassesThrough

/-! ## Built-in middlewares pass on what they do not stop -/

theorem Execution.slot_buildQuery (x : Execution σ ρ) : x.buildQuery.2.slot = x.slot := by
  rw [buildQuery_frame]

theorem Execution.model_buildQuery (x : Execution σ ρ) : x.buildQuery.2.model = x.model := by
  rw [buildQuery_frame]

namespace Execution.Observed

variable {x y : Execution (World ω) ρ}

theorem slot (observed : x.Observed y) : y.slot = x.slot := by
  induction observed with
  | start => rfl
  | asked _ ih => exact (slot_buildQuery _).trans ih
  | noted _ _ ih => exact ih

theorem model (observed : x.Observed y) : y.model = x.model := by
  induction observed with
  | start => rfl
  | asked _ ih => exact (model_buildQuery _).trans ih
  | noted _ _ ih => exact ih

end Execution.Observed

theorem Execution.Is.builds {x : Execution (World ω) ρ} {c : Situation ω ρ e} (about : x.Is c)
    {q : Query} (built : c.result = .ok q) : x.Builds := by
  obtain ⟨y, run, -⟩ := about.buildQuery
  exact ⟨q, by rw [run, built]⟩

namespace BuiltIn

end BuiltIn

/-! ## Fetching -/

namespace Session

variable {s : Session ω} {statement : Statement e} {w : World ω} {after : Registry}

def fetchStart (s : Session ω) (statement : Statement e) (m : Model) (after : Registry)
    (w : World ω) : Execution (World ω) (List e.Record) :=
  .start statement.queryType (.ofStatement s.core.style statement) m (w.adoptRegistry after) []

theorem run_of_passesThrough {x : Execution (World ω) (List e.Record)}
    (derives : w.registry.get e = .ok (m, after))
    (passes : PassesThrough s.core.middlewares (s.fetchStart statement m after w) x)
    (innermost : Handler (World ω) (List e.Record)) :
    (s.run statement [] innermost w).1 =
      (innermost x).1.map fun output => (output, (innermost x).2.slot) := by
  obtain ⟨outcome, slot⟩ := passes.compose innermost
  rw [fetchStart] at outcome slot
  simp only [run, World.modelOf, derives]
  rw [outcome, slot]

/-- The records that a fetch gives are those that the selected rows decode to. -/
theorem records_fetch {x : Execution (World ω) (List e.Record)} {q : Query} {rows : Rows}
    (mode : FetchMode) (derives : w.registry.get e = .ok (m, after))
    (passes : PassesThrough s.core.middlewares (s.fetchStart statement m after w) x)
    (built : x.buildQuery.1 = .ok q)
    (answered : (s.executor.query q x.buildQuery.2.state.backend).result = .ok rows) :
    Request.records (s.run statement [] (s.fetchStep e mode) w).1 =
      match s.core.style.materializer.decodeRows m e (mode.select rows.toList) with
      | .error err => .error err
      | .ok [] => .error .noRows
      | .ok (record :: rest) => .ok (record :: rest) := by
  have model : x.buildQuery.2.model = m := x.model_buildQuery.trans passes.model
  rw [run_of_passesThrough derives passes, fetchStep_eq, Handler.ofQuery]
  rcases run : x.buildQuery with ⟨result, y⟩
  rw [run] at built answered model
  obtain rfl : result = .ok q := built
  change y.model = m at model
  obtain ⟨world, called⟩ : ∃ world, s.executor.runQuery q y.state = (.ok rows, world) :=
    ⟨_, Prod.ext answered rfl⟩
  simp only [fetchQuery, called, model]
  cases s.core.style.materializer.decodeRows m e (mode.select rows.toList) with
  | error err => rfl
  | ok records => cases records <;> rfl

/-- The first row alone decides what `get` gives. -/
theorem get_eq {x : Execution (World ω) (List e.Record)} {q : Query} {rows : Rows}
    (derives : w.registry.get e = .ok (m, after))
    (passes : PassesThrough s.core.middlewares (s.fetchStart statement m after w) x)
    (built : x.buildQuery.1 = .ok q)
    (answered : (s.executor.query q x.buildQuery.2.state.backend).result = .ok rows) :
    (s.get statement w).1 =
      match rows.toList with
      | [] => .error .noRows
      | first :: _ => s.core.style.materializer.decodeRow m e first := by
  have performed : (s.get statement w).1 =
      Request.last (Request.records (s.run statement [] (s.fetchStep e .one) w).1) :=
    congrArg Prod.fst (s.perform_eq statement .get w)
  rw [performed, records_fetch .one derives passes built answered]
  cases rows.toList with
  | nil => rfl
  | cons first rest =>
    rw [show FetchMode.one.select (first :: rest) = [first] from rfl]
    cases decoded : s.core.style.materializer.decodeRow m e first with
    | error err =>
      rw [Materializer.decodeRows_cons_error decoded]
      exact decoded.symm
    | ok record =>
      rw [Materializer.decodeRows_cons_ok decoded]
      exact decoded.symm

end Session

end RecordSql
