import RecordSql.World
/-! # Slow statements

Statements that take longer than a threshold are reported after they ran. Everything inside
this middleware counts. -/
set_option autoImplicit false
namespace RecordSql

structure SlowQuery where
  threshold : Duration
  sink : Option (Query → Duration → Event)

namespace SlowQuery

def report {ω : Type} (s : SlowQuery) (queryType : QueryType) (elapsed : Duration) (q : Query)
    (w : World ω) : World ω :=
  match s.sink with
  | some event => w.emit (event q elapsed)
  | none =>
    w.traceMeasured "gsql.slow" .warn
      [("query_type", queryType.name), ("threshold_ms", toString s.threshold.millis64),
       ("sql", q.sql), ("args", Value.inspectList q.args), ("message", "slow query")]
      [("elapsed_ms", toString elapsed.millis64)]

def middleware {ω : Type} (s : SlowQuery) : Middleware (World ω) where
  handle rest x :=
    let (started, world) := x.state.readClock
    let (outcome, x) := rest { x with state := world }
    let (finished, world) := x.state.readClock
    let x := { x with state := world }
    let elapsed : Duration := ⟨finished - started⟩
    if elapsed.nanos ≤ s.threshold.nanos then (outcome, x)
    else
      match x.buildQuery with
      | (.error _, x) => (outcome, x)
      | (.ok q, x) => (outcome, x.mapState (s.report x.queryType elapsed q))

end SlowQuery

end RecordSql
