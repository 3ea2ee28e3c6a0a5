import RecordSql.World
/-! # Metrics

Every execution is timed and counted under its kind of statement and its table. -/
set_option autoImplicit false
namespace RecordSql

def metricsMiddleware {ω : Type} : Middleware (World ω) where
  handle rest x :=
    let (started, world) := x.state.readClock
    let (outcome, x) := rest { x with state := world }
    let (finished, world) := x.state.readClock
    let failed := match outcome with
      | .ok _ => false
      | .error _ => true
    let stats := world.stats.record (x.queryType, x.table) ⟨finished - started⟩ failed
    (outcome, { x with state := { world with stats } })

end RecordSql
