import RecordSql.World
/-! # Spans

The rest of the chain runs inside a span that carries the kind of statement, the table and,
if it builds, the text. A failure is recorded inside the span. -/
set_option autoImplicit false
namespace RecordSql

namespace World

variable {ω : Type}

def enterSpan (w : World ω) : World ω := { w with depth := w.depth + 1 }

def leaveSpan (w : World ω) : World ω := { w with depth := w.depth - 1 }

def reportFailure (w : World ω) (e : Error) : World ω :=
  (w.enterSpan.trace "gsql" .error [("error", e.message), ("message", "query failed")]).leaveSpan

end World

def spanFields (queryType : QueryType) (table : String) : LogFields :=
  [("component", "gsql"), ("query_type", queryType.name), ("table", table)]

def spanMiddleware {ω : Type} : Middleware (World ω) where
  handle rest x :=
    let x := x.mapState fun w => w.emit (.spanOpened (spanFields x.queryType x.table))
    let x := match x.buildQuery with
      | (.ok q, x) => x.mapState fun w => w.emit (.spanSql q.sql)
      | (.error _, x) => x
    let (outcome, x) := rest (x.mapState World.enterSpan)
    let x := x.mapState World.leaveSpan
    match outcome with
    | .ok output => (.ok output, x)
    | .error e => (.error e, x.mapState fun w => w.reportFailure e)

end RecordSql
