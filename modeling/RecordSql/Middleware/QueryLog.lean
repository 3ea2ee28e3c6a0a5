import RecordSql.Text.Truncate
import RecordSql.World
/-! # The query log

Every statement is logged before it runs, as a trace record with shortened text or through a
log of its own with the full text. A statement that does not build goes no further. -/
set_option autoImplicit false
namespace RecordSql

/-- A query log: the level of its records, the number of bytes of text that they show, and
what replaces them. -/
structure QueryLog where
  level : Level
  textLimit : Option Nat
  sink : Option (Query → Event)

namespace QueryLog

def standard : QueryLog := ⟨.debug, some 200, none⟩

def shownSql (l : QueryLog) (sql : String) : String := Text.shorten l.textLimit sql

def write {ω : Type} (l : QueryLog) (queryType : QueryType) (table : String) (q : Query)
    (w : World ω) : World ω :=
  match l.sink with
  | some event => w.emit (event q)
  | none =>
    w.trace "gsql.sql" l.level
      [("query_type", queryType.name), ("table", table), ("sql", l.shownSql q.sql),
       ("args", Value.inspectList q.args)]

def middleware {ω : Type} (l : QueryLog) : Middleware (World ω) where
  handle rest x :=
    match x.buildQuery with
    | (.error e, x) => (.error e, x)
    | (.ok q, x) => rest (x.mapState (l.write x.queryType x.table q))

end QueryLog

end RecordSql
