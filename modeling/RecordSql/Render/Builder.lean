import RecordSql.Dialect
/-! # Builders

A builder collects the text and the arguments of one statement, step by step. Each step
appends what its rendering writes, also when the rendering fails. -/
set_option autoImplicit false
namespace RecordSql

structure Builder where
  model : Model
  dialect : Dialect
  registry : Registry
  sql : String
  args : List Value

namespace Builder

def empty (model : Model) (dialect : Dialect) (registry : Registry) : Builder :=
  ⟨model, dialect, registry, "", []⟩

def step {α : Type} (b : Builder) (x : Render α) : Except Error α × Builder :=
  let draft := x b.model b.registry
  (draft.result,
    { b with
      registry := draft.registry
      sql := b.sql ++ sqlOf b.dialect.quote draft.pieces
      args := b.args ++ argsOf draft.pieces })

/-- The finished statement, which ends with a semicolon. -/
def finish (b : Builder) : Query := ⟨b.sql ++ ";", b.args⟩

end Builder

end RecordSql
