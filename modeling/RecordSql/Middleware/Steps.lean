import RecordSql.Text.Replace
import RecordSql.World
/-! # Small middlewares

Steps to put a chain together from: they report their passing, look at the query, replace
it, answer in place of the rest of the chain, or run it several times. -/
set_option autoImplicit false
namespace RecordSql.Steps

variable {ω : Type}

def tap (name : String) : Middleware (World ω) where
  handle rest x :=
    let (outcome, x) := rest (x.mapState fun w => w.emit (.entered name))
    (outcome, x.mapState fun w => w.emit (.left name outcome))

def peek : Middleware (World ω) where
  handle rest x :=
    match x.buildQuery with
    | (.error e, x) => (.error e, x)
    | (.ok q, x) =>
      rest (x.mapState fun w => w.emit (.peeked q x.queryType x.table x.buildable.hasWhere))

def refuse {σ : Type} (reason : String) : Middleware σ where
  handle _ x := (.error (.aborted reason), x)

def answer {σ : Type} (output : QueryOutput) : Middleware σ where
  handle _ x := (.ok output, x)

def replace {σ : Type} (q : Query) : Middleware σ where
  handle rest x := rest (x.setQuery q)

def edit {σ : Type} (change : String → String) : Middleware σ where
  handle rest x :=
    match x.buildQuery with
    | (.error e, x) => (.error e, x)
    | (.ok q, x) => rest (x.setQuery { q with sql := change q.sql })

def runAgain {σ ρ : Type} (step : Handler σ ρ) : Nat → Handler σ ρ
  | 0, x => step x
  | n + 1, x => runAgain step n (step x).2

/-- Runs the rest of the chain `n + 1` times. -/
def again {σ : Type} (n : Nat) : Middleware σ where
  handle rest := runAgain rest n

def retype {σ : Type} (queryType : QueryType) : Middleware σ where
  handle rest x := rest { x with queryType }

def pause (d : Duration) : Middleware (World ω) where
  handle rest x := rest (x.mapState fun w => w.pass d.nanos)

end RecordSql.Steps
