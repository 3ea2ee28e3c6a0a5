import RecordSql.Outcome
import RecordSql.Statement.Render
/-! # Chains of middlewares

The execution of a statement runs through middlewares around an innermost handler. Each
middleware is given the rest of the chain and decides whether, when and how often to run
it. The execution carries the query, which is built when it is first asked for; a
middleware may replace it. -/
set_option autoImplicit false
namespace RecordSql

/-- Something that builds into a query. Building reads and changes a state; whether there
are conditions may be known without it. -/
structure Buildable (σ : Type) where
  build : σ → Except Error Query × σ
  hasWhere : Option Bool

/-- A query builds to itself and knows nothing of its conditions. -/
def Buildable.ofQuery {σ : Type} (q : Query) : Buildable σ := ⟨fun s => (.ok q, s), none⟩

/-- One execution on its way through the chain. The state is what all executions share; the
slot belongs to the caller and is out of the reach of middlewares. -/
structure Execution (σ ρ : Type) where
  queryType : QueryType
  buildable : Buildable σ
  model : Model
  query : Option Query
  state : σ
  slot : ρ

namespace Execution

variable {σ ρ : Type}

def start (queryType : QueryType) (buildable : Buildable σ) (model : Model) (state : σ) (slot : ρ) :
    Execution σ ρ :=
  ⟨queryType, buildable, model, none, state, slot⟩

/-- The query: the one at hand, else the one that is built now and kept. A failure is not
kept. -/
def buildQuery (x : Execution σ ρ) : Except Error Query × Execution σ ρ :=
  match x.query with
  | some q => (.ok q, x)
  | none =>
    match x.buildable.build x.state with
    | (.ok q, state) => (.ok q, { x with query := some q, state })
    | (.error e, state) => (.error e, { x with state })

def setQuery (x : Execution σ ρ) (q : Query) : Execution σ ρ := { x with query := some q }

def mapState (x : Execution σ ρ) (f : σ → σ) : Execution σ ρ := { x with state := f x.state }

def table (x : Execution σ ρ) : String := x.model.table

theorem buildQuery_setQuery (x : Execution σ ρ) (q : Query) :
    (x.setQuery q).buildQuery = (.ok q, x.setQuery q) := rfl

theorem buildQuery_of_some {x : Execution σ ρ} {q : Query} (found : x.query = some q) :
    x.buildQuery = (.ok q, x) := by
  rw [buildQuery, found]

theorem buildQuery_of_none {x : Execution σ ρ} {answer : Except Error Query} {after : σ}
    (found : x.query = none) (run : x.buildable.build x.state = (answer, after)) :
    x.buildQuery = (answer, { x with query := answer.toOption, state := after }) := by
  rw [buildQuery, found, run]
  cases answer with
  | ok q => rfl
  | error err => simp only [Except.toOption, ← found]

theorem query_of_buildQuery {x y : Execution σ ρ} {q : Query} (built : x.buildQuery = (.ok q, y)) :
    y.query = some q := by
  cases found : x.query with
  | some p =>
    rw [buildQuery_of_some found] at built
    cases built
    exact found
  | none =>
    rw [buildQuery_of_none found rfl] at built
    obtain ⟨success, rfl⟩ := Prod.mk.inj built
    rw [success]
    rfl

/-- Building the query changes nothing but the query and the state. -/
theorem buildQuery_frame (x : Execution σ ρ) : x.buildQuery.2 =
    { x with query := x.buildQuery.2.query, state := x.buildQuery.2.state } := by
  cases found : x.query with
  | some q => rw [buildQuery_of_some found]
  | none => rw [buildQuery_of_none found rfl]

end Execution

abbrev Handler (σ ρ : Type) : Type := Execution σ ρ → Outcome × Execution σ ρ

/-- A middleware turns the rest of the chain into a step around it, whatever the caller keeps
in the slot. -/
structure Middleware (σ : Type) : Type 1 where
  handle : {ρ : Type} → Handler σ ρ → Handler σ ρ

/-- The chain of middlewares around the innermost handler. The first one is outermost. -/
def compose {σ ρ : Type} (middlewares : List (Middleware σ)) (innermost : Handler σ ρ) :
    Handler σ ρ :=
  middlewares.foldr (fun middleware rest => middleware.handle rest) innermost

@[simp] theorem compose_nil {σ ρ : Type} (innermost : Handler σ ρ) :
    compose ([] : List (Middleware σ)) innermost = innermost := rfl

@[simp] theorem compose_cons {σ ρ : Type} (first : Middleware σ) (rest : List (Middleware σ))
    (innermost : Handler σ ρ) :
    compose (first :: rest) innermost = first.handle (compose rest innermost) := rfl

theorem compose_append {σ ρ : Type} (outer inner : List (Middleware σ))
    (innermost : Handler σ ρ) :
    compose (outer ++ inner) innermost = compose outer (compose inner innermost) := by
  simp [compose]

end RecordSql
