import RecordSql.Proofs.Situations
/-! # Middlewares that run the rest of the chain any number of times

A course is all that a middleware can do with an execution: it runs the rest of the chain, sees
what that gives, and runs it again or ends. A bystander is a middleware by its courses that
leaves what a view shows of the state to the steps inside it. Then a whole chain of bystanders
changes the view as the visits of its innermost step do, one after the other. -/
set_option autoImplicit false
namespace RecordSql

variable {σ ρ τ ω : Type}

theorem Middleware.eq_of_handle {m n : Middleware σ}
    (same : ∀ (ρ : Type) (rest : Handler σ ρ) (x : Execution σ ρ),
      m.handle rest x = n.handle rest x) : m = n := by
  obtain ⟨f⟩ := m
  obtain ⟨g⟩ := n
  simp only [Middleware.mk.injEq]
  funext ρ rest x
  exact same ρ rest x

/-! ## Courses -/

inductive Course (σ ρ : Type)
  | done (outcome : Outcome) (x : Execution σ ρ)
  | run (x : Execution σ ρ) (next : Outcome × Execution σ ρ → Course σ ρ)

namespace Course

def follow (rest : Handler σ ρ) : Course σ ρ → Outcome × Execution σ ρ
  | done outcome x => (outcome, x)
  | run x next => (next (rest x)).follow rest

def runs (rest : Handler σ ρ) : Course σ ρ → List (Execution σ ρ)
  | done _ _ => []
  | run x next => x :: (next (rest x)).runs rest

def again : Nat → Execution σ ρ → Course σ ρ
  | 0, x => .run x fun (outcome, y) => .done outcome y
  | n + 1, x => .run x fun (_, y) => again n y

theorem follow_again (rest : Handler σ ρ) (n : Nat) (x : Execution σ ρ) :
    (again n x).follow rest = Steps.runAgain rest n x := by
  induction n generalizing x with
  | zero => rfl
  | succ n ih => exact ih (rest x).2

end Course

def Move.course : Move σ ρ → Course σ ρ
  | .answer outcome x => .done outcome x
  | .call x leave => .run x fun result => .done (leave result).1 (leave result).2

theorem Layer.follow_course (l : Layer σ) (rest : Handler σ ρ) (x : Execution σ ρ) :
    (l.move x).course.follow rest = l.middleware.handle rest x := by
  cases move : l.move x with
  | answer outcome y =>
    rw [l.handle_of_answer move]
    rfl
  | call y leave =>
    rw [l.handle_of_call move]
    rfl

/-! ## What a view shows -/

/-- However often it is built, the view shows the same. -/
def Buildable.Leaves (view : σ → τ) (b : Buildable σ) : Prop :=
  ∀ s, view (b.build s).2 = view s

/-- The view shows this, and still does when the query is built. -/
structure Execution.Shows (view : σ → τ) (t : τ) (x : Execution σ ρ) : Prop where
  state : view x.state = t
  buildable : x.buildable.Leaves view

/-- Between the runs of the rest of the chain the course leaves the view as it is, whatever
those runs do to it. -/
inductive Course.Keeps (view : σ → τ) : τ → Course σ ρ → Prop
  | done {t : τ} {x : Execution σ ρ} (outcome : Outcome) :
      x.Shows view t → Keeps view t (.done outcome x)
  | run {t : τ} {x : Execution σ ρ} {next : Outcome × Execution σ ρ → Course σ ρ} :
      x.Shows view t →
      (∀ (outcome : Outcome) (t : τ) (y : Execution σ ρ), y.Shows view t →
        Keeps view t (next (outcome, y))) →
      Keeps view t (.run x next)

def Handler.Changes (view : σ → τ) (change : τ → Execution σ ρ → τ) (h : Handler σ ρ) : Prop :=
  ∀ (t : τ) (x : Execution σ ρ), x.Shows view t → (h x).2.Shows view (change t x)

/-- A course changes the view as the runs of the rest of the chain do together, each as the
visits in it. -/
theorem Course.Keeps.follow {view : σ → τ} {change : τ → Execution σ ρ → τ} {rest : Handler σ ρ}
    {visits : Execution σ ρ → List (Execution σ ρ)}
    (inner : rest.Changes view fun t x => (visits x).foldl change t) {t : τ} {c : Course σ ρ}
    (keeps : c.Keeps view t) :
    (c.follow rest).2.Shows view (((c.runs rest).flatMap visits).foldl change t) := by
  induction keeps with
  | done outcome shows' => exact shows'
  | run shows' _ ih =>
    rw [Course.runs, List.flatMap_cons, List.foldl_append]
    exact ih _ _ _ (inner _ _ shows')

/-! ## Bystanders -/

/-- A middleware by its courses. It may run the rest of the chain as often as it likes and
replace the query, and it leaves the view alone. -/
structure Bystander (view : σ → τ) : Type 1 where
  course : {ρ : Type} → Execution σ ρ → Course σ ρ
  keeps : ∀ {ρ : Type} {t : τ} {x : Execution σ ρ}, x.Shows view t → (course x).Keeps view t

namespace Bystander

variable {view : σ → τ}

def middleware (b : Bystander view) : Middleware σ where
  handle rest x := (b.course x).follow rest

/-- The executions with which the innermost step of a chain is reached. -/
def visits (innermost : Handler σ ρ) : List (Bystander view) → Execution σ ρ →
    List (Execution σ ρ)
  | [], x => [x]
  | b :: rest, x =>
    ((b.course x).runs (compose (rest.map middleware) innermost)).flatMap (visits innermost rest)

/-- A chain of bystanders changes the view as the visits of its innermost step do in order, and
not at all if there is none. -/
theorem changes_compose {innermost : Handler σ ρ} {change : τ → Execution σ ρ → τ}
    (step : innermost.Changes view change) (chain : List (Bystander view)) :
    (compose (chain.map middleware) innermost).Changes view fun t x =>
      (visits innermost chain x).foldl change t := by
  induction chain with
  | nil => exact step
  | cons b rest ih =>
    -- Each run of the rest makes the visits of its own chain, and the course adds none.
    intro t x shows'
    exact (b.keeps shows').follow ih

def again (n : Nat) : Bystander view where
  course := Course.again n
  keeps {ρ t x} shows' := by
    induction n generalizing t x with
    | zero => exact .run shows' fun outcome _ _ after => .done outcome after
    | succ n ih => exact .run shows' fun _ _ _ after => ih after

theorem middleware_again (n : Nat) :
    (again n : Bystander view).middleware = Steps.again n := by
  simp only [middleware, again, Steps.again, Course.follow_again]

end Bystander

/-! ## The middlewares of the library are bystanders of the databases -/

namespace Execution

variable {view : σ → τ} {t : τ}

theorem Shows.buildQuery {x : Execution σ ρ} (shows' : x.Shows view t) :
    x.buildQuery.2.Shows view t := by
  cases found : x.query with
  | some q =>
    rw [buildQuery_of_some found]
    exact shows'
  | none =>
    have built := shows'.buildable x.state
    rcases run : x.buildable.build x.state with ⟨result, after⟩
    rw [run] at built
    rw [buildQuery_of_none found run]
    exact ⟨built.trans shows'.state, shows'.buildable⟩

theorem Observed.shows {view : ω → τ} {x y : Execution (World ω) ρ} (observed : x.Observed y)
    (shows' : x.Shows (fun w => view w.backend) t) : y.Shows (fun w => view w.backend) t := by
  induction observed with
  | start => exact shows'
  | asked _ ih => exact ih.buildQuery
  | noted note _ ih => exact ⟨(congrArg view (note _).2).trans ih.state, ih.buildable⟩

end Execution

theorem Buildable.leaves_ofStatement {e : Entity} (view : ω → τ) (style : Style)
    (statement : Statement e) :
    (Buildable.ofStatement style statement).Leaves fun w : World ω => view w.backend := by
  intro w
  exact congrArg view (w.adoptRegistry_eq _).2

def BuiltIn.bystander (view : ω → τ) (b : BuiltIn) :
    Bystander fun w : World ω => view w.backend where
  course x := (b.layer.move x).course
  keeps {ρ t x} shows' := by
    have observes := b.observes_layer x
    cases move : b.layer.move x with
    | answer outcome y =>
      rw [move] at observes
      exact .done outcome (observes.shows shows')
    | call y leave =>
      rw [move] at observes
      obtain ⟨before, after⟩ := observes
      exact .run (before.shows shows') fun outcome _ z inner =>
        .done _ ((after outcome z).shows inner)

theorem BuiltIn.middleware_bystander (view : ω → τ) (b : BuiltIn) :
    (b.bystander view).middleware = b.middleware :=
  Middleware.eq_of_handle fun _ rest x =>
    (b.layer.follow_course rest x).trans (b.handle_layer rest x)

end RecordSql
