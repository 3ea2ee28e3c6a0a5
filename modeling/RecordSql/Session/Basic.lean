import RecordSql.Session.Executor
/-! # Sessions

A session writes statements in a style, runs them through its middlewares and sends them to
an executor. Fetched rows are decoded in the innermost step of the chain; the records reach
the caller past the middlewares. -/
set_option autoImplicit false
namespace RecordSql

structure Core (ω : Type) : Type 1 where
  style : Style
  middlewares : List (Middleware (World ω))

def Style.standard : Style := ⟨.mysql, .accessor⟩

structure Session (ω : Type) : Type 1 where
  core : Core ω
  executor : Executor ω

inductive FetchMode
  | one | all
  deriving DecidableEq

def FetchMode.select : FetchMode → List Row → List Row
  | one, rows => rows.take 1
  | all, rows => rows

namespace Session

variable {ω : Type} {e : Entity}

/-- The innermost step of a fetch: builds the query, asks the executor and decodes the rows
into the slot. -/
def fetchStep (s : Session ω) (e : Entity) (mode : FetchMode) :
    Handler (World ω) (List e.Record) := fun x =>
  match x.buildQuery with
  | (.error err, x) => (.error err, x)
  | (.ok q, x) =>
    let (answer, world) := s.executor.runQuery q x.state
    let x := { x with state := world }
    match answer with
    | .error err => (.error err, x)
    | .ok rows =>
      match s.core.style.materializer.decodeRows x.model e (mode.select rows.toList) with
      | .error err => (.error err, x)
      | .ok records => (.ok (.rows records.length), { x with slot := records })

def commandStep (s : Session ω) : Handler (World ω) Unit := fun x =>
  match x.buildQuery with
  | (.error err, x) => (.error err, x)
  | (.ok q, x) =>
    let (answer, world) := s.executor.runCommand q x.state
    (answer.map .affected, { x with state := world })

def run {ρ : Type} (s : Session ω) (statement : Statement e) (slot : ρ)
    (innermost : Handler (World ω) ρ) (w : World ω) : Except Error (QueryOutput × ρ) × World ω :=
  match w.modelOf e with
  | (.error err, w) => (.error err, w)
  | (.ok model, w) =>
    let start : Execution (World ω) ρ :=
      .start statement.queryType (.ofStatement s.core.style statement) model w slot
    let (outcome, x) := compose s.core.middlewares innermost start
    (outcome.map fun output => (output, x.slot), x.state)

/-- The fetched records; fetching none is an error. -/
def fetch (s : Session ω) (mode : FetchMode) (statement : Statement e) (w : World ω) :
    Except Error (List e.Record) × World ω :=
  match s.run statement ([] : List e.Record) (s.fetchStep e mode) w with
  | (.error err, w) => (.error err, w)
  | (.ok (_, []), w) => (.error .noRows, w)
  | (.ok (_, record :: rest), w) => (.ok (record :: rest), w)

def getMulti (s : Session ω) (statement : Statement e) (w : World ω) :
    Except Error (List e.Record) × World ω :=
  s.fetch .all statement w

def get (s : Session ω) (statement : Statement e) (w : World ω) :
    Except Error e.Record × World ω :=
  match s.fetch .one statement w with
  | (.error err, w) => (.error err, w)
  | (.ok records, w) =>
    match records.getLast? with
    | some record => (.ok record, w)
    | none => (.error .noRows, w)

def exec (s : Session ω) (statement : Statement e) (w : World ω) :
    Except Error ExecResult × World ω :=
  match s.run statement () s.commandStep w with
  | (.error err, w) => (.error err, w)
  | (.ok (output, _), w) => (.ok output.toExecResult, w)

def withExecutor (s : Session ω) (executor : Executor ω) : Session ω := { s with executor }

end Session

end RecordSql
