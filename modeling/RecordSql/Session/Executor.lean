import RecordSql.Row
import RecordSql.World
/-! # Executors

The boundary to a database: fetching rows and running commands. An executor of any kind is
two functions on the state of the databases. -/
set_option autoImplicit false
namespace RecordSql

/-- What a call of an executor leaves: its result, what it reports to the log, the
nanoseconds it took and the state of the databases. -/
structure Reply (ω α : Type) where
  result : Except Error α
  notices : List Notice
  elapsed : Nat
  backend : ω

structure Executor (ω : Type) where
  query : Query → ω → Reply ω Rows
  execute : Query → ω → Reply ω ExecResult

namespace World

variable {ω α : Type}

def receive (w : World ω) (reply : Reply ω α) : Except Error α × World ω :=
  let reported := reply.notices.foldl (fun w notice => w.emit (.backend notice)) w
  (reply.result, { reported.pass reply.elapsed with backend := reply.backend })

end World

namespace Executor

variable {ω : Type}

def runQuery (x : Executor ω) (q : Query) (w : World ω) : Except Error Rows × World ω :=
  w.receive (x.query q w.backend)

def runCommand (x : Executor ω) (q : Query) (w : World ω) : Except Error ExecResult × World ω :=
  w.receive (x.execute q w.backend)

end Executor

end RecordSql
