import RecordSql.Postgres.Placeholder
import RecordSql.Postgres.Wire
import RecordSql.Session.Executor
/-! # PostgreSQL executors

Statements are prepared with numbered placeholders, their arguments are sent in the types
that the server asks for, and the cells of the answer are read by the types of their
columns. -/
set_option autoImplicit false
namespace RecordSql.Postgres

structure Prepared where
  parameters : List ColumnType
  columns : List (String × ColumnType)

structure Answer where
  rows : List (List (Option (List UInt8)))
  tag : String
  failure : Option String

/-- A server. Errors are given in its own words. -/
structure Server (ω : Type) where
  prepare : String → ω → Except String Prepared × ω
  run : List (Option (List UInt8)) → ω → Answer × ω
  command : String → ω → Except String Unit × ω

def sendAll (position : Nat) :
    List (Value × ColumnType) → Except ClientFailure (List (Option (List UInt8)))
  | [] => .ok []
  | (v, t) :: rest =>
    match send v t with
    | .error cause => .error (.parameter position cause)
    | .ok bytes =>
      match sendAll (position + 1) rest with
      | .error failure => .error failure
      | .ok more => .ok (bytes :: more)

def sendArguments (p : Prepared) (args : List Value) :
    Except ClientFailure (List (Option (List UInt8))) :=
  if p.parameters.length = args.length then sendAll 0 (args.zip p.parameters)
  else .error (.parameterCount p.parameters.length args.length)

def unreadable (position : Nat) (column : String) : Error :=
  .decode column ("error deserializing column " ++ toString position)

def readCells (position : Nat) :
    List ((String × ColumnType) × Option (List UInt8)) → Except Error (List Value)
  | [] => .ok []
  | ((column, t), cell) :: rest =>
    match read t cell with
    | none => .error (unreadable position column)
    | some v =>
      match readCells (position + 1) rest with
      | .error err => .error err
      | .ok more => .ok (v :: more)

def readRows (columns : List (String × ColumnType)) :
    List (List (Option (List UInt8))) → Except Error (List (List Value))
  | [] => .ok []
  | cells :: rest =>
    match readCells 0 (columns.zip cells) with
    | .error err => .error err
    | .ok values =>
      match readRows columns rest with
      | .error err => .error err
      | .ok more => .ok (values :: more)

def clientError (failure : ClientFailure) : Error := .database (.client failure)

def Answer.completed (a : Answer) : Except Error Answer :=
  match a.failure with
  | some words => .error (clientError (.refused words))
  | none => .ok a

/-- The result set of an answer. The cells are counted as the rows come in, and read when all
are there. Without rows there are no columns either. -/
def resultSet (p : Prepared) (a : Answer) : Except Error Rows :=
  if a.rows.any fun cells => cells.length != p.columns.length then .error (clientError .unevenRow)
  else match a.completed with
    | .error e => .error e
    | .ok a =>
      match a.rows with
      | [] => .ok .empty
      | rows => (readRows p.columns rows).map (Rows.mk (p.columns.map Prod.fst))

/-- A natural number below `2 ^ 64` in decimal digits, which a plus sign may precede. -/
def parseCount? (written : List Char) : Option UInt64 :=
  let digits := match written with
    | '+' :: rest => rest
    | _ => written
  if digits.isEmpty || !digits.all Char.isDigit then none
  else
    let n := digits.foldl (fun n c => n * 10 + (c.toNat - 48)) 0
    if n < UInt64.size then some (.ofNat n) else none

/-- The number of affected rows that a tag names in its last word; zero if it is none. -/
def affectedRows (tag : String) : UInt64 :=
  let word := (tag.toList.reverse.takeWhile (· != ' ')).reverse
  (parseCount? word).getD 0

/-- The result of a command. Rows of the answer do not count. -/
def commandResult (a : Answer) : Except Error ExecResult :=
  a.completed.map fun a => ⟨affectedRows a.tag, none⟩

/-- A statement in progress: its result, what was reported and the state of the server. -/
structure Exchange (ω α : Type) where
  result : Except ClientFailure α
  notices : List Notice
  backend : ω

/-- Whether the text can be sent, with the character behind it that ends it. -/
def isSendable (sql : String) : Bool := sql.toList.all fun c => c.toNat != 0

def submit {ω : Type} (server : Server ω) (q : Query) (s : ω) : Exchange ω (Prepared × Answer) :=
  let sql := numberPlaceholders q.sql
  if isSendable sql then
    match server.prepare sql s with
    | (.error words, s) => ⟨.error (.refused words), [.parsed sql], s⟩
    | (.ok prepared, s) =>
      match sendArguments prepared q.args with
      | .error failure => ⟨.error failure, [.parsed sql], s⟩
      | .ok bytes =>
        let (answer, s) := server.run bytes s
        ⟨.ok (prepared, answer), [.parsed sql, .parameters bytes], s⟩
  else ⟨.error .terminatorInText, [], s⟩

namespace Exchange

variable {ω α β : Type}

def toReply (x : Exchange ω α) (f : α → Except Error β) : Reply ω β :=
  { result := match x.result with
      | .error failure => .error (clientError failure)
      | .ok a => f a
    notices := x.notices
    elapsed := 0
    backend := x.backend }

end Exchange

def executor {ω : Type} (server : Server ω) : Executor ω where
  query q s := (submit server q s).toReply fun (prepared, answer) => resultSet prepared answer
  execute q s := (submit server q s).toReply fun (_, answer) => commandResult answer

end RecordSql.Postgres
