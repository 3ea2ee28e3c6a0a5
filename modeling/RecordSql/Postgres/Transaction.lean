import RecordSql.Postgres.Client
/-! # Transactions

A body runs between the start of a transaction and its end: a commit if the body succeeds
and a rollback if it fails. -/
set_option autoImplicit false
namespace RecordSql.Postgres

variable {ω α : Type}

def command (server : Server ω) (sql : String) (w : World ω) :
    Except ClientFailure Unit × World ω :=
  let w := w.emit (.backend (.command sql))
  match server.command sql w.backend with
  | (.ok (), s) => (.ok (), { w with backend := s })
  | (.error words, s) => (.error (.refused words), { w with backend := s })

def failedRollback (body : Error) (rollback : ClientFailure) : Error :=
  .other (body.message ++ " (rollback failed: " ++ rollback.message ++ ")")

def transaction (server : Server ω) (body : World ω → Except Error α × World ω) (w : World ω) :
    Except Error α × World ω :=
  match command server "START TRANSACTION" w with
  | (.error failure, w) => (.error (.database (.client failure)), w)
  | (.ok (), w) =>
    match body w with
    | (.ok a, w) =>
      match command server "COMMIT" w with
      | (.ok (), w) => (.ok a, w)
      | (.error failure, w) => (.error (.database (.client failure)), w)
    | (.error err, w) =>
      match command server "ROLLBACK" w with
      | (.ok (), w) => (.error err, w)
      | (.error failure, w) => (.error (failedRollback err failure), w)

end RecordSql.Postgres
