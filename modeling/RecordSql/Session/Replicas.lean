import RecordSql.Session.Executor
/-! # Replicas

Fetches go to the replicas in turn and commands to the primary. Without replicas everything
goes to the primary. -/
set_option autoImplicit false
namespace RecordSql

/-- Databases of which some take turns; the turn counts the fetches so far. -/
structure Rotation (ω : Type) where
  turn : UInt64
  backend : ω

def Reply.atTurn {ω α : Type} (reply : Reply ω α) (turn : UInt64) : Reply (Rotation ω) α :=
  { reply with backend := ⟨turn, reply.backend⟩ }

def readerAt? {ω : Type} (replicas : List (Executor ω)) (turn : UInt64) : Option (Executor ω) :=
  replicas[turn.toNat % replicas.length]?

def replicated {ω : Type} (primary : Executor ω) (replicas : List (Executor ω)) :
    Executor (Rotation ω) where
  query q s :=
    match readerAt? replicas s.turn with
    | some reader => (reader.query q s.backend).atTurn (s.turn + 1)
    | none => (primary.query q s.backend).atTurn s.turn
  execute q s := (primary.execute q s.backend).atTurn s.turn

end RecordSql
