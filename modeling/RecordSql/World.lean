import RecordSql.Log
import RecordSql.Middleware.Chain
import RecordSql.Stats
/-! # The world of a session

What executions read and change: the registry of models, the log, the clock, the recorded
statistics and the databases behind the session. -/
set_option autoImplicit false
namespace RecordSql

structure World (ω : Type) where
  registry : Registry
  log : List Event
  /-- The number of open spans. -/
  depth : Nat
  /-- The nanoseconds that have passed. -/
  clock : Nat
  stats : Stats
  backend : ω

namespace World

variable {ω : Type}

def initial (backend : ω) : World ω := ⟨.empty, [], 0, 0, .empty, backend⟩

def emit (w : World ω) (event : Event) : World ω := { w with log := w.log ++ [event] }

def traceMeasured (w : World ω) (target : String) (level : Level) (fields measured : LogFields) :
    World ω :=
  w.emit (.trace ⟨target, level, fields, measured, w.depth⟩)

def trace (w : World ω) (target : String) (level : Level) (fields : LogFields) : World ω :=
  w.traceMeasured target level fields []

def pass (w : World ω) (nanos : Nat) : World ω := { w with clock := w.clock + nanos }

/-- The time and the world after the clock was read. Reading it takes a nanosecond. -/
def readClock (w : World ω) : Nat × World ω := (w.clock, w.pass 1)

def reportRegistration (w : World ω) (entry : Registration) : World ω :=
  w.trace "gsql.registry" .debug
    [("entity", entry.typeName), ("table", entry.model.table),
     ("fields", toString entry.model.fields.length), ("message", "registered model")]

/-- The world with a registry that grew out of its own; the new registrations are logged. -/
def adoptRegistry (w : World ω) (registry : Registry) : World ω :=
  (registry.since w.registry).foldl reportRegistration { w with registry }

def modelOf (w : World ω) (e : Entity) : Except Error Model × World ω :=
  match w.registry.get e with
  | .ok (model, registry) => (.ok model, w.adoptRegistry registry)
  | .error err => (.error err, w)

def register (w : World ω) (e : Entity) (options : List ModelOption) :
    Except Error Model × World ω :=
  match w.registry.register e options with
  | .ok (model, registry) => (.ok model, w.adoptRegistry registry)
  | .error err => (.error err, w)

def build {e : Entity} (w : World ω) (style : Style) (s : Statement e) :
    Except Error Query × World ω :=
  let built := s.build style w.registry
  (built.result, w.adoptRegistry built.registry)

end World

def Buildable.ofStatement {ω : Type} {e : Entity} (style : Style) (s : Statement e) :
    Buildable (World ω) :=
  ⟨fun w => w.build style s, s.hasWhere⟩

end RecordSql
