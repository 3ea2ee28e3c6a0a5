import RecordSql.Document
import RecordSql.Middleware.Guard
import RecordSql.Middleware.QueryLog
import RecordSql.Middleware.SlowQuery
import RecordSql.Session.Basic
/-! # Configuration

The declarative set-up of a session: its style and the middlewares to install. It is read
from a document, by keys or by position; what is missing keeps its default. -/
set_option autoImplicit false
namespace RecordSql

structure Config where
  style : Style
  queryLog : Bool
  slowThresholdMillis : Option UInt64
  forbidDelete : Bool
  safeChanges : Bool
  deriving DecidableEq

namespace Config

def standard : Config := ⟨.standard, false, none, false, false⟩

def dialectOf? (name : String) : Option Dialect :=
  if name = "mysql" || name = "my_sql" then some .mysql
  else if name = "sqlite" then some .sqlite
  else if name = "postgres" || name = "postgresql" || name = "pg" then some .postgres
  else none

def materializerOf? (name : String) : Option Materializer :=
  if name = "reflect" then some .reflect
  else if name = "accessor" then some .accessor
  else none

/-- A choice is written as its name, or as a record whose only key is the name and whose
entry is null. -/
def choice? {α : Type} (ofName? : String → Option α) : Document → Option α
  | .text name => ofName? name
  | .record [(name, .null)] => ofName? name
  | _ => none

def flag? : Document → Option Bool
  | .bool b => some b
  | _ => none

/-- A number of milliseconds of at most 64 bits; null is no number. -/
def millis? : Document → Option (Option UInt64)
  | .null => some none
  | .natural n => if n < UInt64.size then some (some (.ofNat n)) else none
  | _ => none

def withDialect (c : Config) (dialect : Dialect) : Config :=
  { c with style := { c.style with dialect } }

def withMaterializer (c : Config) (materializer : Materializer) : Config :=
  { c with style := { c.style with materializer } }

def withQueryLog (c : Config) (enabled : Bool) : Config := { c with queryLog := enabled }

/-- The threshold in whole milliseconds, at most what 64 bits can say. -/
def withSlowThreshold (c : Config) (threshold : Duration) : Config :=
  { c with slowThresholdMillis := some (.ofNat (min threshold.millis (UInt64.size - 1))) }

def withForbidDelete (c : Config) (enabled : Bool) : Config := { c with forbidDelete := enabled }

def withSafeChanges (c : Config) (enabled : Bool) : Config := { c with safeChanges := enabled }

/-- The keys in the order of their positions, and how each changes the configuration. -/
def readers : List (String × (Config → Document → Option Config)) :=
  [("dialect", fun c d => (choice? dialectOf? d).map c.withDialect),
   ("valuer", fun c d => (choice? materializerOf? d).map c.withMaterializer),
   ("query_log", fun c d => (flag? d).map c.withQueryLog),
   ("slow_query_threshold_ms", fun c d =>
     (millis? d).map fun threshold => { c with slowThresholdMillis := threshold }),
   ("forbid_delete", fun c d => (flag? d).map c.withForbidDelete),
   ("safe_dml", fun c d => (flag? d).map c.withSafeChanges)]

/-- Reads the entries by key. Other keys are ignored. -/
def readEntries (entries : List (String × Document)) (c : Config) :
    List (String × (Config → Document → Option Config)) → Option Config
  | [] => some c
  | (key, read) :: rest =>
    match Document.entry? entries key with
    | none => readEntries entries c rest
    | some d =>
      match read c d with
      | none => none
      | some c => readEntries entries c rest

/-- Reads the items by position. Too many are refused. -/
def readItems (c : Config) :
    List (String × (Config → Document → Option Config)) → List Document → Option Config
  | _, [] => some c
  | [], _ :: _ => none
  | (_, read) :: rest, d :: items =>
    match read c d with
    | none => none
    | some c => readItems c rest items

def ofDocument? : Document → Option Config
  | .record entries => readEntries entries standard readers
  | .list items => readItems standard readers items
  | _ => none

def middlewares {ω : Type} (c : Config) : List (Middleware (World ω)) :=
  (if c.queryLog then [QueryLog.standard.middleware] else [])
    ++ (match c.slowThresholdMillis with
      | some millis => [(SlowQuery.mk (.ofMillis millis.toNat) none).middleware]
      | none => [])
    ++ (if c.forbidDelete then [noDelete] else [])
    ++ (if c.safeChanges then [RecordSql.safeChanges] else [])

def core {ω : Type} (c : Config) : Core ω := ⟨c.style, c.middlewares⟩

end Config

def Materializer.shownName : Materializer → String
  | reflect => "Reflect"
  | accessor => "Accessor"

def World.reportConfigured {ω : Type} (w : World ω) (core : Core ω) : World ω :=
  w.trace "gsql.session" .debug
    [("dialect", core.style.dialect.name), ("valuer", core.style.materializer.shownName),
     ("middlewares", toString core.middlewares.length), ("message", "session configured")]

end RecordSql
