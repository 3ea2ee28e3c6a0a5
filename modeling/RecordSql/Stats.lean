import RecordSql.Statement.Basic
import RecordSql.Time.Duration
/-! # Statistics of executed statements

Counts and durations over all statements, and a breakdown by kind of statement and table.
The two overall durations stop at `2 ^ 64 - 1` nanoseconds, those of the breakdown at the
greatest duration. -/
set_option autoImplicit false
namespace RecordSql

structure TableStats where
  count : UInt64
  failed : UInt64
  total : Duration
  longest : Duration
  deriving DecidableEq

namespace TableStats

def empty : TableStats := ⟨0, 0, .zero, .zero⟩

def add (s : TableStats) (elapsed : Duration) (failed : Bool) : TableStats :=
  { count := s.count + 1
    failed := if failed then s.failed + 1 else s.failed
    total := s.total.add elapsed
    longest := s.longest.max elapsed }

end TableStats

abbrev StatsKey : Type := QueryType × String

/-- All statistics. The overall durations are counts of nanoseconds in 64 bits. -/
structure Stats where
  count : UInt64
  failed : UInt64
  totalNanos : UInt64
  longestNanos : UInt64
  byTable : List (StatsKey × TableStats)
  deriving DecidableEq

namespace Stats

def empty : Stats := ⟨0, 0, 0, 0, []⟩

def total (s : Stats) : Duration := ⟨s.totalNanos.toNat⟩

def longest (s : Stats) : Duration := ⟨s.longestNanos.toNat⟩

def nanosLimit : UInt64 := .ofNat (UInt64.size - 1)

def nanosOf (d : Duration) : UInt64 :=
  if d.nanos < UInt64.size then .ofNat d.nanos else nanosLimit

/-- The total with more nanoseconds. The sum wraps around, and one that does is replaced by the
greatest count. -/
def addNanos (total nanos : UInt64) : UInt64 :=
  let wrapped := total + nanos
  if total.toNat + nanos.toNat < UInt64.size then wrapped else nanosLimit

def addTo (key : StatsKey) (elapsed : Duration) (failed : Bool) :
    List (StatsKey × TableStats) → List (StatsKey × TableStats)
  | [] => [(key, TableStats.empty.add elapsed failed)]
  | (k, s) :: rest =>
    if k = key then (k, s.add elapsed failed) :: rest
    else (k, s) :: addTo key elapsed failed rest

def record (s : Stats) (key : StatsKey) (elapsed : Duration) (failed : Bool) : Stats :=
  let nanos := nanosOf elapsed
  { count := s.count + 1
    failed := if failed then s.failed + 1 else s.failed
    totalNanos := addNanos s.totalNanos nanos
    longestNanos := max s.longestNanos nanos
    byTable := addTo key elapsed failed s.byTable }

def find? (s : Stats) (key : StatsKey) : Option TableStats :=
  (s.byTable.find? fun entry => entry.1 == key).map Prod.snd

/-- Keys are ordered by the name of the kind, then by the table. -/
def keyLe (a b : StatsKey) : Bool :=
  decide (a.1.name < b.1.name) || (a.1.name == b.1.name && decide (a.2 ≤ b.2))

def breakdown (s : Stats) : List (StatsKey × TableStats) :=
  s.byTable.mergeSort fun a b => keyLe a.1 b.1

structure Snapshot where
  count : UInt64
  failed : UInt64
  total : Duration
  longest : Duration
  /-- The breakdown in the order of its keys. -/
  byTable : List (StatsKey × TableStats)
  deriving DecidableEq

def snapshot (s : Stats) : Snapshot := ⟨s.count, s.failed, s.total, s.longest, s.breakdown⟩

end Stats

end RecordSql
