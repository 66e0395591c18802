import FlowTraffic.OrderedMap
import FlowTraffic.Text.ByteCount

/-!
# Worker statistics

A worker reports what it has sent since its start. The collector keeps the latest report of every
worker and the sums over them, so a worker that reports twice is not counted twice.
-/

namespace FlowTraffic

structure Amounts where
  flows : Nat := 0
  cycles : Nat := 0
  bytes : Nat := 0
  packets : Nat := 0
  deriving DecidableEq, Repr

namespace Amounts

instance : Add Amounts where
  add a b := ⟨a.flows + b.flows, a.cycles + b.cycles, a.bytes + b.bytes, a.packets + b.packets⟩

def sum (as : List Amounts) : Amounts := as.foldl (· + ·) {}

def text (a : Amounts) : String :=
  s!"flows sent: {a.flows} cycles: {a.cycles} bytes sent: {Text.byteCount a.bytes} " ++
    s!"packets sent: {a.packets}"

end Amounts

/-- What one worker has sent. -/
structure WorkerReport where
  worker : UInt32
  source : UInt32 := 0
  sent : Amounts := {}
  deriving DecidableEq, Repr

/-- The latest report of every worker and their sum. -/
structure Snapshot where
  workers : OrderedMap UInt32 WorkerReport := .empty
  totals : Amounts := {}
  deriving DecidableEq

namespace Snapshot

/-- The snapshot after a report. -/
def record (s : Snapshot) (r : WorkerReport) : Snapshot :=
  let workers := s.workers.put r.worker r
  ⟨workers, .sum (workers.values.map (·.sent))⟩

def ofReports (rs : List WorkerReport) : Snapshot := rs.foldl record {}

/-- What the collector logs about a report. -/
def reportLine (r : WorkerReport) : String := r.sent.text

def totalsLine (s : Snapshot) : String := "totals, " ++ s.totals.text

end Snapshot

end FlowTraffic
