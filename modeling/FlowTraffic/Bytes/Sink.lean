import FlowTraffic.Bytes
import FlowTraffic.Host.Fault

/-!
# Sinks

A sink is where bytes are written to. It takes what it has room for; once it is asked for more, the
write fails, and what fitted stays taken.
-/

namespace FlowTraffic

/-- A place that takes bytes, without bound if `room` is `none`. -/
structure Sink where
  room : Option Nat := none
  taken : Bytes := []
  deriving DecidableEq, Repr

namespace Sink

/-- Writes all the bytes, or as many as there is room for. -/
def write (s : Sink) (b : Bytes) : Except Fault Unit × Sink :=
  match s.room with
  | none => (.ok (), { s with taken := s.taken ++ b })
  | some room =>
    let part := b.take room
    let s := { room := some (room - part.length), taken := s.taken ++ part }
    if part.length = b.length then (.ok (), s) else (.error .shortWrite, s)

/-- Writes pieces in order, up to the first that fails. -/
def writeAll (s : Sink) : List Bytes → Except Fault Unit × Sink
  | [] => (.ok (), s)
  | b :: bs =>
    match s.write b with
    | (.ok (), s) => s.writeAll bs
    | (.error e, s) => (.error e, s)

end Sink

end FlowTraffic
