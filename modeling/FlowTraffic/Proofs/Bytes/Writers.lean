import FlowTraffic.Proofs.Bytes.Sinks

/-!
# Writers that take bytes call by call

A writer that has room for so many bytes in all may take few of them at a call. Writing on until it takes
none leaves in it what a write leaves in a sink of that room, and so does writing in pieces: the first bytes
of them all, as many as there is room for.
-/

namespace FlowTraffic

/-- A place with room for so many bytes in all. Its `n`-th call takes one byte at least while there is room,
and `portion n` more at most. -/
structure Writer where
  room : Nat
  portion : Nat → Nat
  calls : Nat := 0
  taken : Bytes := []

namespace Writer

/-- The sink with the same room and the same bytes in it. -/
def sink (w : Writer) : Sink := { room := some w.room, taken := w.taken }

/-- How much of the bytes the next call takes. -/
def accepts (w : Writer) (b : Bytes) : Nat := min b.length (min w.room (w.portion w.calls + 1))

def call (w : Writer) (b : Bytes) : Writer :=
  { w with
    room := w.room - w.accepts b
    calls := w.calls + 1
    taken := w.taken ++ b.take (w.accepts b) }

/-- Offers bytes until all are taken, or none of those that are left. -/
def write (w : Writer) (b : Bytes) : Except Fault Unit × Writer :=
  if b = [] then (.ok (), w)
  else if w.accepts b = 0 then (.error .shortWrite, w.call b)
  else (w.call b).write (b.drop (w.accepts b))
termination_by b.length
decreasing_by
  rename_i some taken
  have filled := List.length_pos_iff.2 some
  rw [List.length_drop]
  omega

/-- Writes pieces in order, up to the first that fails. -/
def writeAll (w : Writer) : List Bytes → Except Fault Unit × Writer
  | [] => (.ok (), w)
  | b :: bs =>
    match w.write b with
    | (.ok (), w) => w.writeAll bs
    | (.error e, w) => (.error e, w)

theorem accepts_le (w : Writer) (b : Bytes) : w.accepts b ≤ min b.length w.room := by
  unfold accepts
  omega

theorem room_of_accepts_eq_zero {w : Writer} {b : Bytes} (some : b ≠ []) (none : w.accepts b = 0) :
    w.room = 0 := by
  have filled := List.length_pos_iff.2 some
  unfold accepts at none
  omega

theorem sink_write_take (w : Writer) (b : Bytes) :
    w.sink.write (b.take (w.accepts b)) = (.ok (), (w.call b).sink) := by
  have few := w.accepts_le b
  have length : (b.take (w.accepts b)).length = w.accepts b := List.length_take_of_le (by omega)
  unfold sink
  rw [Sink.write_limited, length, if_pos (by omega), List.take_of_length_le (by omega)]
  rfl

theorem sink_write (w : Writer) (b : Bytes) :
    w.sink.write b = ((w.write b).1, (w.write b).2.sink) := by
  -- On the calls of the write: each takes the front of what is left.
  fun_induction write w b with
  | case1 w => exact w.sink.write_nil
  | case2 w b some none =>
    have full := room_of_accepts_eq_zero some none
    have filled := List.length_pos_iff.2 some
    have same : (w.call b).sink = w.sink := by
      have after := w.sink_write_take b
      rw [none, List.take_zero, Sink.write_nil] at after
      exact (congrArg Prod.snd after).symm
    show w.sink.write b = (.error .shortWrite, (w.call b).sink)
    rw [same]
    unfold sink
    rw [Sink.write_limited, full, if_neg (by omega), List.take_zero, List.append_nil, Nat.zero_sub]
  | case3 w b some taken ih =>
    rw [← ih]
    conv => lhs; rw [← List.take_append_drop (w.accepts b) b]
    rw [Sink.write_append, sink_write_take]

theorem sink_writeAll (w : Writer) (bs : List Bytes) :
    w.sink.writeAll bs = ((w.writeAll bs).1, (w.writeAll bs).2.sink) := by
  induction bs generalizing w with
  | nil => rfl
  | cons b bs ih =>
    unfold writeAll Sink.writeAll
    rw [sink_write]
    cases w.write b with
    | mk result w' =>
      cases result with
      | ok => exact ih w'
      | error e => rfl

/-- **A writer that gives out has a clean prefix.** Whatever the pieces and wherever it gives out, the
writes succeed if and only if there is room for all of the bytes, and what it has taken are the first of
them. -/
theorem writeAll_eq (w : Writer) (bs : List Bytes) :
    (w.writeAll bs).1 =
        (if bs.flatten.length ≤ w.room then .ok () else .error .shortWrite) ∧
      (w.writeAll bs).2.sink =
        { room := some (w.room - bs.flatten.length), taken := w.taken ++ bs.flatten.take w.room } := by
  have written := w.sink_writeAll bs
  rw [Sink.writeAll_eq_write] at written
  unfold sink at written
  rw [Sink.write_limited] at written
  exact ⟨(congrArg Prod.fst written).symm, (congrArg Prod.snd written).symm⟩

end Writer

end FlowTraffic
