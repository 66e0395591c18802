import FlowTraffic.Receiver.Intake
import Mathlib.Data.List.Basic

/-!
# What is under way in the intake

A datagram that was read is held by the listener, or waits for the validator, or has been counted. A packet
is then held by the validator or waits to be taken out. Every move of listener and validator keeps what is
under way in its order, and only reading adds to it (`Change.counted`, `Change.pending`).
-/

namespace FlowTraffic.Receiver

/-! ## Packets and others -/

/-- The datagrams that start with the version number nine, in their order. -/
def packetsAmong (datagrams : List Bytes) : List Bytes :=
  datagrams.filter ([0, 9] : Bytes).isPrefixOf

/-- How many datagrams start with the version number nine and how many do not. -/
def Counts.ofAll (datagrams : List Bytes) : Counts where
  valid := datagrams.countP ([0, 9] : Bytes).isPrefixOf
  invalid := datagrams.countP fun d => !([0, 9] : Bytes).isPrefixOf d

@[simp] theorem packetsAmong_nil : packetsAmong [] = [] := rfl

@[simp] theorem packetsAmong_append (ds ds' : List Bytes) :
    packetsAmong (ds ++ ds') = packetsAmong ds ++ packetsAmong ds' := List.filter_append ..

theorem join16_eq_version_iff (high low : UInt8) :
    Bytes.join16 high low = Netflow.version ↔ high = 0 ∧ low = 9 := by
  have hjoin : Bytes.join16 high low = UInt16.ofNat (256 * high.toNat + low.toNat) := by
    show UInt16.ofNat (Bytes.toNat [high, low]) = _
    simp [Bytes.toNat]
  have hhigh := high.toNat_lt
  have hlow := low.toNat_lt
  rw [hjoin, ← UInt16.toNat_inj, ← UInt8.toNat_inj, ← UInt8.toNat_inj, UInt16.toNat_ofNat']
  show _ = 9 ↔ high.toNat = 0 ∧ low.toNat = 9
  omega

theorem isPacket_eq (d : Bytes) : Netflow.isPacket d = ([0, 9] : Bytes).isPrefixOf d := by
  match d with
  | [] => rfl
  | [high] => exact (Bool.and_false _).symm
  | high :: low :: rest =>
    show (Bytes.join16 high low == Netflow.version) = (0 == high && (9 == low && true))
    rw [Bool.eq_iff_iff, beq_iff_eq, join16_eq_version_iff]
    simp only [Bool.and_true, Bool.and_eq_true, beq_iff_eq]
    exact and_congr eq_comm eq_comm

theorem packetsAmong_cons (d : Bytes) (ds : List Bytes) :
    packetsAmong (d :: ds) = (if Netflow.isPacket d then [d] else []) ++ packetsAmong ds := by
  rw [isPacket_eq]
  simp only [packetsAmong, List.filter_cons]
  split <;> rfl

theorem foldl_add_eq_ofAll (ds : List Bytes) : ds.foldl Counts.add {} = Counts.ofAll ds := by
  suffices h : ∀ c : Counts, ds.foldl Counts.add c =
      ⟨c.valid + (Counts.ofAll ds).valid, c.invalid + (Counts.ofAll ds).invalid⟩ by simpa using h {}
  induction ds with
  | nil => intro c; rfl
  | cons d ds ih =>
    intro c
    rw [List.foldl_cons, ih, Counts.add, isPacket_eq]
    cases h : ([0, 9] : Bytes).isPrefixOf d <;> simp [Counts.ofAll, h] <;> omega

theorem Validator.isIdle_iff {v : Validator} :
    v.isIdle = true ↔ v.holding = none ∧ v.isDone = false := by
  simp [Validator.isIdle]

/-! ## Moves -/

def IntakeMove.datagram? : IntakeMove → Option Bytes
  | .read d => some d
  | _ => none

namespace Intake

/-- The datagrams that the validator has yet to see. -/
def ahead (i : Intake) : List Bytes := i.inbox.items ++ i.held.toList

/-- The packets that have yet to be taken out. -/
def pending (i : Intake) : List Bytes :=
  i.outbox.items ++ i.validator.holding.toList ++ packetsAmong i.ahead

/-- What listener and validator say of themselves fits together. -/
structure Orderly (i : Intake) : Prop where
  inbox_isOpen : i.isListening = true → i.inbox.isOpen = true
  isListening : i.held.isSome = true → i.isListening = true
  done : i.validator.isDone = true →
    i.isListening = false ∧ i.inbox.items = [] ∧ i.validator.holding = none
  abandoned : i.validator.isAbandoned = true → i.outbox.isOpen = false

inductive Change (i : Intake) : IntakeMove → Intake → Prop
  | signals : Change i .signal { i with signalled := true }
  | reads {d : Bytes} (metrics : Metrics) (listening : i.isListening = true) (free : i.held = none) :
      Change i (.read d) { i with held := some d, received := i.received ++ [d], metrics }
  | hands {d : Bytes} (held : i.held = some d) :
      Change i .hand
        { i with inbox := { i.inbox with items := i.inbox.items ++ [d] }, held := none }
  | loses {d : Bytes} (held : i.held = some d) (closed : i.inbox.isOpen = false) :
      Change i .hand { i with isListening := false, held := none }
  | stops (free : i.held = none) : Change i .stop { i with isListening := false }
  | takes {now : Nat} {d : Bytes} {items : List Bytes} (metrics : Metrics)
      (idle : i.validator.isIdle = true) (first : i.inbox.items = d :: items) :
      Change i (.validate now)
        { i with
          inbox := { i.inbox with items }, validator := i.validator.receive now d, metrics }
  | passes {p : Bytes} (holding : i.validator.holding = some p) :
      Change i .pass
        { i with
          outbox := { i.outbox with items := i.outbox.items ++ [p] }
          validator := i.validator.passed }
  | abandons {p : Bytes} (holding : i.validator.holding = some p) (closed : i.outbox.isOpen = false) :
      Change i .pass { i with validator := i.validator.abandoned }
  | ticks (now : Nat) : Change i (.tick now) { i with validator := i.validator.tick now }
  | finishes (idle : i.validator.isIdle = true) (stopped : i.isListening = false)
      (empty : i.inbox.items = []) :
      Change i .finish { i with validator := i.validator.finish, inbox := i.inbox.close }

theorem change_of_step {i i' : Intake} {m : IntakeMove} (h : i.step m = some i') : Change i m i' := by
  cases m with
  | signal =>
    cases h
    exact .signals
  | read d =>
    simp only [step] at h
    split at h
    · rename_i ready
      obtain ⟨listening, free⟩ := Bool.and_eq_true_iff.1 ready
      cases h
      exact .reads _ listening (Option.isNone_iff_eq_none.1 free)
    · cases h
  | hand =>
    simp only [step] at h
    obtain ⟨d, held, h⟩ := Option.bind_eq_some_iff.1 h
    split at h
    · obtain ⟨inbox, pushed, h⟩ := Option.bind_eq_some_iff.1 h
      obtain ⟨-, -, rfl⟩ := Queue.push?_eq_some_iff.1 pushed
      cases h
      exact .hands held
    · rename_i closed
      cases h
      exact .loses held (by simpa using closed)
  | stop =>
    simp only [step] at h
    split at h
    · rename_i ready
      cases h
      exact .stops (by simp_all)
    · cases h
  | validate now =>
    simp only [step] at h
    split at h
    · cases h
    · rename_i idle
      obtain ⟨⟨d, inbox⟩, popped, h⟩ := Option.bind_eq_some_iff.1 h
      obtain ⟨items, first, rfl⟩ := Queue.pop?_eq_some_iff.1 popped
      cases h
      exact .takes _ (by simpa using idle) first
  | pass =>
    simp only [step] at h
    obtain ⟨p, holding, h⟩ := Option.bind_eq_some_iff.1 h
    split at h
    · obtain ⟨outbox, pushed, h⟩ := Option.bind_eq_some_iff.1 h
      obtain ⟨-, -, rfl⟩ := Queue.push?_eq_some_iff.1 pushed
      cases h
      exact .passes holding
    · rename_i closed
      cases h
      exact .abandons holding (by simpa using closed)
  | tick now =>
    simp only [step] at h
    split at h
    · cases h
      exact .ticks now
    · cases h
  | finish =>
    simp only [step] at h
    split at h
    · rename_i ready
      simp only [Bool.and_eq_true, Bool.not_eq_true', Queue.isEmpty, List.isEmpty_iff] at ready
      cases h
      exact .finishes ready.1.1 ready.1.2 ready.2
    · cases h

section

variable {i i' : Intake} {m : IntakeMove}

theorem Change.orderly (hc : Change i m i') (h : i.Orderly) : i'.Orderly := by
  cases hc with
  | signals | ticks now => exact ⟨h.inbox_isOpen, h.isListening, h.done, h.abandoned⟩
  | reads metrics listening free =>
    refine ⟨h.inbox_isOpen, fun _ => listening, fun done => ?_, h.abandoned⟩
    simp [(h.done done).1] at listening
  | hands held =>
    have listening := h.isListening (by simp [held])
    refine ⟨h.inbox_isOpen, nofun, fun done => ?_, h.abandoned⟩
    simp [(h.done done).1] at listening
  | loses held closed => exact ⟨nofun, nofun, fun done => ⟨rfl, (h.done done).2⟩, h.abandoned⟩
  | stops free =>
    exact ⟨nofun, fun held => by simp [free] at held, fun done => ⟨rfl, (h.done done).2⟩, h.abandoned⟩
  | takes metrics idle first =>
    refine ⟨h.inbox_isOpen, h.isListening, fun done => ?_, h.abandoned⟩
    simp [(h.done done).2.1] at first
  | passes holding =>
    refine ⟨h.inbox_isOpen, h.isListening, fun done => ?_, h.abandoned⟩
    simp [(h.done done).2.2] at holding
  | abandons holding closed =>
    refine ⟨h.inbox_isOpen, h.isListening, fun done => ?_, fun _ => closed⟩
    simp [(h.done done).2.2] at holding
  | finishes idle stopped empty =>
    refine ⟨fun listening => ?_, h.isListening, fun _ => ⟨stopped, empty, ?_⟩, h.abandoned⟩
    · simp [stopped] at listening
    · exact (Validator.isIdle_iff.1 idle).1

theorem Change.counted (hc : Change i m i') (h : i.Orderly) :
    i'.ahead.foldl Counts.add i'.validator.counts =
      (i.ahead ++ m.datagram?.toList).foldl Counts.add i.validator.counts := by
  cases hc with
  | reads metrics listening free => simp [ahead, free, IntakeMove.datagram?]
  | hands held => simp [ahead, held, IntakeMove.datagram?]
  | loses held closed =>
    have isOpen := h.inbox_isOpen (h.isListening (by simp [held]))
    simp [closed] at isOpen
  | takes metrics idle first => simp [ahead, first, Validator.receive, IntakeMove.datagram?]
  | _ => simp [ahead, IntakeMove.datagram?, Validator.passed, Validator.abandoned, Validator.tick,
      Validator.finish, Queue.close]

/-- As long as packets are taken out, one that is read comes last of those under way, and no other
move adds one, loses one or overtakes one. -/
theorem Change.pending (hc : Change i m i') (h : i.Orderly) (isOpen : i.outbox.isOpen = true) :
    i'.pending = i.pending ++ packetsAmong m.datagram?.toList := by
  cases hc with
  | reads metrics listening free => simp [Intake.pending, ahead, free, IntakeMove.datagram?]
  | hands held => simp [Intake.pending, ahead, held, IntakeMove.datagram?]
  | loses held closed =>
    have isOpen := h.inbox_isOpen (h.isListening (by simp [held]))
    simp [closed] at isOpen
  | takes metrics idle first =>
    have wanted : i.validator.isAbandoned = false :=
      Bool.eq_false_iff.2 fun abandoned => by simp [h.abandoned abandoned] at isOpen
    have free := (Validator.isIdle_iff.1 idle).1
    simp only [Intake.pending, ahead, first, free, Validator.receive, wanted, IntakeMove.datagram?,
      List.cons_append, packetsAmong_cons]
    split <;> simp_all
  | passes holding =>
    simp [Intake.pending, ahead, holding, Validator.passed, IntakeMove.datagram?]
  | abandons holding closed => simp [closed] at isOpen
  | _ => simp [Intake.pending, ahead, IntakeMove.datagram?, Validator.tick, Validator.finish, Queue.close]

theorem Orderly.ahead_eq_nil (h : i.Orderly) (done : i.validator.isDone = true) : i.ahead = [] := by
  obtain ⟨stopped, empty, -⟩ := h.done done
  have free : i.held = none := by
    cases held : i.held with
    | none => rfl
    | some d => simpa [stopped] using h.isListening (by simp [held])
  simp [ahead, empty, free]

theorem Orderly.pending_of_isDrained (h : i.Orderly) (drained : i.isDrained = true) :
    i.pending = [] := by
  obtain ⟨done, empty⟩ := Bool.and_eq_true_iff.1 drained
  rw [Intake.pending, h.ahead_eq_nil done, (h.done done).2.2, List.isEmpty_iff.1 empty]
  rfl

theorem Change.isDrained (hc : Change i m i') (h : i.Orderly) (drained : i.isDrained = true) :
    m.datagram? = none ∧ i'.isDrained = true := by
  obtain ⟨stopped, empty, free⟩ := h.done (Bool.and_eq_true_iff.1 drained).1
  cases hc with
  | signals | hands | loses | stops | ticks => exact ⟨rfl, drained⟩
  | reads metrics listening => simp [stopped] at listening
  | takes metrics idle first => simp [empty] at first
  | passes holding => simp [free] at holding
  | abandons holding => simp [free] at holding
  | finishes => exact ⟨rfl, Bool.and_eq_true_iff.2 ⟨rfl, (Bool.and_eq_true_iff.1 drained).2⟩⟩

theorem Change.outbox_isOpen (hc : Change i m i') : i'.outbox.isOpen = i.outbox.isOpen := by
  cases hc <;> rfl

end

end Intake

end FlowTraffic.Receiver
