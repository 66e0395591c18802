import FlowTraffic.Proofs.Receiver.Intake
import FlowTraffic.Proofs.Receiver.Persisting
import FlowTraffic.Proofs.Runs
import FlowTraffic.Receiver.Record

/-!
# What a recording comes to

However listener, validator and persister take turns, a recording that is over has the counts and the
store that it would have if each of them began when the one before it was over (`result_eq_sequential`).
The reason is that a persister given all packets under way would become what a persister becomes that is
given all packets read so far (`Sound`). No move changes that, whether the queues are empty or full.
-/

namespace FlowTraffic.Receiver

namespace Record

variable {σ : Type} [Store σ]

def Move.datagram? : Move → Option Bytes
  | .intake m => m.datagram?
  | _ => none

/-- What recording datagrams comes to if they are all read before the first is validated, and the packets
among them all validated before the first is put into the store. -/
def sequential (store : σ) (datagrams : List Bytes) : Except Error (Recording σ) :=
  match persist store (packetsAmong datagrams) with
  | (.ok (), p) => .ok { store := p.store, counts := .ofAll datagrams, persisted := p.persisted }
  | (.error why, _) => .error (.store why)

namespace Run

/-- The datagrams that are read over a row of moves. -/
def reads (r : Run σ) (moves : List Move) : List Bytes := observe step (fun _ m => m.datagram?) r moves

inductive Change (r : Run σ) : Move → Run σ → Prop
  | intake {m : IntakeMove} {i : Intake} (changed : r.intake.Change m i) :
      Change r (.intake m) { r with intake := i }
  | puts {payload : Bytes} {items : List Bytes} (metrics : Metrics)
      (spare : r.persister.isExhausted = false) (waits : r.flushed = none)
      (first : r.intake.outbox.items = payload :: items) :
      Change r .persist
        { r with
          intake := { r.intake with outbox := { r.intake.outbox with items }, metrics }
          persister := r.persister.put payload }
  | flushes (waits : r.flushed = none)
      (spent : r.persister.isExhausted = true ∨ r.intake.isDrained = true) :
      Change r .flush
        { r with
          intake := { r.intake with outbox := r.intake.outbox.close }
          persister := r.persister.finish.2
          flushed := some r.persister.finish.1 }

theorem change_of_step {r r' : Run σ} {m : Move} (h : r.step m = some r') : Change r m r' := by
  cases m with
  | intake m =>
    obtain ⟨i, hi, h⟩ := Option.bind_eq_some_iff.1 h
    cases h
    exact .intake (Intake.change_of_step hi)
  | persist =>
    simp only [step] at h
    split at h
    · cases h
    · rename_i ready
      obtain ⟨⟨payload, outbox⟩, popped, h⟩ := Option.bind_eq_some_iff.1 h
      obtain ⟨items, first, rfl⟩ := Queue.pop?_eq_some_iff.1 popped
      simp only [Bool.or_eq_true, not_or, Bool.not_eq_true, Option.isSome_eq_false_iff,
        Option.isNone_iff_eq_none] at ready
      cases h
      exact .puts _ ready.1 ready.2 first
  | flush =>
    simp only [step] at h
    split at h
    · rename_i ready
      simp only [Bool.and_eq_true, Bool.or_eq_true, Option.isNone_iff_eq_none] at ready
      cases h
      exact .flushes ready.1 ready.2
    · cases h

/-- The persister as it was before the flush, if there was one. -/
inductive Persists (r : Run σ) : Persister σ → Prop
  | running (waits : r.flushed = none) (isOpen : r.intake.outbox.isOpen = true) : Persists r r.persister
  | ended {p : Persister σ} {result : Except StoreError Unit} (flushed : r.flushed = some result)
      (finished : p.finish = (result, r.persister))
      (spent : p.isExhausted = true ∨ r.intake.isDrained = true) : Persists r p

/-- What holds of a recording that has read some datagrams. -/
structure Sound (store : σ) (datagrams : List Bytes) (r : Run σ) : Prop where
  orderly : r.intake.Orderly
  counted : r.intake.ahead.foldl Counts.add r.intake.validator.counts =
    datagrams.foldl Counts.add {}
  persisted : ∃ p, r.Persists p ∧
    p.putAll r.intake.pending = ({ store } : Persister σ).putAll (packetsAmong datagrams)

omit [Store σ] in
theorem eq_of_prepare {shutdown : Shutdown.Watcher} {store : σ} {r : Run σ}
    (ready : prepare shutdown store = .ok r) : r = { persister := { store } } := by
  unfold prepare at ready
  obtain ⟨_, -, ready⟩ := exists_of_bind ready
  exact (Except.ok.inj ready).symm

theorem Sound.start (store : σ) : Sound store [] { persister := { store } } :=
  ⟨⟨fun _ => rfl, nofun, nofun, nofun⟩, rfl, _, .running rfl rfl, rfl⟩

theorem Sound.persisted_intake {store : σ} {datagrams : List Bytes} {r : Run σ} {m : IntakeMove}
    {i : Intake} (h : Sound store datagrams r) (hc : r.intake.Change m i) :
    ∃ p, Persists { r with intake := i } p ∧ p.putAll i.pending =
      ({ store } : Persister σ).putAll (packetsAmong (datagrams ++ m.datagram?.toList)) := by
  obtain ⟨p, hp, hputs⟩ := h.persisted
  rw [packetsAmong_append, Persister.putAll_append, ← hputs]
  cases hp with
  | running waits isOpen =>
    refine ⟨_, .running waits (hc.outbox_isOpen.trans isOpen), ?_⟩
    rw [hc.pending h.orderly isOpen, Persister.putAll_append]
  | ended flushed finished spent =>
    rcases spent with spent | spent
    · refine ⟨p, .ended flushed finished (.inl spent), ?_⟩
      simp only [Persister.putAll_of_isExhausted spent]
    · obtain ⟨hread, hdrained⟩ := hc.isDrained h.orderly spent
      refine ⟨p, .ended flushed finished (.inr hdrained), ?_⟩
      rw [(hc.orderly h.orderly).pending_of_isDrained hdrained, h.orderly.pending_of_isDrained spent, hread]
      rfl

theorem Sound.step {store : σ} {datagrams : List Bytes} {r r' : Run σ} {m : Move}
    (h : Sound store datagrams r) (hc : Change r m r') :
    Sound store (datagrams ++ m.datagram?.toList) r' := by
  cases hc with
  | intake hc =>
    refine ⟨hc.orderly h.orderly, ?_, h.persisted_intake hc⟩
    rw [hc.counted h.orderly, List.foldl_append, h.counted, ← List.foldl_append]
    rfl
  | puts metrics spare waits first =>
    obtain ⟨p, hp, hputs⟩ := h.persisted
    simp only [Move.datagram?, Option.toList_none, List.append_nil]
    refine ⟨⟨h.orderly.1, h.orderly.2, h.orderly.3, h.orderly.4⟩, h.counted, ?_⟩
    cases hp with
    | running waits isOpen =>
      refine ⟨_, .running waits isOpen, ?_⟩
      rw [← hputs]
      simp [Intake.pending, Intake.ahead, first, Persister.putAll]
    | ended flushed => simp [flushed] at waits
  | flushes waits spent =>
    obtain ⟨p, hp, hputs⟩ := h.persisted
    simp only [Move.datagram?, Option.toList_none, List.append_nil]
    refine ⟨⟨h.orderly.1, h.orderly.2, h.orderly.3, fun _ => rfl⟩, h.counted, p, ?_, hputs⟩
    cases hp with
    | running => exact .ended rfl rfl spent
    | ended flushed => simp [flushed] at waits

theorem Sound.steps {store : σ} {r : Run σ} (h : Sound store [] r) (moves : List Move) :
    Sound store (r.reads moves) (r.steps moves) :=
  observe_induction (P := Sound store) (fun _ _ _ _ h hs => h.step (change_of_step hs)) h moves

theorem Sound.of_isFinished {store : σ} {datagrams : List Bytes} {r : Run σ}
    (h : Sound store datagrams r) (finished : r.isFinished = true) :
    ∃ result, r.flushed = some result ∧ r.intake.validator.counts = .ofAll datagrams ∧
      persist store (packetsAmong datagrams) = (result, r.persister) := by
  obtain ⟨hflushed, done⟩ := Bool.and_eq_true_iff.1 finished
  obtain ⟨p, hp, hputs⟩ := h.persisted
  have hcounts : r.intake.validator.counts = .ofAll datagrams := by
    rw [← foldl_add_eq_ofAll, ← h.counted, h.orderly.ahead_eq_nil done]
    rfl
  cases hp with
  | running waits => simp [waits] at hflushed
  | @ended _ result flushed ended spent =>
    have hall : p = ({ store } : Persister σ).putAll (packetsAmong datagrams) := by
      rcases spent with spent | spent
      · rw [← hputs, Persister.putAll_of_isExhausted spent]
      · rw [← hputs, h.orderly.pending_of_isDrained spent]
        rfl
    exact ⟨result, flushed, hcounts, by rw [persist, ← hall, ended]⟩

/-- **A recording is worth its stages one after the other.** Over every row of moves, whatever is in the
queues when the signal comes and whenever it comes, a recording that is over has read some datagrams, and
comes to what recording these in sequence comes to: the packets among them are put into the store in the
order in which they were read, and every datagram is counted as a packet or as none. -/
theorem result_eq_sequential {shutdown : Shutdown.Watcher} {store : σ} {r : Run σ}
    (ready : prepare shutdown store = .ok r) (moves : List Move)
    (finished : (r.steps moves).isFinished = true) :
    (r.steps moves).result = sequential store (r.reads moves) := by
  obtain rfl := eq_of_prepare ready
  obtain ⟨result, hflushed, hcounts, hpersist⟩ := ((Sound.start store).steps moves).of_isFinished finished
  simp only [Run.result, sequential, hflushed, hpersist, hcounts]
  cases result <;> rfl

/-- Two packets and a datagram that is none. The signal comes while the listener holds the last of them
and both queues hold one. -/
def signalledMoves : List Move :=
  [.intake (.read [0, 9, 1]), .intake .hand, .intake (.read [0, 5]), .intake .hand,
    .intake (.validate 0), .intake .pass, .intake (.read [0, 9]), .intake .signal, .intake .hand,
    .intake .stop, .intake (.tick 10000), .intake (.validate 10001), .intake (.validate 10002),
    .persist, .intake .pass, .intake .finish, .persist, .flush]

theorem result_eq_sequential_signalled :
    prepare {} (.empty : Table) = .ok { persister := { store := .empty } } ∧
      (steps { persister := { store := (.empty : Table) } } signalledMoves).isFinished = true ∧
      (steps { persister := { store := (.empty : Table) } } signalledMoves).result =
        sequential .empty [[0, 9, 1], [0, 5], [0, 9]] := by
  have ready : prepare {} (.empty : Table) = .ok { persister := { store := .empty } } := rfl
  have finished :
      (steps { persister := { store := (.empty : Table) } } signalledMoves).isFinished = true := by
    decide +kernel
  exact ⟨ready, finished, (result_eq_sequential ready signalledMoves finished).trans rfl⟩

end Run

end Record

end FlowTraffic.Receiver
