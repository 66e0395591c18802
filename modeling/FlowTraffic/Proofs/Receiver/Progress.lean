import FlowTraffic.Proofs.Receiver.Recording

/-!
# A recording comes to its end

The stages of a recording do not wait for each other for ever: where one of them has its hands full, or the
listener has stopped and the recording is not over, there is a move that brings the others on
(`Live.exists_step`), and each of these moves leaves less to do (`effort_lt`). So any datagrams at all can be
recorded (`exists_recording`), and a recording can be brought to its end at any time (`Live.exists_finish`).
-/

namespace FlowTraffic.Receiver

/-- A move that brings on what was read. -/
def IntakeMove.isOnward : IntakeMove → Bool
  | .hand | .validate _ | .pass | .finish => true
  | _ => false

namespace Intake

/-- The moves that what is under way has before it, that of putting it away among them. -/
def effort (i : Intake) : Nat :=
  4 * i.held.toList.length + 3 * i.inbox.items.length + 2 * i.validator.holding.toList.length +
    i.outbox.items.length + (!i.validator.isDone).toNat

variable {i i' : Intake} {m : IntakeMove}

theorem Change.effort_lt (hc : Change i m i') (onward : m.isOnward = true) : i'.effort < i.effort := by
  cases hc with
  | signals | reads | stops | ticks => cases onward
  | hands held =>
    simp only [effort, held, Option.toList_some, Option.toList_none, List.length_append,
      List.length_singleton, List.length_nil]
    omega
  | loses held closed => simp [effort, held]
  | takes metrics idle first =>
    have free := (Validator.isIdle_iff.1 idle).1
    simp only [effort, first, free, Validator.receive, List.length_cons]
    split
    · simp only [Option.toList_some, Option.toList_none, List.length_singleton, List.length_nil]
      omega
    · omega
  | passes holding =>
    simp only [effort, holding, Validator.passed, Option.toList_some, Option.toList_none,
      List.length_append, List.length_singleton, List.length_nil]
    omega
  | abandons holding closed => simp [effort, holding, Validator.abandoned]
  | finishes idle stopped empty =>
    simp [effort, Validator.finish, Queue.close, (Validator.isIdle_iff.1 idle).2]

theorem Change.capacity (hc : Change i m i') :
    i'.inbox.capacity = i.inbox.capacity ∧ i'.outbox.capacity = i.outbox.capacity := by
  cases hc <;> exact ⟨rfl, rfl⟩

theorem Change.isListening (hc : Change i m i') (h : i.Orderly) (onward : m.isOnward = true) :
    i'.isListening = i.isListening := by
  cases hc with
  | signals | reads | stops | ticks => cases onward
  | loses held closed => simp [h.inbox_isOpen (h.isListening (by simp [held]))] at closed
  | hands | takes | passes | abandons | finishes => rfl

end Intake

namespace Record

/-- A move that brings on what was read. -/
def Move.isOnward : Move → Bool
  | .intake m => m.isOnward
  | _ => true

theorem Move.datagram?_of_isOnward {m : Move} (onward : m.isOnward = true) : m.datagram? = none := by
  match m with
  | .persist | .flush => rfl
  | .intake (.read d) => cases onward
  | .intake .hand | .intake (.validate _) | .intake .pass | .intake .finish => rfl

namespace Run

variable {σ : Type} [Store σ] {r r' : Run σ} {m : Move}

/-- The onward moves that are left. -/
def effort (r : Run σ) : Nat := r.intake.effort + r.flushed.isNone.toNat

/-- What keeps the stages of a recording going. -/
structure Live (r : Run σ) : Prop where
  orderly : r.intake.Orderly
  inbox_roomy : 0 < r.intake.inbox.capacity
  outbox_roomy : 0 < r.intake.outbox.capacity
  waits : r.intake.outbox.isOpen = true → r.flushed = none

theorem Live.start (store : σ) : Live ({ persister := { store } } : Run σ) :=
  ⟨(Sound.start store).orderly, Nat.succ_pos _, Nat.succ_pos _, fun _ => rfl⟩

theorem Live.step (h : Live r) (hc : Change r m r') : Live r' := by
  cases hc with
  | intake hc =>
    obtain ⟨hinbox, houtbox⟩ := hc.capacity
    exact ⟨hc.orderly h.orderly, hinbox ▸ h.inbox_roomy, houtbox ▸ h.outbox_roomy,
      fun isOpen => h.waits (hc.outbox_isOpen ▸ isOpen)⟩
  | puts metrics spare waits first =>
    have ho := h.orderly
    exact ⟨⟨ho.1, ho.2, ho.3, ho.4⟩, h.inbox_roomy, h.outbox_roomy, h.waits⟩
  | flushes waits spent =>
    have ho := h.orderly
    exact ⟨⟨ho.1, ho.2, ho.3, fun _ => rfl⟩, h.inbox_roomy, h.outbox_roomy, nofun⟩

theorem Live.steps (h : Live r) (moves : List Move) : Live (r.steps moves) :=
  foldl_induction (fun _ _ _ _ h hs => h.step (change_of_step hs)) h

theorem Change.effort_lt (hc : Change r m r') (onward : m.isOnward = true) : r'.effort < r.effort := by
  cases hc with
  | intake hc => exact Nat.add_lt_add_right (hc.effort_lt onward) _
  | puts metrics spare waits first => simp [effort, Intake.effort, first]
  | flushes waits spent => simp [effort, Intake.effort, Queue.close, waits]

theorem Change.isListening (hc : Change r m r') (h : Live r) (onward : m.isOnward = true) :
    r'.intake.isListening = r.intake.isListening := by
  cases hc with
  | intake hc => exact hc.isListening h.orderly onward
  | puts | flushes => rfl

/-! ## Going on -/

theorem Live.exists_step_of_holding (h : Live r) {p : Bytes}
    (holding : r.intake.validator.holding = some p) :
    ∃ m : Move, m.isOnward = true ∧ (r.step m).isSome = true := by
  cases isOpen : r.intake.outbox.isOpen with
  | false => exact ⟨.intake .pass, rfl, by simp [Run.step, Intake.step, holding, isOpen]⟩
  | true =>
    by_cases room : r.intake.outbox.items.length < r.intake.outbox.capacity
    · exact ⟨.intake .pass, rfl, by simp [Run.step, Intake.step, holding, isOpen, Queue.push?, room]⟩
    · -- The queue is full, so the persister can go on.
      have waits := h.waits isOpen
      cases spent : r.persister.isExhausted with
      | true => exact ⟨.flush, rfl, by simp [Run.step, waits, spent]⟩
      | false =>
        cases hitems : r.intake.outbox.items with
        | nil =>
          have := h.outbox_roomy
          simp [hitems] at room
          omega
        | cons payload items =>
          exact ⟨.persist, rfl, by simp [Run.step, waits, spent, Queue.pop?, hitems]⟩

theorem Live.exists_step_of_ahead (h : Live r) (free : r.intake.validator.holding = none)
    (left : r.intake.ahead ≠ []) : ∃ m : Move, m.isOnward = true ∧ (r.step m).isSome = true := by
  have running : r.intake.validator.isDone = false :=
    Bool.eq_false_iff.2 fun done => left (h.orderly.ahead_eq_nil done)
  have idle : r.intake.validator.isIdle = true := Validator.isIdle_iff.2 ⟨free, running⟩
  cases hitems : r.intake.inbox.items with
  | cons d items =>
    exact ⟨.intake (.validate 0), rfl, by simp [Run.step, Intake.step, idle, Queue.pop?, hitems]⟩
  | nil =>
    obtain ⟨d, held⟩ : ∃ d, r.intake.held = some d := by
      simpa [Intake.ahead, hitems, Option.ne_none_iff_exists'] using left
    have isOpen := h.orderly.inbox_isOpen (h.orderly.isListening (by simp [held]))
    exact ⟨.intake .hand, rfl, by
      simp [Run.step, Intake.step, held, isOpen, Queue.push?, hitems, h.inbox_roomy]⟩

theorem exists_step_of_settled (stopped : r.intake.isListening = false) (settled : r.intake.ahead = [])
    (free : r.intake.validator.holding = none) (unfinished : r.isFinished = false) :
    ∃ m : Move, m.isOnward = true ∧ (r.step m).isSome = true := by
  cases done : r.intake.validator.isDone with
  | false =>
    have idle : r.intake.validator.isIdle = true := Validator.isIdle_iff.2 ⟨free, done⟩
    have empty : r.intake.inbox.items = [] := (List.append_eq_nil_iff.1 settled).1
    exact ⟨.intake .finish, rfl, by simp [Run.step, Intake.step, idle, stopped, empty, Queue.isEmpty]⟩
  | true =>
    have waits : r.flushed = none := by simpa [isFinished, done] using unfinished
    cases spent : r.persister.isExhausted with
    | true => exact ⟨.flush, rfl, by simp [Run.step, waits, spent]⟩
    | false =>
      cases hitems : r.intake.outbox.items with
      | nil =>
        exact ⟨.flush, rfl, by simp [Run.step, waits, Intake.isDrained, done, hitems, Queue.isEmpty]⟩
      | cons payload items =>
        exact ⟨.persist, rfl, by simp [Run.step, waits, spent, Queue.pop?, hitems]⟩

theorem Live.exists_step (h : Live r)
    (unsettled : r.intake.ahead ≠ [] ∨ r.intake.isListening = false ∧ r.isFinished = false) :
    ∃ m : Move, m.isOnward = true ∧ (r.step m).isSome = true := by
  cases holding : r.intake.validator.holding with
  | some p => exact h.exists_step_of_holding holding
  | none =>
    by_cases settled : r.intake.ahead = []
    · obtain ⟨stopped, unfinished⟩ := unsettled.resolve_left (absurd settled)
      exact exists_step_of_settled stopped settled holding unfinished
    · exact h.exists_step_of_ahead holding settled

theorem Live.exists_onward (h : Live r) (goal : Run σ → Prop)
    (unsettled : ∀ s : Run σ, s.intake.isListening = r.intake.isListening → ¬ goal s →
      s.intake.ahead ≠ [] ∨ s.intake.isListening = false ∧ s.isFinished = false) :
    ∃ moves : List Move, (∀ m ∈ moves, m.isOnward = true) ∧
      (r.steps moves).intake.isListening = r.intake.isListening ∧ goal (r.steps moves) := by
  have advance : ∀ s : Run σ, Live s ∧ s.intake.isListening = r.intake.isListening → ¬ goal s →
      ∃ m s', Move.isOnward m = true ∧ s.step m = some s' ∧
        (Live s' ∧ s'.intake.isListening = r.intake.isListening) ∧ s'.effort < s.effort := by
    rintro s ⟨h, same⟩ far
    obtain ⟨m, onward, enabled⟩ := h.exists_step (unsettled s same far)
    obtain ⟨s', hs⟩ := Option.isSome_iff_exists.1 enabled
    have hc := change_of_step hs
    exact ⟨m, s', onward, hs, ⟨h.step hc, (hc.isListening h onward).trans same⟩, hc.effort_lt onward⟩
  obtain ⟨moves, onward, ⟨-, same⟩, reached⟩ := exists_reaching effort advance ⟨h, rfl⟩
  exact ⟨moves, onward, same, reached⟩

theorem reads_append (r : Run σ) (moves moves' : List Move) :
    r.reads (moves ++ moves') = r.reads moves ++ (r.steps moves).reads moves' := observe_append ..

theorem reads_of_isOnward {moves : List Move} (onward : ∀ m ∈ moves, m.isOnward = true) :
    r.reads moves = [] :=
  observe_eq_nil fun m hm _ => Move.datagram?_of_isOnward (onward m hm)

theorem Live.exists_settled (h : Live r) :
    ∃ moves : List Move, r.reads moves = [] ∧
      (r.steps moves).intake.isListening = r.intake.isListening ∧
      (r.steps moves).intake.held = none := by
  obtain ⟨moves, onward, same, settled⟩ :=
    h.exists_onward (·.intake.ahead = []) fun _ _ busy => .inl busy
  refine ⟨moves, reads_of_isOnward onward, same, ?_⟩
  exact Option.toList_eq_nil_iff.1 (List.append_eq_nil_iff.1 settled).2

theorem isListening_stop (free : r.intake.held = none) :
    (r.steps [.intake .signal, .intake .stop]).intake.isListening = false := by
  cases listening : r.intake.isListening <;>
    simp [Run.steps, Run.step, Intake.step, listening, free]

theorem Live.exists_finish (h : Live r) :
    ∃ moves : List Move, r.reads moves = [] ∧ (r.steps moves).isFinished = true := by
  obtain ⟨settling, unread, -, free⟩ := h.exists_settled
  -- The signal stops the listener as soon as it has handed over what it holds.
  have stopped := isListening_stop free
  have live := (h.steps settling).steps [.intake .signal, .intake .stop]
  obtain ⟨moves, onward, -, finished⟩ :=
    live.exists_onward (·.isFinished = true) fun s same unfinished =>
      .inr ⟨same.trans stopped, Bool.eq_false_iff.2 unfinished⟩
  refine ⟨settling ++ ([.intake .signal, .intake .stop] ++ moves), ?_, ?_⟩
  · rw [reads_append, reads_append, unread, reads_of_isOnward onward, List.nil_append, List.append_nil]
    exact observe_eq_nil (by simp [Move.datagram?, IntakeMove.datagram?])
  · rw [Run.steps, List.foldl_append, List.foldl_append]
    exact finished

theorem Live.exists_reading (h : Live r) (listening : r.intake.isListening = true)
    (free : r.intake.held = none) (datagrams : List Bytes) :
    ∃ moves : List Move, r.reads moves = datagrams := by
  induction datagrams generalizing r with
  | nil => exact ⟨[], rfl⟩
  | cons d ds ih =>
    obtain ⟨s, hs, still⟩ : ∃ s, r.step (.intake (.read d)) = some s ∧ s.intake.isListening = true := by
      simp [Run.step, Intake.step, listening, free]
    have live := h.step (change_of_step hs)
    obtain ⟨settling, unread, same, free⟩ := live.exists_settled
    obtain ⟨moves, hreads⟩ := ih (live.steps settling) (same.trans still) free
    refine ⟨.intake (.read d) :: (settling ++ moves), ?_⟩
    calc r.reads (.intake (.read d) :: (settling ++ moves))
        = d :: s.reads (settling ++ moves) := by
          simp only [reads, observe, hs]
          rfl
      _ = d :: ds := by rw [reads_append, unread, hreads, List.nil_append]

/-- **Any datagrams can be recorded.** A recording can read them all and then come to its end. -/
theorem exists_recording {shutdown : Shutdown.Watcher} {store : σ} (ready : prepare shutdown store = .ok r)
    (datagrams : List Bytes) :
    ∃ moves : List Move, r.reads moves = datagrams ∧ (r.steps moves).isFinished = true := by
  obtain rfl := eq_of_prepare ready
  have live := Live.start store
  obtain ⟨reading, hreads⟩ := live.exists_reading rfl rfl datagrams
  obtain ⟨closing, unread, finished⟩ := (live.steps reading).exists_finish
  refine ⟨reading ++ closing, ?_, ?_⟩
  · rw [reads_append, hreads, unread, List.append_nil]
  · rwa [Run.steps, List.foldl_append]

end Run

end Record

end FlowTraffic.Receiver
