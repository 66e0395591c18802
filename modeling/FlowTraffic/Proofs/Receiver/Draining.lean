import FlowTraffic.Proofs.Receiver.Counting
import FlowTraffic.Proofs.Receiver.Progress
import FlowTraffic.Proofs.Schedules

/-!
# The validator gets to the end of its payloads

The validator waits only for a payload, or for room in a queue that is open (`not_canMove_iff`). Once the
listener has stopped, every move of the validator, and every packet that is taken from its queue, leaves less
to do, and no other move adds anything. So it is over at some time if it is not left waiting for ever
(`exists_done`), and when it is over it has counted everything that came (`counts_whatever_comes`).
-/

namespace FlowTraffic.Receiver.Validation

variable {i i' : Intake} {m : Move} {e? : Option Event}

/-! ## What the validator waits for -/

/-- A move with which the validator goes on. -/
def Move.isOwn : Move → Bool
  | .intake (.validate _) | .intake .pass | .intake .finish => true
  | _ => false

theorem isSome_validate_iff (now : Nat) : (step i (.intake (.validate now))).isSome = true ↔
    i.validator.isIdle = true ∧ i.inbox.items ≠ [] := by
  cases idle : i.validator.isIdle <;> cases items : i.inbox.items <;>
    simp [step, Intake.step, idle, items, Queue.pop?]

theorem isSome_pass_iff : (step i (.intake .pass)).isSome = true ↔
    i.validator.holding ≠ none ∧ (i.outbox.isOpen = true → i.outbox.items.length < i.outbox.capacity) := by
  cases holding : i.validator.holding with
  | none => simp [step, Intake.step, holding]
  | some p =>
    cases isOpen : i.outbox.isOpen with
    | false => simp [step, Intake.step, holding, isOpen]
    | true =>
      by_cases room : i.outbox.items.length < i.outbox.capacity <;>
        simp [step, Intake.step, holding, isOpen, Queue.push?, room]

theorem isSome_finish_iff : (step i (.intake .finish)).isSome = true ↔
    i.validator.isIdle = true ∧ i.isListening = false ∧ i.inbox.items = [] := by
  cases idle : i.validator.isIdle <;> cases listening : i.isListening <;>
    cases items : i.inbox.items <;>
    simp [step, Intake.step, idle, listening, items, Queue.isEmpty]

theorem isSome_pop_iff : (step i .pop).isSome = true ↔ i.outbox.items ≠ [] := by
  cases items : i.outbox.items <;> simp [step, Queue.pop?, items]

theorem canMove_iff : CanMove step (Move.isOwn ·) i ↔
    (i.validator.holding ≠ none ∧
      (i.outbox.isOpen = true → i.outbox.items.length < i.outbox.capacity)) ∨
    (i.validator.isIdle = true ∧ (i.inbox.items = [] → i.isListening = false)) := by
  constructor
  · rintro ⟨m, own, possible⟩
    match m with
    | .intake (.validate now) =>
      obtain ⟨idle, filled⟩ := (isSome_validate_iff now).1 possible
      exact .inr ⟨idle, fun empty => absurd empty filled⟩
    | .intake .pass => exact .inl (isSome_pass_iff.1 possible)
    | .intake .finish =>
      obtain ⟨idle, stopped, -⟩ := isSome_finish_iff.1 possible
      exact .inr ⟨idle, fun _ => stopped⟩
  · rintro (pass | ⟨idle, stopped⟩)
    · exact ⟨.intake .pass, rfl, isSome_pass_iff.2 pass⟩
    · by_cases empty : i.inbox.items = []
      · exact ⟨.intake .finish, rfl, isSome_finish_iff.2 ⟨idle, stopped empty, empty⟩⟩
      · exact ⟨.intake (.validate 0), rfl, (isSome_validate_iff 0).2 ⟨idle, empty⟩⟩

theorem canPop_iff : CanMove step (· = Move.pop) i ↔ i.outbox.items ≠ [] := by
  rw [← isSome_pop_iff]
  constructor
  · rintro ⟨_, rfl, possible⟩
    exact possible
  · exact fun possible => ⟨.pop, rfl, possible⟩

theorem not_canMove_iff (running : i.validator.isDone = false) : ¬ CanMove step (Move.isOwn ·) i ↔
    (i.validator.holding = none ∧ i.inbox.items = [] ∧ i.isListening = true) ∨
    (i.validator.holding ≠ none ∧ i.outbox.isOpen = true ∧
      i.outbox.capacity ≤ i.outbox.items.length) := by
  rw [canMove_iff, Validator.isIdle_iff]
  by_cases free : i.validator.holding = none
  · simp [free, running]
  · simp [free]

/-! ## Going on after the last payload -/

/-- The listener has stopped, so nothing more comes, and the validator's queue has room for something. -/
structure Ended (i : Intake) : Prop where
  orderly : i.Orderly
  stopped : i.isListening = false
  roomy : 0 < i.outbox.capacity

theorem Change.capacity_eq (hc : Change i e? i') : i'.outbox.capacity = i.outbox.capacity := by
  cases hc <;> rfl

theorem Change.isListening (hc : Change i e? i') (stopped : i.isListening = false) :
    i'.isListening = false := by
  cases hc with
  | loses | stops => rfl
  | _ => exact stopped

theorem Change.isOpen (hc : Change i e? i') (shut : i.outbox.isOpen = false) :
    i'.outbox.isOpen = false := by
  cases hc with
  | closes => rfl
  | _ => exact shut

theorem Change.isDone (hc : Change i e? i') (done : i.validator.isDone = true) :
    i'.validator.isDone = true := by
  cases hc with
  | finishes => rfl
  | _ => exact done

theorem Ended.next (h : Ended i) (hs : step i m = some i') : Ended i' where
  orderly := orderly_of_step h.orderly hs
  stopped := (change_of_step hs).isListening h.stopped
  roomy := by
    rw [(change_of_step hs).capacity_eq]
    exact h.roomy

/-- What a move leaves alone that leaves as much to do as there was. -/
structure Rests (i i' : Intake) : Prop where
  inbox_eq : i'.inbox.items = i.inbox.items
  holding_eq : i'.validator.holding = i.validator.holding
  isIdle_eq : i'.validator.isIdle = i.validator.isIdle
  isListening_eq : i'.isListening = i.isListening
  outbox_eq : i'.outbox.items = i.outbox.items
  capacity_eq : i'.outbox.capacity = i.outbox.capacity
  isOpen_of : i'.outbox.isOpen = true → i.outbox.isOpen = true

theorem Rests.canMove (h : Rests i i') (can : CanMove step (Move.isOwn ·) i) :
    CanMove step (Move.isOwn ·) i' := by
  rw [canMove_iff] at can ⊢
  rw [h.inbox_eq, h.holding_eq, h.isIdle_eq, h.isListening_eq, h.outbox_eq, h.capacity_eq]
  rcases can with ⟨holding, room⟩ | idle
  · exact .inl ⟨holding, fun isOpen => room (h.isOpen_of isOpen)⟩
  · exact .inr idle

theorem Rests.canPop (h : Rests i i') (can : CanMove step (· = Move.pop) i) :
    CanMove step (· = Move.pop) i' := by
  rw [canPop_iff] at can ⊢
  rwa [h.outbox_eq]

theorem effort_pop_lt (hs : step i .pop = some i') : i'.effort < i.effort := by
  obtain ⟨⟨p, outbox⟩, popped, rfl⟩ := Option.map_eq_some_iff.1 hs
  obtain ⟨items, first, rfl⟩ := Queue.pop?_eq_some_iff.1 popped
  simp [Intake.effort, first]

theorem effort_own_lt (own : m.isOwn = true) (hs : step i m = some i') : i'.effort < i.effort := by
  match m with
  | .intake (.validate now) => exact (Intake.change_of_step (m := .validate now) hs).effort_lt rfl
  | .intake .pass => exact (Intake.change_of_step (m := .pass) hs).effort_lt rfl
  | .intake .finish => exact (Intake.change_of_step (m := .finish) hs).effort_lt rfl

/-- **After the last payload every move leaves less to do, or what there is to do as it is.** -/
theorem Ended.less_or_rests (h : Ended i) (hs : step i m = some i') :
    i'.effort < i.effort ∨ i'.effort = i.effort ∧ Rests i i' := by
  cases m with
  | intake m =>
    have hc := Intake.change_of_step hs
    by_cases onward : m.isOnward = true
    · exact .inl (hc.effort_lt onward)
    · right
      cases hc with
      | signals => exact ⟨rfl, rfl, rfl, rfl, rfl, rfl, rfl, id⟩
      | reads metrics listening => simp [h.stopped] at listening
      | stops => exact ⟨rfl, rfl, rfl, rfl, h.stopped.symm, rfl, rfl, id⟩
      | ticks => exact ⟨rfl, rfl, rfl, rfl, rfl, rfl, rfl, id⟩
      | hands | loses | takes | passes | abandons | finishes => exact absurd rfl onward
  | pop => exact .inl (effort_pop_lt hs)
  | close =>
    right
    cases hs
    exact ⟨rfl, rfl, rfl, rfl, rfl, rfl, rfl, nofun⟩
  | count c n =>
    right
    simp only [step] at hs
    split at hs
    · cases hs
    · cases hs
      exact ⟨rfl, rfl, rfl, rfl, rfl, rfl, rfl, id⟩

/-! ## The end -/

section

variable {schedule : Nat → Move} {n : Nat}

theorem Ended.exists_less (h : Ended (stateAt step i schedule n))
    (attended : Attended step (Move.isOwn ·) i schedule)
    (can : CanMove step (Move.isOwn ·) (stateAt step i schedule n)) :
    ∃ k, n ≤ k ∧ (stateAt step i schedule k).effort < (stateAt step i schedule n).effort := by
  apply attended.exists_less Intake.effort (P := Ended) (fun _ _ _ h hs => h.next hs) _ _ h can
  · intro s m s' _ own hs
    exact effort_own_lt own hs
  · intro s m s' h hs
    exact (h.less_or_rests hs).imp_right fun ⟨same, rests⟩ => ⟨same, rests.canMove⟩

theorem Ended.exists_less_of_pop (h : Ended (stateAt step i schedule n))
    (attended : Attended step (· = Move.pop) i schedule)
    (can : CanMove step (· = Move.pop) (stateAt step i schedule n)) :
    ∃ k, n ≤ k ∧ (stateAt step i schedule k).effort < (stateAt step i schedule n).effort := by
  apply attended.exists_less Intake.effort (P := Ended) (fun _ _ _ h hs => h.next hs) _ _ h can
  · rintro s m s' _ rfl hs
    exact effort_pop_lt hs
  · intro s m s' h hs
    exact (h.less_or_rests hs).imp_right fun ⟨same, rests⟩ => ⟨same, rests.canPop⟩

theorem Ended.progress (h : Ended (stateAt step i schedule n))
    (attended : Attended step (Move.isOwn ·) i schedule)
    (behind : Attended step (· = Move.pop) i schedule ∨
      (stateAt step i schedule n).outbox.isOpen = false)
    (running : (stateAt step i schedule n).validator.isDone = false) :
    ∃ k, n ≤ k ∧ (stateAt step i schedule k).effort < (stateAt step i schedule n).effort := by
  by_cases can : CanMove step (Move.isOwn ·) (stateAt step i schedule n)
  · exact h.exists_less attended can
  · -- Nothing more comes, so the validator waits for room: something is in its queue.
    obtain ⟨-, -, listening⟩ | ⟨-, isOpen, full⟩ := (not_canMove_iff running).1 can
    · simp [h.stopped] at listening
    · have filled : (stateAt step i schedule n).outbox.items ≠ [] := by
        intro empty
        have roomy := h.roomy
        rw [empty, List.length_nil] at full
        omega
      rcases behind with behind | shut
      · exact h.exists_less_of_pop behind (canPop_iff.2 filled)
      · simp [isOpen] at shut

theorem Ended.exists_done (h : Ended (stateAt step i schedule n))
    (attended : Attended step (Move.isOwn ·) i schedule)
    (behind : Attended step (· = Move.pop) i schedule ∨
      (stateAt step i schedule n).outbox.isOpen = false) :
    ∃ k, (stateAt step i schedule k).validator.isDone = true := by
  have ended : ∀ k, n ≤ k → Ended (stateAt step i schedule k) :=
    stateAt_induction (fun _ _ _ h hs => h.next hs) h
  have later : ∀ k, n ≤ k → Attended step (· = Move.pop) i schedule ∨
      (stateAt step i schedule k).outbox.isOpen = false := by
    intro k hk
    refine behind.imp_right fun shut => ?_
    exact stateAt_induction (fun _ _ _ shut hs => (change_of_step hs).isOpen shut) shut k hk
  have progress : ∀ k, n ≤ k → ¬ (stateAt step i schedule k).validator.isDone = true →
      ∃ k', k ≤ k' ∧
        (stateAt step i schedule k').effort < (stateAt step i schedule k).effort := by
    intro k hk running
    exact (ended k hk).progress attended (later k hk) (by simpa using running)
  obtain ⟨k, -, done⟩ := exists_reaching_of_less (·.validator.isDone = true) Intake.effort progress
  exact ⟨k, done⟩

/-- **The validator comes to its end.** If neither it nor the stage behind it is left waiting for ever, or
that stage has gone away, it is over some time after the listener has stopped. -/
theorem exists_done (orderly : i.Orderly) (roomy : 0 < i.outbox.capacity)
    (attended : Attended step (Move.isOwn ·) i schedule)
    (behind : Attended step (· = Move.pop) i schedule ∨
      ∃ n, (stateAt step i schedule n).outbox.isOpen = false)
    (ends : ∃ n, (stateAt step i schedule n).isListening = false) :
    ∃ n, (stateAt step i schedule n).validator.isDone = true := by
  have keeps : ∀ s m s', s.Orderly ∧ 0 < s.outbox.capacity → step s m = some s' →
      s'.Orderly ∧ 0 < s'.outbox.capacity := by
    rintro s m s' ⟨horderly, hroomy⟩ hs
    exact ⟨orderly_of_step horderly hs, (change_of_step hs).capacity_eq.symm ▸ hroomy⟩
  obtain ⟨n, stopped⟩ := ends
  obtain ⟨horderly, hroomy⟩ := stateAt_induction keeps (n := 0) ⟨orderly, roomy⟩ n (Nat.zero_le n)
  have ended : Ended (stateAt step i schedule n) := ⟨horderly, stopped, hroomy⟩
  rcases behind with behind | ⟨n', shut⟩
  · exact ended.exists_done attended (.inl behind)
  · -- Both have happened by the later of the two times.
    have hended : Ended (stateAt step i schedule (max n n')) :=
      stateAt_induction (fun _ _ _ h hs => h.next hs) ended _ (Nat.le_max_left ..)
    have hshut : (stateAt step i schedule (max n n')).outbox.isOpen = false :=
      stateAt_induction (fun _ _ _ h hs => (change_of_step hs).isOpen h) shut _ (Nat.le_max_right ..)
    exact hended.exists_done attended (.inr hshut)

end

theorem attended_of_done {schedule : Nat → Move} {n : Nat} (h : (stateAt step i schedule n).Orderly)
    (done : (stateAt step i schedule n).validator.isDone = true) :
    Attended step (Move.isOwn ·) i schedule := by
  have keeps : ∀ s m s', s.Orderly ∧ s.validator.isDone = true → step s m = some s' →
      s'.Orderly ∧ s'.validator.isDone = true := by
    rintro s m s' ⟨horderly, hdone⟩ hs
    exact ⟨orderly_of_step horderly hs, (change_of_step hs).isDone hdone⟩
  intro k can
  obtain ⟨horderly, hdone⟩ := stateAt_induction keeps ⟨h, done⟩ (max k n) (Nat.le_max_right ..)
  have hcan := canMove_iff.1 (can (max k n) (Nat.le_max_left ..))
  simp [(horderly.done hdone).2.2, Validator.isIdle_iff, hdone] at hcan

theorem Sound.counts_of_done {labels : List (String × String)} {metrics : Metrics} {log : List Event}
    (h : Sound labels metrics log i) (done : i.validator.isDone = true) :
    i.validator.counts = .ofAll (cameIn log) := by
  rw [h.counted.counts_eq, h.tookIn_eq done]

theorem valid_add_invalid (ds : List Bytes) :
    (Counts.ofAll ds).valid + (Counts.ofAll ds).invalid = ds.length := by
  have hlength := List.length_eq_countP_add_countP ([0, 9] : Bytes).isPrefixOf (l := ds)
  simp only [decide_not, Bool.decide_eq_true] at hlength
  exact hlength.symm

/-- **The validator counts everything, even when nobody listens.** Whatever comes, whenever it reports, and
whenever the stage behind it goes away: it counts each payload that it takes, and raises its counter with
those that are no packets; it passes on the packets in their order, until that stage has gone away; and it
waits for nothing but a payload, or room in an open queue. So it comes to its end if it is not left waiting
for ever, and by then it has counted all that has come. -/
theorem counts_whatever_comes (labels : List (String × String)) (metrics : Metrics) (inbox outbox : Nat)
    (moves : List Move) :
    let i := after (fresh labels metrics inbox outbox) moves
    let log := events (fresh labels metrics inbox outbox) moves
    Counted labels metrics log i ∧ Passed log i ∧
      (i.validator.isDone = true →
        i.validator.counts = .ofAll (cameIn log) ∧
          i.validator.counts.valid + i.validator.counts.invalid = (cameIn log).length ∧
          (.closed ∉ log → passedIn log = packetsAmong (cameIn log))) ∧
      (i.validator.isDone = false → (¬ CanMove step (Move.isOwn ·) i ↔
        (i.validator.holding = none ∧ i.inbox.items = [] ∧ i.isListening = true) ∨
        (i.validator.holding ≠ none ∧ i.outbox.isOpen = true ∧
          i.outbox.capacity ≤ i.outbox.items.length))) ∧
      ∀ schedule : Nat → Move, 0 < outbox → Attended step (Move.isOwn ·) i schedule →
        (Attended step (· = Move.pop) i schedule ∨
          ∃ n, (stateAt step i schedule n).outbox.isOpen = false) →
        (∃ n, (stateAt step i schedule n).isListening = false) →
        ∃ n, let rest := (List.range n).map schedule
          (after i rest).validator.isDone = true ∧
            (after i rest).validator.counts = .ofAll (cameIn (log ++ events i rest)) := by
  intro i log
  have h : Sound labels metrics log i := .run labels metrics inbox outbox moves
  refine ⟨h.counted, h.passed, fun done => ⟨h.counts_of_done done, ?_, fun unclosed => ?_⟩,
    not_canMove_iff, fun schedule roomy attended behind ends => ?_⟩
  · rw [h.counts_of_done done, valid_add_invalid]
  · have holds := h.passed.holds unclosed
    rwa [(h.orderly.done done).2.2, Option.toList_none, List.append_nil, h.tookIn_eq done] at holds
  · have capacity : i.outbox.capacity = outbox :=
      foldl_induction (P := fun i : Intake => i.outbox.capacity = outbox)
        (fun _ _ _ _ h hs => (change_of_step hs).capacity_eq.trans h) rfl
    obtain ⟨n, done⟩ := exists_done h.orderly (capacity.symm ▸ roomy) attended behind ends
    have later := Sound.run labels metrics inbox outbox (moves ++ (List.range n).map schedule)
    rw [events, observe_append, after, List.foldl_append] at later
    exact ⟨n, done, later.counts_of_done done⟩

/-- Four payloads come, and the stage behind goes away while the second packet waits for room in its queue. -/
def desertedMoves : List Move :=
  [.intake (.read [0, 9, 1]), .intake .hand, .intake (.validate 0), .intake .pass, .intake (.read [9]),
    .intake .hand, .intake (.tick 10000), .intake (.validate 10001), .intake (.read [0, 9]),
    .intake .hand, .intake (.validate 10002), .close, .intake .pass, .intake (.read [0, 9, 2]),
    .intake .hand, .intake .signal]

/-- The listener stops, and the validator goes on. -/
def closingSchedule : Nat → Move
  | 0 => .intake .stop
  | 1 => .intake (.validate 20000)
  | 2 => .intake .finish
  | _ => .close

theorem counts_whatever_comes_deserted :
    let i := after (fresh [] .empty 2 1) desertedMoves
    let log := events (fresh [] .empty 2 1) desertedMoves
    Attended step (Move.isOwn ·) i closingSchedule ∧
      (stateAt step i closingSchedule 0).outbox.isOpen = false ∧
      (stateAt step i closingSchedule 1).isListening = false ∧
      cameIn log = [[0, 9, 1], [9], [0, 9], [0, 9, 2]] ∧
      passedIn log = [[0, 9, 1]] ∧
      i.validator.counts = { valid := 2, invalid := 1 } ∧
      ∃ n, let rest := (List.range n).map closingSchedule
        (after i rest).validator.isDone = true ∧
          (after i rest).validator.counts = .ofAll (cameIn (log ++ events i rest)) := by
  intro i log
  have attended : Attended step (Move.isOwn ·) i closingSchedule := by
    have orderly := (Sound.run [] .empty 2 1 (desertedMoves ++ (List.range 3).map closingSchedule)).orderly
    rw [after, List.foldl_append] at orderly
    exact attended_of_done (n := 3) orderly (by decide +kernel)
  have shut : (stateAt step i closingSchedule 0).outbox.isOpen = false := by decide +kernel
  have stopped : (stateAt step i closingSchedule 1).isListening = false := by decide +kernel
  obtain ⟨counted, -, -, -, ends⟩ := counts_whatever_comes [] .empty 2 1 desertedMoves
  refine ⟨attended, shut, stopped, by decide +kernel, by decide +kernel, ?_, ?_⟩
  · exact counted.counts_eq.trans (by decide +kernel)
  · exact ends closingSchedule Nat.one_pos attended (.inr ⟨0, shut⟩) ⟨1, stopped⟩

end FlowTraffic.Receiver.Validation
