import FlowTraffic.Proofs.Receiver.Validation

/-!
# What the validator counts

The validator counts every payload that it takes, and what it has taken and what waits for it are together
what has come (`Counted`). What it has passed on and what it holds are the packets among what it has taken, as
long as the stage behind it is there, and afterwards it passes nothing on (`Passed`). Reports change nothing.
-/

namespace FlowTraffic.Receiver.Validation

def fresh (labels : List (String × String)) (metrics : Metrics) (inbox outbox : Nat) : Intake where
  labels := labels
  metrics := metrics
  inbox := { capacity := inbox }
  outbox := { capacity := outbox }

variable {labels : List (String × String)} {metrics : Metrics} {log : List Event} {i i' : Intake}
  {m : Move} {e? : Option Event}

theorem orderly_fresh (labels : List (String × String)) (metrics : Metrics) (inbox outbox : Nat) :
    (fresh labels metrics inbox outbox).Orderly :=
  ⟨fun _ => rfl, nofun, nofun, nofun⟩

theorem orderly_of_step (h : i.Orderly) (hs : step i m = some i') : i'.Orderly := by
  cases m with
  | intake m => exact (Intake.change_of_step hs).orderly h
  | pop =>
    obtain ⟨⟨p, outbox⟩, popped, rfl⟩ := Option.map_eq_some_iff.1 hs
    obtain ⟨items, -, rfl⟩ := Queue.pop?_eq_some_iff.1 popped
    exact ⟨h.inbox_isOpen, h.isListening, h.done, h.abandoned⟩
  | close =>
    cases hs
    exact ⟨h.inbox_isOpen, h.isListening, h.done, fun _ => rfl⟩
  | count c n =>
    simp only [step] at hs
    split at hs
    · cases hs
    · cases hs
      exact ⟨h.inbox_isOpen, h.isListening, h.done, h.abandoned⟩

/-! ## Counting -/

theorem ofAll_concat (ds : List Bytes) (d : Bytes) :
    Counts.ofAll (ds ++ [d]) = (Counts.ofAll ds).add d := by
  rw [← foldl_add_eq_ofAll, ← foldl_add_eq_ofAll, List.foldl_append]
  rfl

/-- The payloads that the validator has taken, and what it makes of them. -/
structure Counted (labels : List (String × String)) (metrics : Metrics) (log : List Event) (i : Intake) :
    Prop where
  labels_eq : i.labels = labels
  /-- They are the first that have come, in their order. -/
  taken : tookIn log ++ i.inbox.items = cameIn log
  /-- Each of them is counted as what it is. -/
  counts_eq : i.validator.counts = .ofAll (tookIn log)
  /-- The counter goes up by one with each of them that is no packet, and with nothing else. -/
  raised : metrics.Raised (invalidCounter labels) i.validator.counts.invalid i.metrics

theorem Counted.start (labels : List (String × String)) (metrics : Metrics) (inbox outbox : Nat) :
    Counted labels metrics [] (fresh labels metrics inbox outbox) where
  labels_eq := rfl
  taken := rfl
  counts_eq := rfl
  raised := .refl ..

theorem raised_countPayload (labels_eq : i.labels = labels) (d : Bytes)
    (h : metrics.Raised (invalidCounter labels) i.validator.counts.invalid i.metrics) :
    metrics.Raised (invalidCounter labels) (i.validator.counts.add d).invalid (i.countPayload d) := by
  subst labels_eq
  unfold Intake.countPayload Counts.add
  split
  · exact h
  · exact h.add_one

theorem Counted.congr (h : Counted labels metrics log i) {log' : List Event}
    (same : i'.labels = i.labels ∧ i'.inbox.items = i.inbox.items ∧
      i'.validator.counts = i.validator.counts)
    (metrics_eq : i'.metrics = i.metrics) (came : cameIn log' = cameIn log)
    (took : tookIn log' = tookIn log) : Counted labels metrics log' i' where
  labels_eq := same.1.trans h.labels_eq
  taken := by rw [same.2.1, took, came, h.taken]
  counts_eq := by rw [same.2.2, took, h.counts_eq]
  raised := by
    rw [same.2.2, metrics_eq]
    exact h.raised

theorem Counted.change (h : Counted labels metrics log i) (hc : Change i e? i') :
    Counted labels metrics (log ++ e?.toList) i' := by
  cases hc with
  | signals => exact h.congr ⟨rfl, rfl, rfl⟩ rfl (by simp) (by simp)
  | @reads d =>
    refine ⟨h.labels_eq, by simpa using h.taken, by simpa using h.counts_eq, ?_⟩
    apply Metrics.Raised.add_other
    · apply Metrics.Raised.add_other h.raised
      exact text_ne_invalidCounter (by decide) (by decide) _ _
    · exact text_ne_invalidCounter (by decide) (by decide) _ _
  | comes held =>
    refine ⟨h.labels_eq, ?_, ?_, h.raised⟩
    · simp [Event.took?, Event.came?, ← h.taken]
    · simpa [Event.took?] using h.counts_eq
  | loses held closed => exact h.congr ⟨rfl, rfl, rfl⟩ rfl (by simp) (by simp)
  | stops => exact h.congr ⟨rfl, rfl, rfl⟩ rfl (by simp) (by simp)
  | @takes now d items idle first =>
    refine ⟨h.labels_eq, ?_, ?_, raised_countPayload h.labels_eq d h.raised⟩
    · simp [Event.took?, Event.came?, ← h.taken, first]
    · simp [Event.took?, Validator.receive, ofAll_concat, ← h.counts_eq]
  | passes holding isOpen =>
    exact h.congr ⟨rfl, rfl, rfl⟩ rfl (by simp [Event.came?]) (by simp [Event.took?])
  | abandons holding closed =>
    exact h.congr ⟨rfl, rfl, rfl⟩ rfl (by simp [Event.came?]) (by simp [Event.took?])
  | ticks => exact h.congr ⟨rfl, rfl, rfl⟩ rfl (by simp) (by simp)
  | finishes idle stopped empty => exact h.congr ⟨rfl, rfl, rfl⟩ rfl (by simp) (by simp)
  | pops first =>
    exact h.congr ⟨rfl, rfl, rfl⟩ rfl (by simp [Event.came?]) (by simp [Event.took?])
  | closes =>
    exact h.congr ⟨rfl, rfl, rfl⟩ rfl (by simp [Event.came?]) (by simp [Event.took?])
  | counts other =>
    refine ⟨h.labels_eq, by simpa using h.taken, by simpa using h.counts_eq, ?_⟩
    apply h.raised.add_other
    rw [← h.labels_eq]
    exact other

/-! ## Passing on -/

/-- The packets that the validator has passed on. -/
structure Passed (log : List Event) (i : Intake) : Prop where
  isOpen_iff : i.outbox.isOpen = true ↔ .closed ∉ log
  /-- The stage behind gets them in their order. -/
  received : poppedIn log ++ i.outbox.items = passedIn log
  /-- They are the packets among the payloads that were taken before the stage behind went away, in their
  order, but for the one that the validator held at that time, if it held one. -/
  complete : ∃ held : Option Bytes,
    passedIn log ++ held.toList = packetsAmong (tookIn (beforeClosing log)) ∧
      (.closed ∉ log → held = i.validator.holding)
  /-- None of them was passed on after that. -/
  final : passedIn log = passedIn (beforeClosing log)
  /-- After one packet was refused, no other is offered. -/
  refused : (refusedIn log).length = i.validator.isAbandoned.toNat
  abandoned : i.validator.isAbandoned = true → i.validator.holding = none

theorem Passed.start (labels : List (String × String)) (metrics : Metrics) (inbox outbox : Nat) :
    Passed [] (fresh labels metrics inbox outbox) where
  isOpen_iff := by simp [fresh]
  received := rfl
  complete := ⟨none, rfl, fun _ => rfl⟩
  final := rfl
  refused := rfl
  abandoned := nofun

theorem Passed.of_open (unclosed : .closed ∉ log) (isOpen : i.outbox.isOpen = true)
    (received : poppedIn log ++ i.outbox.items = passedIn log)
    (complete : passedIn log ++ i.validator.holding.toList = packetsAmong (tookIn log))
    (refused : (refusedIn log).length = i.validator.isAbandoned.toNat)
    (abandoned : i.validator.isAbandoned = true → i.validator.holding = none) : Passed log i where
  isOpen_iff := by simp [isOpen, unclosed]
  received := received
  complete := ⟨i.validator.holding, by rw [beforeClosing_of_notMem unclosed, complete], fun _ => rfl⟩
  final := by rw [beforeClosing_of_notMem unclosed]
  refused := refused
  abandoned := abandoned

theorem Passed.holds (h : Passed log i) (unclosed : .closed ∉ log) :
    passedIn log ++ i.validator.holding.toList = packetsAmong (tookIn log) := by
  obtain ⟨held, hcomplete, hheld⟩ := h.complete
  rw [beforeClosing_of_notMem unclosed, hheld unclosed] at hcomplete
  exact hcomplete

theorem Passed.after_closing (h : Passed log i) (closed : .closed ∈ log) {e : Event}
    (unpassed : e.passed? = none) (isOpen : i'.outbox.isOpen = false)
    (received : poppedIn (log ++ [e]) ++ i'.outbox.items = passedIn log)
    (refused : (refusedIn (log ++ [e])).length = i'.validator.isAbandoned.toNat)
    (abandoned : i'.validator.isAbandoned = true → i'.validator.holding = none) :
    Passed (log ++ [e]) i' := by
  have hpassed : passedIn (log ++ [e]) = passedIn log := by simp [unpassed]
  have hbefore : beforeClosing (log ++ [e]) = beforeClosing log := beforeClosing_concat_of_mem closed e
  have hmem : .closed ∈ log ++ [e] := List.mem_append_left _ closed
  obtain ⟨held, hcomplete, -⟩ := h.complete
  refine ⟨by simp [isOpen, closed], received.trans hpassed.symm, ⟨held, ?_, absurd hmem⟩, ?_, refused,
    abandoned⟩
  · rw [hpassed, hbefore, hcomplete]
  · rw [hpassed, hbefore]
    exact h.final

theorem Passed.congr (h : Passed log i) (outbox : i'.outbox = i.outbox)
    (holding : i'.validator.holding = i.validator.holding)
    (abandoned : i'.validator.isAbandoned = i.validator.isAbandoned) :
    Passed (log ++ (none : Option Event).toList) i' := by
  rw [Option.toList_none, List.append_nil]
  exact ⟨by rw [outbox, h.isOpen_iff], by rw [outbox, h.received], by rw [holding]; exact h.complete,
    h.final, by rw [abandoned, h.refused], by rw [abandoned, holding]; exact h.abandoned⟩

theorem toList_receive (wanted : i.validator.isAbandoned = false) (now : Nat) (d : Bytes) :
    (i.validator.receive now d).holding.toList = packetsAmong [d] := by
  rw [packetsAmong_cons, packetsAmong_nil, List.append_nil]
  simp only [Validator.receive, wanted, Bool.not_false, Bool.and_true]
  split <;> rfl

theorem Passed.change_of_closed (h : Passed log i) (closed : .closed ∈ log) (hc : Change i e? i') :
    Passed (log ++ e?.toList) i' := by
  have shut : i.outbox.isOpen = false := by simpa [closed] using h.isOpen_iff
  cases hc with
  | signals => exact h.congr rfl rfl rfl
  | reads => exact h.congr rfl rfl rfl
  | loses held closed => exact h.congr rfl rfl rfl
  | stops => exact h.congr rfl rfl rfl
  | ticks => exact h.congr rfl rfl rfl
  | finishes idle stopped empty => exact h.congr rfl rfl rfl
  | counts other => exact h.congr rfl rfl rfl
  | comes held =>
    refine h.after_closing closed rfl shut ?_ ?_ h.abandoned
    · simpa [Event.popped?] using h.received
    · simpa [Event.refused?] using h.refused
  | takes idle first =>
    refine h.after_closing closed rfl shut ?_ ?_ fun abandoned => ?_
    · simpa [Event.popped?] using h.received
    · simpa [Event.refused?, Validator.receive] using h.refused
    · have before : i.validator.isAbandoned = true := abandoned
      simp [Validator.receive, before]
  | passes holding isOpen => simp [shut] at isOpen
  | abandons holding =>
    have wanted : i.validator.isAbandoned = false := by
      apply Bool.eq_false_iff.2
      intro abandoned
      simp [h.abandoned abandoned] at holding
    refine h.after_closing closed rfl shut ?_ ?_ fun _ => rfl
    · simpa [Event.popped?] using h.received
    · simpa [Event.refused?, Validator.abandoned, wanted] using h.refused
  | pops first =>
    refine h.after_closing closed rfl shut ?_ ?_ h.abandoned
    · simp [Event.popped?, ← h.received, first]
    · simpa [Event.refused?] using h.refused
  | closes =>
    refine h.after_closing closed rfl rfl ?_ ?_ h.abandoned
    · simpa [Event.popped?, Queue.close] using h.received
    · simpa [Event.refused?] using h.refused

theorem Passed.change_of_open (h : Passed log i) (unclosed : .closed ∉ log) (ho : i.Orderly)
    (hc : Change i e? i') : Passed (log ++ e?.toList) i' := by
  have isOpen : i.outbox.isOpen = true := h.isOpen_iff.2 unclosed
  have wanted : i.validator.isAbandoned = false := by
    apply Bool.eq_false_iff.2
    intro abandoned
    simp [ho.abandoned abandoned] at isOpen
  have holds := h.holds unclosed
  cases hc with
  | signals => exact h.congr rfl rfl rfl
  | reads => exact h.congr rfl rfl rfl
  | loses held closed => exact h.congr rfl rfl rfl
  | stops => exact h.congr rfl rfl rfl
  | ticks => exact h.congr rfl rfl rfl
  | finishes idle stopped empty => exact h.congr rfl rfl rfl
  | counts other => exact h.congr rfl rfl rfl
  | comes held =>
    refine .of_open (by simpa using unclosed) isOpen ?_ ?_ ?_ h.abandoned
    · simpa [Event.popped?, Event.passed?] using h.received
    · simpa [Event.passed?, Event.took?] using holds
    · simpa [Event.refused?] using h.refused
  | @takes now d items idle first =>
    rw [(Validator.isIdle_iff.1 idle).1, Option.toList_none, List.append_nil] at holds
    refine .of_open (by simpa using unclosed) isOpen ?_ ?_ ?_ ?_
    · simpa [Event.popped?, Event.passed?] using h.received
    · simp only [toList_receive wanted]
      simp [Event.took?, Event.passed?, holds]
    · simpa [Event.refused?, Validator.receive] using h.refused
    · simp [Validator.receive, wanted]
  | passes holding =>
    rw [holding] at holds
    refine .of_open (by simpa using unclosed) isOpen ?_ ?_ ?_ fun _ => rfl
    · simp [Event.popped?, Event.passed?, ← h.received]
    · simpa [Event.took?, Event.passed?, Validator.passed] using holds
    · simpa [Event.refused?, Validator.passed] using h.refused
  | abandons holding closed => simp [isOpen] at closed
  | pops first =>
    refine .of_open (by simpa using unclosed) isOpen ?_ ?_ ?_ h.abandoned
    · simp [Event.popped?, Event.passed?, ← h.received, first]
    · simpa [Event.passed?, Event.took?] using holds
    · simpa [Event.refused?] using h.refused
  | closes =>
    have hpassed : passedIn (log ++ [.closed]) = passedIn log := by simp [Event.passed?]
    have before : beforeClosing (log ++ [.closed]) = log := beforeClosing_concat_closed unclosed
    refine ⟨by simp [Queue.close], ?_, ⟨i.validator.holding, ?_, fun _ => rfl⟩, ?_, ?_, h.abandoned⟩
    · simpa [Event.popped?, Event.passed?, Queue.close] using h.received
    · simpa only [Option.toList_some, hpassed, before] using holds
    · simp only [Option.toList_some, hpassed, before]
    · simpa [Event.refused?] using h.refused

theorem Passed.change (h : Passed log i) (ho : i.Orderly) (hc : Change i e? i') :
    Passed (log ++ e?.toList) i' := by
  by_cases closed : .closed ∈ log
  · exact h.change_of_closed closed hc
  · exact h.change_of_open closed ho hc

/-! ## A row of moves -/

/-- What holds of listener and validator, whatever has happened. -/
structure Sound (labels : List (String × String)) (metrics : Metrics) (log : List Event) (i : Intake) :
    Prop where
  orderly : i.Orderly
  counted : Counted labels metrics log i
  passed : Passed log i

theorem Sound.start (labels : List (String × String)) (metrics : Metrics) (inbox outbox : Nat) :
    Sound labels metrics [] (fresh labels metrics inbox outbox) :=
  ⟨orderly_fresh .., .start .., .start ..⟩

theorem Sound.step (h : Sound labels metrics log i) (hs : step i m = some i') :
    Sound labels metrics (log ++ (event? i m).toList) i' := by
  have hc := change_of_step hs
  exact ⟨orderly_of_step h.orderly hs, h.counted.change hc, h.passed.change h.orderly hc⟩

theorem Sound.run (labels : List (String × String)) (metrics : Metrics) (inbox outbox : Nat)
    (moves : List Move) :
    Sound labels metrics (events (fresh labels metrics inbox outbox) moves)
      (after (fresh labels metrics inbox outbox) moves) :=
  observe_induction (fun _ _ _ _ h hs => Sound.step h hs) (Sound.start labels metrics inbox outbox) moves

theorem Sound.tookIn_eq (h : Sound labels metrics log i) (done : i.validator.isDone = true) :
    tookIn log = cameIn log := by
  obtain ⟨-, empty, -⟩ := h.orderly.done done
  rw [← h.counted.taken, empty, List.append_nil]

end FlowTraffic.Receiver.Validation
