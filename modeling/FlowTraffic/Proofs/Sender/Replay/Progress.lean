import FlowTraffic.Proofs.Sender.Replay.Moves
import Mathlib.Data.List.Basic

/-!
# A replay comes to its end

A replay that is not over can go on without the signal (`Live.exists_step`), and every move but the signal
leaves less to do (`Change.effort_lt`). So whatever has happened, a replay of a store that is gone through
once can come to its end, and will not go on for ever (`Live.exists_finish`).
-/

namespace FlowTraffic.Sender.Replay

/-! ## What is left to do -/

/-- The moves that a worker has before it. -/
def Worker.effort (w : Worker) : Nat :=
  match w.stage with
  | .waiting => 1
  | .holding _ => 2
  | .stopped => 0

/-- The moves that it takes to get the payloads that are left to the reader read, taken and sent. -/
def Reader.effort (r : Reader) : Nat :=
  match r.stage with
  | .looking => 4 * r.rest.length + 1
  | .offering => 4 * r.rest.length
  | .done => 0

namespace Reader

variable {r : Reader}

theorem effort_look_lt (looking : r.stage = .looking) (once : r.looping = false) (signalled : Bool) :
    (r.look signalled).effort < r.effort := by
  have hbefore : r.effort = 4 * r.rest.length + 1 := by rw [effort, looking]
  rcases look_cases looking once signalled with ⟨-, heq⟩ | ⟨-, heq⟩ <;> rw [heq, hbefore]
  · exact Nat.lt_succ_self _
  · exact Nat.succ_pos _

theorem effort_of_offer? {payload : Bytes} (offered : r.offer? = some payload) :
    r.effort = 4 * r.rest.tail.length + 4 := by
  have hstage : r.stage = .offering := by
    unfold offer? at offered
    split at offered
    · assumption
    · cases offered
  rw [effort, hstage, rest_of_offer? offered]
  rfl

end Reader

namespace Run

/-- More moves are not left. -/
def effort (r : Run) : Nat :=
  r.reader.effort + 2 * r.queue.items.length + total (r.workers.map Worker.effort)

/-- What keeps a replay going that goes through its payloads once. -/
structure Live (r : Run) : Prop where
  once : r.reader.looping = false
  offers : r.reader.stage = .offering → r.reader.rest ≠ []
  roomy : 0 < r.queue.capacity
  manned : r.queue.isOpen = true → ∃ w ∈ r.workers, w.stage ≠ .stopped

variable {net : Network} {config : Config} {r r' : Run} {m : Move} {e? : Option Event} {i : Nat}
  {w w' : Worker}

theorem Live.start (once : config.looping = false) (workers : 0 < config.workers) (table : Table) :
    Live (Run.start config (.ok table)) where
  once := once
  offers := nofun
  roomy := Nat.succ_pos _
  manned _ := by
    have hmem : 0 ∈ List.range config.workers.toNat := List.mem_range.2 workers
    exact ⟨_, List.mem_map.2 ⟨0, hmem, rfl⟩, nofun⟩

theorem Live.set (h : Live r) (hw : r.workers[i]? = some w) (awake : w'.stage ≠ .stopped)
    (items : List Bytes) :
    Live { r with queue := { r.queue with items }, workers := r.workers.set i w' } where
  once := h.once
  offers := h.offers
  roomy := h.roomy
  manned _ := ⟨w', List.mem_set (List.getElem?_eq_some_iff.1 hw).1 w', awake⟩

theorem Live.stop (h : Live r) (i : Nat) (w : Worker) : Live (r.stop i w) where
  once := h.once
  offers := h.offers
  roomy := by
    simp only [Run.stop]
    split <;> exact h.roomy
  manned isOpen := by
    simp only [Run.stop] at isOpen ⊢
    split at isOpen
    · cases isOpen
    · rename_i some
      simpa using some

theorem Live.step (h : Live r) (hc : Change net config r m e? r') : Live r' := by
  cases hc with
  | signal => exact { h with }
  | look looking =>
    rcases Reader.look_cases looking h.once r.signalled with ⟨more, heq⟩ | ⟨-, heq⟩ <;> rw [heq]
    · exact { h with offers := fun _ => more }
    · exact { h with offers := nofun }
  | offer offered isOpen => exact { h with offers := nofun }
  | refuse offered closed => exact { h with offers := nofun }
  | take t hw waiting first => exact { h.set hw (by simp) _ with }
  | sent a hw holding stamped answer accepted => exact { h.set hw (by simp) r.queue.items with }
  | @failed w _ metrics failure a hw holding stamped answer failed =>
    have hlive : Live { r with metrics, sends := r.sends + 1 } := { h with }
    exact hlive.stop _ _
  | quit hw waiting signalled => exact h.stop _ _
  | finish hw waiting empty done => exact h.stop _ _

theorem effort_set_lt (hw : r.workers[i]? = some w) (items : List Bytes)
    (less : 2 * items.length + w'.effort < 2 * r.queue.items.length + w.effort) :
    effort { r with queue := { r.queue with items }, workers := r.workers.set i w' } < r.effort := by
  have hworkers := total_map_set hw Worker.effort w'
  simp only [effort]
  omega

theorem effort_stop_lt (hw : r.workers[i]? = some w) (awake : w.stage ≠ .stopped) (w' : Worker) :
    (r.stop i w').effort < r.effort := by
  have hbusy : 0 < w.effort := by
    unfold Worker.effort
    split
    · exact Nat.one_pos
    · exact Nat.two_pos
    · contradiction
  have hstop : (r.stop i w').effort =
      effort { r with workers := r.workers.set i { w' with stage := .stopped } } := by
    rw [effort, items_stop]
    rfl
  rw [hstop]
  exact effort_set_lt hw _ (Nat.add_lt_add_left hbusy _)

theorem Change.effort_lt (hc : Change net config r m e? r') (h : Live r) (hm : m ≠ .signal) :
    r'.effort < r.effort := by
  cases hc with
  | signal => exact absurd rfl hm
  | look looking =>
    have hreader := Reader.effort_look_lt looking h.once r.signalled
    simp only [effort]
    omega
  | offer offered isOpen =>
    have hbefore := Reader.effort_of_offer? offered
    have hafter : r.reader.accepted.effort = 4 * r.reader.rest.tail.length + 1 := rfl
    simp only [effort, List.length_append, List.length_singleton]
    omega
  | refuse offered closed =>
    have hbefore := Reader.effort_of_offer? offered
    have hafter : r.reader.stop.effort = 0 := rfl
    simp only [effort]
    omega
  | take t hw waiting first =>
    refine effort_set_lt hw _ ?_
    simp only [Worker.effort, waiting, first, List.length_cons]
    omega
  | sent a hw holding stamped answer accepted =>
    refine effort_set_lt hw r.queue.items ?_
    simp only [Worker.effort, holding]
    omega
  | @failed w _ metrics failure a hw holding stamped answer failed =>
    exact effort_stop_lt (r := { r with metrics, sends := r.sends + 1 }) hw (by simp [holding]) _
  | quit hw waiting signalled => exact effort_stop_lt hw (by simp [waiting]) _
  | finish hw waiting empty done => exact effort_stop_lt hw (by simp [waiting]) _

/-! ## Going on -/

theorem exists_step_of_awake (net : Network) (config : Config) (hw : r.workers[i]? = some w)
    (awake : w.stage ≠ .stopped) (ready : r.queue.items ≠ [] ∨ r.reader.stage = .done) :
    ∃ m, m ≠ .signal ∧ (r.step net config m).isSome = true := by
  cases hstage : w.stage with
  | stopped => exact absurd hstage awake
  | holding payload => exact ⟨.send i 0, by simp, by simp [step, hw, hstage]⟩
  | waiting =>
    cases hitems : r.queue.items with
    | nil =>
      have done : r.reader.stage = .done := ready.resolve_left (absurd hitems)
      exact ⟨.finish i, by simp, by simp [step, hw, hstage, hitems, done, Queue.isEmpty]⟩
    | cons payload items =>
      exact ⟨.take i, by simp, by simp [step, hw, hstage, hitems, Queue.pop?]⟩

theorem Live.exists_step (h : Live r) (net : Network) (config : Config)
    (unfinished : r.isFinished = false) :
    ∃ m, m ≠ .signal ∧ (r.step net config m).isSome = true := by
  cases hstage : r.reader.stage with
  | looking => exact ⟨.look, by simp, by simp [Run.step, hstage]⟩
  | offering =>
    obtain ⟨payload, rest, hrest⟩ := List.exists_cons_of_ne_nil (h.offers hstage)
    have offered : r.reader.offer? = some payload := by simp [Reader.offer?, hstage, hrest]
    cases isOpen : r.queue.isOpen with
    | false => exact ⟨.offer, by simp, by simp [Run.step, offered, isOpen]⟩
    | true =>
      by_cases room : r.queue.items.length < r.queue.capacity
      · exact ⟨.offer, by simp, by simp [Run.step, offered, isOpen, Queue.push?, room]⟩
      · -- The queue is full, so there is something to take for a worker that is still there.
        have full : r.queue.items ≠ [] := fun none => by
          have := h.roomy
          simp [none] at room
          omega
        obtain ⟨w, hmem, awake⟩ := h.manned isOpen
        obtain ⟨i, hw⟩ := List.getElem?_of_mem hmem
        exact exists_step_of_awake net config hw awake (.inl full)
  | done =>
    obtain ⟨w, hmem, awake⟩ : ∃ w ∈ r.workers, w.stage ≠ .stopped := by
      simpa [isFinished, hstage] using unfinished
    obtain ⟨i, hw⟩ := List.getElem?_of_mem hmem
    exact exists_step_of_awake net config hw awake (.inr hstage)

theorem Live.steps (h : Live r) (moves : List Move) : Live (r.steps net config moves) :=
  foldl_induction (fun _ _ _ _ h hs => h.step (change_of_step hs)) h

theorem Live.exists_finish (h : Live r) :
    ∃ moves, .signal ∉ moves ∧ (r.steps net config moves).isFinished = true := by
  have advance : ∀ r : Run, Live r → ¬ r.isFinished = true →
      ∃ m r', m ≠ .signal ∧ r.step net config m = some r' ∧ Live r' ∧ r'.effort < r.effort := by
    intro r h unfinished
    obtain ⟨m, hm, enabled⟩ := h.exists_step net config (Bool.eq_false_iff.2 unfinished)
    obtain ⟨r', hs⟩ := Option.isSome_iff_exists.1 enabled
    have hc := change_of_step hs
    exact ⟨m, r', hm, hs, h.step hc, hc.effort_lt h hm⟩
  obtain ⟨moves, hmoves, -, finished⟩ := exists_reaching effort advance h
  exact ⟨moves, fun signal => hmoves _ signal rfl, finished⟩

end Run

end FlowTraffic.Sender.Replay
