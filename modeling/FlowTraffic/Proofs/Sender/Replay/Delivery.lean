import FlowTraffic.Proofs.Sender.Replay.Moves
import Mathlib.Data.List.Basic

/-!
# What a replay sends

However the reader and the workers of a replay take turns, and whatever fails, the payloads that were
taken, those in the queue and those that are left to the reader are at any time the payloads of the store,
in their order (`Sound.underWay`).
-/

namespace FlowTraffic.Sender.Replay

namespace Run

/-! ## What every move keeps -/

/-- What holds of a replay of some payloads that is to go through them once. -/
structure Sound (config : Config) (payloads : List Bytes) (log : List Event) (r : Run) : Prop where
  pool : Pool config.workers.toNat log r.workers
  once : r.reader.looping = false
  trouble : r.trouble = none
  /-- No payload is lost or comes up again. -/
  underWay : (takesIn log).map (·.payload) ++ r.queue.items ++ r.reader.rest = payloads
  closed : r.queue.isOpen = false → ∀ w ∈ r.workers, w.stage = .stopped
  read : r.reader.stage = .done →
    r.reader.rest = [] ∨ r.signalled = true ∨ r.queue.isOpen = false
  left : ∀ (i : Nat) (w : Worker), r.workers[i]? = some w → w.stage = .stopped →
    (∃ a ∈ attemptsOf i log, a.accepted = false) ∨ r.signalled = true ∨
      r.queue.items = [] ∧ r.reader.rest = []
  reports : r.reports.Perm ((r.workers.filter (·.stage = .stopped)).map Worker.report)

section

variable {net : Network} {config : Config} {payloads : List Bytes} {log : List Event} {r r' : Run}
  {m : Move} {i : Nat} {w w' : Worker}

theorem Sound.start (once : config.looping = false) (table : Table) :
    Sound config table.values [] (Run.start config (.ok table)) where
  pool := .start _
  once := once
  trouble := rfl
  underWay := rfl
  closed := nofun
  read := nofun
  left i w hw hstopped := by
    obtain ⟨j, -, rfl⟩ := List.mem_map.1 (List.mem_of_getElem? hw)
    cases hstopped
  reports := by simp [Run.start]

theorem Sound.isOpen (h : Sound config payloads log r) (hw : r.workers[i]? = some w)
    (awake : w.stage ≠ .stopped) : r.queue.isOpen = true := by
  cases hopen : r.queue.isOpen
  · exact absurd (h.closed hopen w (List.mem_of_getElem? hw)) awake
  · rfl

theorem Sound.signal (h : Sound config payloads log r) :
    Sound config payloads log { r with signalled := true } :=
  { h with
    read := fun _ => .inr (.inl rfl)
    left := fun _ _ _ _ => .inr (.inl rfl) }

theorem Sound.look (h : Sound config payloads log r) (looking : r.reader.stage = .looking) :
    Sound config payloads log { r with reader := r.reader.look r.signalled } := by
  rcases Reader.look_cases looking h.once r.signalled with ⟨-, heq⟩ | ⟨why, heq⟩
  · rw [heq]
    exact { h with read := nofun }
  · rw [heq]
    exact { h with read := fun _ => why.imp_right .inl }

theorem Sound.offer (h : Sound config payloads log r) {payload : Bytes}
    (offered : r.reader.offer? = some payload) :
    Sound config payloads log { r with
      queue := { r.queue with items := r.queue.items ++ [payload] }, reader := r.reader.accepted } := by
  have hrest := Reader.rest_of_offer? offered
  refine { h with read := nofun, underWay := ?_, left := fun j v hv hstopped => ?_ }
  · rw [← h.underWay, hrest]
    simp [Reader.accepted]
  · refine (h.left j v hv hstopped).imp_right (Or.imp_right fun spent => ?_)
    rw [spent.2] at hrest
    cases hrest

theorem Sound.refuse (h : Sound config payloads log r) (closed : r.queue.isOpen = false) :
    Sound config payloads log { r with reader := r.reader.stop } :=
  { h with read := fun _ => .inr (.inr closed) }

theorem Sound.goOn (h : Sound config payloads log r) (hw : r.workers[i]? = some w)
    (awake : w.stage ≠ .stopped) (awake' : w'.stage ≠ .stopped) (e : Event) (mine : e.worker = i)
    (success : e.isFailure = false) (hid : w'.id = w.id)
    (htells : w'.Tells (takesOf i (log ++ [e])) (attemptsOf i (log ++ [e]))) {items : List Bytes}
    (hitems : r.queue.items = (takesIn [e]).map (·.payload) ++ items) :
    Sound config payloads (log ++ [e]) { r with
      queue := { r.queue with items }, workers := r.workers.set i w' } where
  pool := by
    refine h.pool.set hw awake (some e) ?_ hid htells ?_
    · rintro _ ⟨⟩
      exact mine
    · rintro _ ⟨⟩
      simp [success]
  once := h.once
  trouble := h.trouble
  underWay := by
    rw [← h.underWay, hitems]
    simp
  closed hclosed := by simp [h.isOpen hw awake] at hclosed
  read := h.read
  left j v hv hstopped := by
    rcases getElem?_set_cases hv with ⟨-, rfl⟩ | ⟨-, hv⟩
    · exact absurd hstopped awake'
    · rcases h.left j v hv hstopped with ⟨a, ha, failed⟩ | signalled | ⟨hqueue, hrest⟩
      · exact .inl ⟨a, by simp [ha], failed⟩
      · exact .inr (.inl signalled)
      · rw [hqueue] at hitems
        exact .inr (.inr ⟨(List.append_eq_nil_iff.1 hitems.symm).2, hrest⟩)
  reports := by
    rw [filter_set_of_not hw (decide_eq_false awake) (decide_eq_false awake')]
    exact h.reports

theorem Sound.stop (h : Sound config payloads log r) (hw : r.workers[i]? = some w)
    (awake : w.stage ≠ .stopped) (e? : Option Event) (mine : ∀ e ∈ e?, e.worker = i)
    (htakes : takesIn e?.toList = []) (hid : w'.id = w.id)
    (htells : Worker.Tells { w' with stage := .stopped } (takesOf i (log ++ e?.toList))
      (attemptsOf i (log ++ e?.toList)))
    (why : (∃ a ∈ attemptsOf i (log ++ e?.toList), a.accepted = false) ∨ r.signalled = true ∨
      r.queue.items = [] ∧ r.reader.rest = []) :
    Sound config payloads (log ++ e?.toList) (r.stop i w') :=
    { pool := h.pool.set hw awake e? mine hid htells fun _ _ _ => rfl
      once := h.once
      trouble := h.trouble
      underWay := by
        rw [← h.underWay, takesIn_append, htakes, List.append_nil, items_stop]
        rfl
      closed := fun hclosed => by
        simp only [Run.stop] at hclosed ⊢
        split at hclosed
        · rename_i all
          simpa using all
        · simp [h.isOpen hw awake] at hclosed
      read := fun hdone => (h.read hdone).imp_right (Or.imp_right fun hclosed => by
        simp [h.isOpen hw awake] at hclosed)
      left := fun j v hv hstopped => by
        rw [items_stop]
        rcases getElem?_set_cases hv with ⟨rfl, -⟩ | ⟨-, hv⟩
        · exact why
        · refine (h.left j v hv hstopped).imp_left fun ⟨a, ha, failed⟩ => ⟨a, ?_, failed⟩
          simp [ha]
      reports := by
        have hperm : ((r.workers.set i { w' with stage := .stopped }).filter (·.stage = .stopped)).Perm
            (r.workers.filter (·.stage = .stopped) ++ [{ w' with stage := .stopped }]) :=
          filter_set_perm hw (decide_eq_false awake) (decide_eq_true rfl)
        have hreports := (hperm.map Worker.report).symm
        rw [List.map_append] at hreports
        exact (h.reports.append_right _).trans hreports }

theorem Sound.take (h : Sound config payloads log r) (hw : r.workers[i]? = some w) {t : Take}
    (mine : t.worker = i) (waiting : w.stage = .waiting) {items : List Bytes}
    (first : r.queue.items = t.payload :: items) :
    Sound config payloads (log ++ [.take t]) { r with
      queue := { r.queue with items }
      workers := r.workers.set i
        { w with stage := .holding t.payload, taken := w.taken ++ [t.payload] } } := by
  have awake : w.stage ≠ .stopped := by simp [waiting]
  have idle : w.held = [] := by rw [Worker.held, waiting]
  refine h.goOn hw awake ?_ (.take t) mine rfl ?_ ?_ first
  · simp
  · rfl
  · rw [takesOf_concat_take mine, attemptsOf_concat_take]
    exact (h.pool.tells i w hw).take idle rfl rfl rfl rfl

theorem Sound.sent (h : Sound config payloads log r) (hw : r.workers[i]? = some w) {a : Attempt}
    (mine : a.worker = i) (holding : w.stage = .holding a.payload) (accepted : a.accepted = true) :
    Sound config payloads (log ++ [.attempt a]) { r with
      workers := r.workers.set i { w with
        sent := w.sent + { cycles := 1, bytes := a.datagram.length, packets := 1 }
        stage := .waiting } } := by
  have awake : w.stage ≠ .stopped := by simp [holding]
  have holds : w.held = [a.payload] := by rw [Worker.held, holding]
  refine h.goOn hw awake ?_ (.attempt a) mine (by simp [Event.isFailure, accepted]) ?_ ?_ rfl
  · simp
  · rfl
  · rw [takesOf_concat_attempt, attemptsOf_concat_attempt mine]
    exact (h.pool.tells i w hw).attempt holds rfl rfl (if_pos accepted).symm (⟨·, accepted⟩)

theorem Sound.failed (h : Sound config payloads log r) (hw : r.workers[i]? = some w) {a : Attempt}
    (mine : a.worker = i) (holding : w.stage = .holding a.payload) (failed : a.accepted = false)
    (why : TransportError) :
    Sound config payloads (log ++ [.attempt a]) (r.stop i { w with failure := some why }) := by
  have awake : w.stage ≠ .stopped := by simp [holding]
  have holds : w.held = [a.payload] := by rw [Worker.held, holding]
  have hattempts : attemptsOf i (log ++ [.attempt a]) = attemptsOf i log ++ [a] :=
    attemptsOf_concat_attempt mine
  refine h.stop hw awake (some (.attempt a)) ?_ rfl rfl ?_ (.inl ⟨a, ?_, failed⟩)
  · rintro _ ⟨⟩
    exact mine
  · rw [Option.toList_some, takesOf_concat_attempt, hattempts]
    exact (h.pool.tells i w hw).attempt holds rfl rfl (by simp [failed]) (by simp)
  · rw [Option.toList_some, hattempts]
    exact List.mem_concat_self

theorem Sound.leave (h : Sound config payloads log r) (hw : r.workers[i]? = some w)
    (waiting : w.stage = .waiting)
    (why : r.signalled = true ∨ r.queue.items = [] ∧ r.reader.rest = []) :
    Sound config payloads log (r.stop i w) := by
  have awake : w.stage ≠ .stopped := by simp [waiting]
  have idle : w.held = [] := by rw [Worker.held, waiting]
  have hstop : Sound config payloads (log ++ Option.toList none) (r.stop i w) := by
    refine h.stop hw awake none (by simp) rfl rfl ?_ (.inr why)
    obtain ⟨htaken, htakes, hsent, fine⟩ := h.pool.tells i w hw
    rw [idle] at htakes
    rw [Option.toList_none, List.append_nil]
    exact ⟨htaken, htakes, hsent, fine⟩
  simpa using hstop

theorem Sound.step {e? : Option Event} (h : Sound config payloads log r) (hc : r.Change net config m e? r') :
    Sound config payloads (log ++ e?.toList) r' := by
  cases hc with
  | signal => simpa using h.signal
  | look looking => simpa using h.look looking
  | offer offered isOpen => simpa using h.offer offered
  | refuse offered closed => simpa using h.refuse closed
  | take t hw waiting first => exact { h.take hw rfl waiting first with }
  | sent a hw holding stamped answer accepted => exact { h.sent hw rfl holding accepted with }
  | @failed w _ metrics why a hw holding stamped answer failed =>
    have hsound : Sound config payloads log { r with metrics, sends := r.sends + 1 } := { h with }
    exact hsound.failed hw rfl holding failed why
  | quit hw waiting signalled => simpa using h.leave hw waiting (.inl signalled)
  | @finish i w hw waiting empty done =>
    have why : r.signalled = true ∨ r.queue.items = [] ∧ r.reader.rest = [] := by
      rcases h.read done with hrest | signalled | closed
      · exact .inr ⟨empty, hrest⟩
      · exact .inl signalled
      · simp [h.isOpen hw (by simp [waiting])] at closed
    simpa using h.leave hw waiting why

theorem Sound.steps (h : Sound config payloads [] r) (moves : List Move) :
    Sound config payloads (r.events net config moves) (r.steps net config moves) :=
  observe_induction (P := Sound config payloads) (fun _ _ _ _ h hs => h.step (change_of_step hs)) h moves

/-! ## What goes out -/

/-- What is seen of a replay is what has happened to its queue and to the network. -/
structure Sent (net : Network) (config : Config) (log : List Event) (r : Run) : Prop where
  taken : r.taken = (takesIn log).map (·.payload)
  sends : r.sends = (attemptsIn log).length
  delivered : r.delivered = deliveredIn log
  /-- Every attempt is one send of a payload, and the network's answer to it. -/
  answers : ∀ k a, (attemptsIn log)[k]? = some a →
    (net.send k config.target a.datagram.length).isOk = a.accepted ∧
      ∃ unixSecs, a.datagram = config.datagram unixSecs a.payload

theorem Sent.start (net : Network) (config : Config) (contents : Except StoreError Table) :
    Sent net config [] (Run.start config contents) where
  taken := rfl
  sends := rfl
  delivered := rfl
  answers := nofun

theorem Sent.quiet (h : Sent net config log r) {e? : Option Event} (none : attemptsIn e?.toList = [])
    (taken : r'.taken = r.taken ++ (takesIn e?.toList).map (·.payload))
    (sends : r'.sends = r.sends) (delivered : r'.delivered = r.delivered) :
    Sent net config (log ++ e?.toList) r' where
  taken := by rw [taken, h.taken, takesIn_append, List.map_append]
  sends := by rw [sends, attemptsIn_append, none, List.append_nil, h.sends]
  delivered := by
    have nothing : deliveredIn e?.toList = [] := by rw [deliveredIn, none]; rfl
    rw [delivered, deliveredIn_append, nothing, List.append_nil, h.delivered]
  answers := by
    rw [attemptsIn_append, none, List.append_nil]
    exact h.answers

theorem Sent.attempt (h : Sent net config log r) {a : Attempt} {unixSecs : UInt32}
    (stamped : a.datagram = config.datagram unixSecs a.payload)
    (answer : (net.send r.sends config.target a.datagram.length).isOk = a.accepted)
    (taken : r'.taken = r.taken) (sends : r'.sends = r.sends + 1)
    (delivered : r'.delivered = r.delivered ++ if a.accepted then [a.datagram] else []) :
    Sent net config (log ++ [.attempt a]) r' where
  taken := by simp [taken, h.taken, takesIn, Event.take?]
  sends := by
    rw [sends, attemptsIn_append, List.length_append, h.sends]
    rfl
  delivered := by
    rw [delivered, deliveredIn_append, h.delivered]
    cases haccepted : a.accepted <;> simp [deliveredIn, attemptsIn, Event.attempt?, haccepted]
  answers k b hb := by
    have hlog : attemptsIn (log ++ [.attempt a]) = attemptsIn log ++ [a] := attemptsIn_append
    rw [hlog, getElem?_concat, ← h.sends] at hb
    split at hb
    · cases hb
      subst k
      exact ⟨answer, unixSecs, stamped⟩
    · exact h.answers k b hb

theorem Sent.step {e? : Option Event} (h : Sent net config log r) (hc : r.Change net config m e? r') :
    Sent net config (log ++ e?.toList) r' := by
  cases hc with
  | take => exact h.quiet rfl rfl rfl rfl
  | signal | look | offer | refuse | quit | finish => exact h.quiet rfl (List.append_nil _).symm rfl rfl
  | sent a hw holding stamped answer accepted =>
    exact h.attempt stamped answer rfl rfl (by simp [accepted])
  | failed a hw holding stamped answer failed =>
    exact h.attempt stamped answer rfl rfl (by simp [failed, stop])

theorem Sent.steps (h : Sent net config [] r) (moves : List Move) :
    Sent net config (r.events net config moves) (r.steps net config moves) :=
  observe_induction (P := Sent net config) (fun _ _ _ _ h hs => h.step (change_of_step hs)) h moves

end

end Run

end FlowTraffic.Sender.Replay
