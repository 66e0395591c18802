import FlowTraffic.Proofs.Sender.Barrage.Moves
import FlowTraffic.Proofs.Snapshots

/-!
# What a worker delivers

At any time of a barrage, what a worker has delivered are packets of its exporter, in their order and
without a gap, and its counters are those of these packets (`Worker.Tells`). A worker whose attempt fails
counts nothing for it and makes no other.
-/

namespace FlowTraffic.Sender.Barrage

open Netflow

/-! ## Packets in their order -/

/-- What one worker delivers: the template first, then templates and data packets of 100 records in any
order, numbered without a gap. -/
structure Course (s : Schema) (source : UInt32) (ps : List Packet) : Prop where
  first : ∀ p ∈ ps.head?, p.Announces s
  kinds : ∀ p ∈ ps, p.Announces s ∨ p.Carries s 100
  numbers : ps.map (·.header.sequence) = (List.range ps.length).map packetNumber
  source : ∀ p ∈ ps, p.header.sourceId = source

/-- What packets come to. A cycle is a packet of records. -/
def amountsOf (ps : List Packet) : Amounts where
  flows := total (ps.map (·.header.flowCount.toNat))
  cycles := ps.countP fun p => !p.dataSets.isEmpty
  bytes := total (ps.map (·.encode.length))
  packets := ps.length

section

variable {s : Schema} {source : UInt32} {ps : List Packet} {p : Packet}

theorem Course.nil : Course s source [] := ⟨by simp, by simp, rfl, by simp⟩

theorem Course.concat (h : Course s source ps) (kind : p.Announces s ∨ p.Carries s 100)
    (first : ps = [] → p.Announces s) (number : p.header.sequence = packetNumber ps.length)
    (hsource : p.header.sourceId = source) : Course s source (ps ++ [p]) where
  first q hq := by
    cases ps with
    | nil =>
      cases hq
      exact first rfl
    | cons p' ps => exact h.first q hq
  kinds := by
    rw [List.forall_mem_append, List.forall_mem_singleton]
    exact ⟨h.kinds, kind⟩
  numbers := numbers_concat h.numbers number
  source := by
    rw [List.forall_mem_append, List.forall_mem_singleton]
    exact ⟨h.source, hsource⟩

theorem Course.parseAll_eq (h : Course s source ps) :
    Packet.parseAll .empty (ps.map Packet.encode) = ps.map .ok :=
  Packet.parseAll_of_announced (fun p hp => (h.kinds p hp).elim (·.isOf) (·.isOf)) h.first

theorem amountsOf_concat (kind : p.Announces s ∨ p.Carries s 100) :
    amountsOf (ps ++ [p]) = amountsOf ps + Worker.amounts p := by
  have cycle : [p].countP (fun p => !p.dataSets.isEmpty) = p.dataSets.length := by
    rcases kind with announces | carries
    · rw [announces.dataSets]
      simp [announces.dataSets]
    · obtain ⟨set, hset, -⟩ := carries.dataSets
      simp [hset]
  unfold amountsOf
  rw [List.map_append, List.map_append, total_append, total_append, List.countP_append, cycle,
    List.length_append]
  rfl

end

/-! ## One worker -/

namespace Worker

/-- What a worker's state tells of its attempts, where the delivered ones were these packets. -/
structure Tells (config : Config) (w : Worker) (own : List Attempt) (ps : List Packet) : Prop where
  profile : w.exporter.profile = config.profile
  delivered : w.delivered = ps.map Packet.encode
  accepted : (own.filter (·.accepted)).map (·.datagram) = w.delivered
  course : Course config.traffic.schema w.exporter.sourceId ps
  sent : w.sent = amountsOf ps
  next : w.stage ≠ .stopped → w.exporter.sequence = latestNumber ps.length
  begun : ps = [] → w.stage ≠ .running
  fine : w.stage ≠ .stopped → ∀ a ∈ own, a.accepted = true
  ordered : ∀ a ∈ own.dropLast, a.accepted = true

variable {config : Config} {w : Worker} {own : List Attempt} {ps : List Packet} {p : Packet}
  {exporter : Exporter} {a : Attempt}

theorem Tells.ordered_concat (h : Tells config w own ps) (awake : w.stage ≠ .stopped) (a : Attempt) :
    ∀ b ∈ (own ++ [a]).dropLast, b.accepted = true := by
  rw [List.dropLast_concat]
  exact h.fine awake

theorem Tells.kind (h : Tells config w own ps) (makes : w.Makes p exporter) :
    p.Announces config.traffic.schema ∨ p.Carries config.traffic.schema 100 := by
  have kind := makes.kind
  rw [h.profile] at kind
  exact kind

theorem Tells.sends (h : Tells config w own ps) (makes : w.Makes p exporter)
    (datagram : a.datagram = p.encode) (accepted : a.accepted = true) (words : Words)
    (refreshed : Bool) :
    Tells config (w.attempted p exporter words refreshed (.ok ())) (own ++ [a]) (ps ++ [p]) where
  profile := makes.made.profile.trans h.profile
  delivered := by
    rw [List.map_append, List.map_singleton, ← h.delivered]
    rfl
  accepted := by
    rw [List.filter_append, List.map_append, h.accepted]
    simp [accepted, datagram, attempted, tell]
  course := by
    have number : p.header.sequence = packetNumber ps.length := by
      rw [makes.made.number, h.next makes.awake, nextSequence_latestNumber]
    have first : ps = [] → p.Announces config.traffic.schema := by
      intro none
      have starting : w.stage = .starting := by
        cases hstage : w.stage with
        | starting => rfl
        | running => exact absurd hstage (h.begun none)
        | stopped => exact absurd hstage makes.awake
      have announces := makes.first starting
      rw [h.profile] at announces
      exact announces
    have course := h.course.concat (h.kind makes) first number makes.made.source
    rw [← makes.made.sourceId] at course
    exact course
  sent := by
    rw [amountsOf_concat (h.kind makes), ← h.sent]
    rfl
  next _ := by
    rw [List.length_append, List.length_singleton]
    show exporter.sequence = packetNumber ps.length
    rw [makes.made.sequence, h.next makes.awake, nextSequence_latestNumber]
  begun none := by simp at none
  fine _ := by
    rw [List.forall_mem_append, List.forall_mem_singleton]
    exact ⟨h.fine makes.awake, accepted⟩
  ordered := h.ordered_concat makes.awake a

theorem Tells.fails (h : Tells config w own ps) (makes : w.Makes p exporter)
    (failed : a.accepted = false) (words : Words) (refreshed : Bool) (why : TransportError) :
    Tells config (w.attempted p exporter words refreshed (.error why)) (own ++ [a]) ps where
  profile := makes.made.profile.trans h.profile
  delivered := h.delivered
  accepted := by
    rw [List.filter_append, List.map_append, h.accepted]
    simp [failed, attempted, tell]
  course := by
    have course := h.course
    rw [← makes.made.sourceId] at course
    exact course
  sent := h.sent
  next awake := absurd rfl awake
  begun _ := nofun
  fine awake := absurd rfl awake
  ordered := h.ordered_concat makes.awake a

theorem Tells.leave (h : Tells config w own ps) (pending : Option WorkerReport) :
    Tells config { w with stage := .stopped, pending } own ps :=
  { h with
    next := fun awake => absurd rfl awake
    begun := fun _ => nofun
    fine := fun awake => absurd rfl awake }

theorem Tells.attempt (h : Tells config w own ps) (makes : w.Makes p exporter)
    (datagram : a.datagram = p.encode) {result : Except TransportError Unit}
    (accepted : a.accepted = result.isOk) (words : Words) (refreshed : Bool) :
    ∃ ps', Tells config (w.attempted p exporter words refreshed result) (own ++ [a]) ps' := by
  cases result with
  | ok => exact ⟨_, h.sends makes datagram accepted words refreshed⟩
  | error why => exact ⟨_, h.fails makes accepted words refreshed why⟩

end Worker

/-! ## All workers -/

/-- What holds of the workers of a barrage after what was seen of it. -/
structure Sound (config : Config) (log : List Event) (ws : List Worker) : Prop where
  ids : ws.map (·.id) = workerIds config.workers.toNat
  tells : ∀ (i : Nat) (w : Worker), ws[i]? = some w → ∃ ps, w.Tells config (attemptsOf i log) ps
  left : ∀ (i : Nat) (w : Worker), ws[i]? = some w →
    (w.stage = .stopped ↔ (∃ a ∈ attemptsOf i log, a.accepted = false) ∨ .shutdown i ∈ log)

namespace Sound

variable {config : Config} {log : List Event} {ws : List Worker} {i : Nat} {w w' : Worker}

theorem shutdown_mem_concat_iff {e? : Option Event} (other : ∀ e ∈ e?, e.worker ≠ i) :
    .shutdown i ∈ log ++ e?.toList ↔ .shutdown i ∈ log := by
  rw [List.mem_append, Option.mem_toList]
  exact or_iff_left fun he => other _ he rfl

theorem set (h : Sound config log ws) (hw : ws[i]? = some w) (hid : w'.id = w.id) {e? : Option Event}
    (mine : ∀ e ∈ e?, e.worker = i)
    (tells : ∃ ps, w'.Tells config (attemptsOf i (log ++ e?.toList)) ps)
    (left : w'.stage = .stopped ↔
      (∃ a ∈ attemptsOf i (log ++ e?.toList), a.accepted = false) ∨ .shutdown i ∈ log ++ e?.toList) :
    Sound config (log ++ e?.toList) (ws.set i w') where
  ids := (map_set_of_eq hw hid).trans h.ids
  tells j v hv := by
    rcases getElem?_set_cases hv with ⟨rfl, rfl⟩ | ⟨hj, hv⟩
    · exact tells
    · rw [attemptsOf_append_other fun e he => mine e he ▸ Ne.symm hj]
      exact h.tells j v hv
  left j v hv := by
    rcases getElem?_set_cases hv with ⟨rfl, rfl⟩ | ⟨hj, hv⟩
    · exact left
    · have other : ∀ e ∈ e?, e.worker ≠ j := fun e he => mine e he ▸ Ne.symm hj
      rw [attemptsOf_append_other other, shutdown_mem_concat_iff other]
      exact h.left j v hv

theorem of_awake (h : Sound config log ws) (hw : ws[i]? = some w) (awake : w.stage ≠ .stopped) :
    ¬ ((∃ a ∈ attemptsOf i log, a.accepted = false) ∨ .shutdown i ∈ log) :=
  fun why => awake ((h.left i w hw).2 why)

theorem attempt (h : Sound config log ws) {a : Attempt} (hw : ws[a.worker]? = some w) {p : Packet}
    {exporter : Exporter} (makes : w.Makes p exporter) (datagram : a.datagram = p.encode)
    {result : Except TransportError Unit} (accepted : a.accepted = result.isOk) (words : Words)
    (refreshed : Bool) :
    Sound config (log ++ [.attempt a])
      (ws.set a.worker (w.attempted p exporter words refreshed result)) := by
  obtain ⟨ps, tells⟩ := h.tells a.worker w hw
  have own := attemptsOf_concat_attempt (i := a.worker) rfl log
  have quiet := h.of_awake hw makes.awake
  have stops : (w.attempted p exporter words refreshed result).stage = .stopped ↔
      a.accepted = false := by
    rw [accepted]
    cases result with
    | ok => exact ⟨nofun, nofun⟩
    | error why => exact ⟨fun _ => rfl, fun _ => rfl⟩
  have unseen : Event.shutdown a.worker ∉ log ++ [.attempt a] := by
    simpa using fun hmem => quiet (.inr hmem)
  have hid : (w.attempted p exporter words refreshed result).id = w.id := by cases result <;> rfl
  have mine : ∀ e ∈ some (Event.attempt a), e.worker = a.worker := by
    rintro _ ⟨⟩
    rfl
  refine h.set hw hid mine ?_ ?_
  · rw [Option.toList_some, own]
    exact tells.attempt makes datagram accepted words refreshed
  · -- None has failed before, so a failure can only be this one.
    rw [Option.toList_some, own, stops, or_iff_left unseen]
    constructor
    · intro failed
      exact ⟨a, List.mem_concat_self, failed⟩
    · rintro ⟨b, hb, failed⟩
      rcases List.mem_append.1 hb with hb | hb
      · exact absurd (.inl ⟨b, hb, failed⟩) quiet
      · rwa [List.mem_singleton.1 hb] at failed

theorem shutdown (h : Sound config log ws) (hw : ws[i]? = some w) (pending : Option WorkerReport) :
    Sound config (log ++ [.shutdown i]) (ws.set i { w with stage := .stopped, pending }) := by
  obtain ⟨ps, tells⟩ := h.tells i w hw
  have mine : ∀ e ∈ some (Event.shutdown i), e.worker = i := by
    rintro _ ⟨⟩
    rfl
  have told : Worker.Tells config { w with stage := .stopped, pending }
      (attemptsOf i (log ++ [.shutdown i])) ps := by
    rw [attemptsOf_concat_shutdown]
    exact tells.leave pending
  have hid : { w with stage := .stopped, pending }.id = w.id := rfl
  exact h.set hw hid mine ⟨ps, told⟩ ⟨fun _ => .inr List.mem_concat_self, fun _ => rfl⟩

theorem report (h : Sound config log ws) (hw : ws[i]? = some w) :
    Sound config log (ws.set i { w with pending := none }) := by
  obtain ⟨ps, tells⟩ := h.tells i w hw
  have left := h.left i w hw
  have told : Worker.Tells config { w with pending := none } (attemptsOf i log) ps := { tells with }
  have mine : ∀ e ∈ (none : Option Event), e.worker = i := by simp
  have hid : { w with pending := none }.id = w.id := rfl
  rw [← List.append_nil log] at told left ⊢
  exact h.set hw hid mine ⟨ps, told⟩ left

theorem step {net : Network} {r r' : Run} {m : Move} {e? : Option Event} (h : Sound config log r.workers)
    (hc : r.Change net config m e? r') : Sound config (log ++ e?.toList) r'.workers := by
  cases hc with
  | attempt a hw makes datagram accepted answer => exact h.attempt hw makes datagram accepted _ _
  | shutdown hw idle running => exact h.shutdown hw _
  | report hw pending =>
    rw [Option.toList_none, List.append_nil]
    exact h.report hw
  | collect first =>
    rw [Option.toList_none, List.append_nil]
    exact h

theorem steps {net : Network} {r : Run} (h : Sound config [] r.workers) (moves : List Move) :
    Sound config (r.events net config moves) (r.steps net config moves).workers :=
  observe_induction (P := fun log r => Sound config log r.workers)
    (fun _ _ _ _ h hs => h.step (Run.change_of_step hs)) h moves

end Sound

/-! ## What the network is asked -/

/-- Every attempt is one send, and the network's answer to it. -/
structure Sent (net : Network) (config : Config) (log : List Event) (r : Run) : Prop where
  sends : r.sends = (attemptsIn log).length
  answers : ∀ k a, (attemptsIn log)[k]? = some a →
    (net.send k config.target a.datagram.length).isOk = a.accepted

namespace Sent

variable {net : Network} {config : Config} {log : List Event} {r r' : Run} {m : Move}

theorem start (net : Network) (config : Config) (workers : List Worker) :
    Sent net config [] (Run.start config workers) where
  sends := rfl
  answers := nofun

theorem quiet (h : Sent net config log r) {e? : Option Event} (none : attemptsIn e?.toList = [])
    (sends : r'.sends = r.sends) : Sent net config (log ++ e?.toList) r' := by
  have hlog : attemptsIn (log ++ e?.toList) = attemptsIn log := by
    rw [attemptsIn, List.filterMap_append, ← attemptsIn, ← attemptsIn, none, List.append_nil]
  exact ⟨by rw [sends, hlog, h.sends], by rw [hlog]; exact h.answers⟩

theorem attempt (h : Sent net config log r) {a : Attempt}
    (answer : (net.send r.sends config.target a.datagram.length).isOk = a.accepted)
    (sends : r'.sends = r.sends + 1) : Sent net config (log ++ [.attempt a]) r' where
  sends := by
    rw [sends, attemptsIn_concat, List.length_append, h.sends]
    rfl
  answers k b hb := by
    have hlog : attemptsIn (log ++ [.attempt a]) = attemptsIn log ++ [a] := attemptsIn_concat log _
    rw [hlog, getElem?_concat, ← h.sends] at hb
    split at hb
    · cases hb
      subst k
      exact answer
    · exact h.answers k b hb

theorem step {e? : Option Event} (h : Sent net config log r) (hc : r.Change net config m e? r') :
    Sent net config (log ++ e?.toList) r' := by
  cases hc with
  | attempt a hw makes datagram accepted answer => exact h.attempt answer rfl
  | shutdown | report | collect => exact h.quiet rfl rfl

theorem steps (h : Sent net config [] r) (moves : List Move) :
    Sent net config (r.events net config moves) (r.steps net config moves) :=
  observe_induction (P := Sent net config) (fun _ _ _ _ h hs => h.step (Run.change_of_step hs)) h moves

end Sent

end FlowTraffic.Sender.Barrage
