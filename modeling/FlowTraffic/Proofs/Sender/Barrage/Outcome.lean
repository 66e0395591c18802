import FlowTraffic.Proofs.Random
import FlowTraffic.Proofs.Sender.Barrage.Delivery
import FlowTraffic.Proofs.Sender.Barrage.Progress
import FlowTraffic.Proofs.Sender.Barrage.Reports

/-!
# What a barrage comes to

A barrage that starts has as many workers as it was told, and none of them has done anything
(`eq_of_prepare`). From there on every worker counts what it delivers, and in the end the snapshot has the
counters of all of them (`counts_what_is_delivered`).
-/

namespace FlowTraffic.Sender.Barrage

open Netflow

/-! ## Getting ready -/

/-- A worker that has done nothing. -/
structure Worker.Fresh (config : Config) (w : Worker) : Prop where
  profile : w.exporter.profile = config.profile
  sequence : w.exporter.sequence = 0
  stage : w.stage = .starting
  sent : w.sent = {}
  delivered : w.delivered = []
  pending : w.pending = none

theorem fresh_of_recruit {net : Network} {config : Config} {id : Nat} {source : UInt32} {words : Words}
    {w : Worker} (h : recruit net config id source words = .ok w) :
    w.id = UInt32.ofNat id ∧ w.exporter.sourceId = source ∧ w.Fresh config := by
  unfold recruit at h
  generalize (Transport.bindSender net config.target none).run words = sender at h
  obtain ⟨bound, words'⟩ := sender
  cases bound with
  | error e => cases h
  | ok port =>
    cases hnew : Exporter.new config.profile source with
    | error e =>
      simp only [hnew] at h
      cases h
    | ok exporter =>
      simp only [hnew] at h
      cases h
      obtain ⟨profile, sourceId, sequence, -⟩ := Exporter.of_new hnew
      exact ⟨rfl, sourceId, profile, sequence, rfl, rfl, rfl, rfl⟩

theorem fresh_of_recruitAll {net : Network} {config : Config} {id : Nat}
    {sources : List (UInt32 × Words)} {ws : List Worker}
    (h : recruitAll net config id sources = .ok ws) :
    ws.map (·.id) = (List.range' id sources.length).map UInt32.ofNat ∧
      ws.map (·.exporter.sourceId) = sources.map (·.1) ∧ ∀ w ∈ ws, w.Fresh config := by
  induction sources generalizing id ws with
  | nil =>
    obtain rfl := Except.ok.inj h
    exact ⟨rfl, rfl, by simp⟩
  | cons source sources ih =>
    unfold recruitAll at h
    obtain ⟨w, hw, h⟩ := exists_of_bind h
    obtain ⟨ws, hws, h⟩ := exists_of_bind h
    obtain rfl := Except.ok.inj h
    obtain ⟨hid, hsource, fresh⟩ := fresh_of_recruit hw
    obtain ⟨ids, hsources, allFresh⟩ := ih hws
    refine ⟨?_, ?_, List.forall_mem_cons.2 ⟨fresh, allFresh⟩⟩
    · rw [List.map_cons, hid, ids, List.length_cons, List.range'_succ, List.map_cons]
    · rw [List.map_cons, hsource, hsources, List.map_cons]

theorem length_drawSources (fork : Draw Words) (fuel n : Nat) (taken : List UInt32) :
    (drawSources fork fuel n taken).Always fun drawn => ∀ sources ∈ drawn, sources.length = n := by
  induction n generalizing taken with
  | zero =>
    refine .pure ?_
    rintro _ ⟨⟩
    rfl
  | succ n ih =>
    unfold drawSources
    refine (Draw.always_true _).bind fun drawn _ => ?_
    cases drawn with
    | none => exact .pure nofun
    | some source =>
      refine (Draw.always_true _).bind fun words _ => (ih _).bind fun drawn hdrawn => ?_
      cases drawn with
      | none => exact .pure nofun
      | some later =>
        refine .pure ?_
        rintro _ ⟨⟩
        rw [List.length_cons, hdrawn later rfl]

theorem sources_of_prepare {net : Network} {shutdown : Shutdown.Watcher} {config : Config} {fuel : Nat}
    {fork : Draw Words} {words : Words} {start : Run}
    (ready : ((prepare net shutdown config fuel fork).run words).1 = some (.ok start)) :
    ∃ sources ws, (drawSources fork fuel config.workers.toNat [] words).1 = some sources ∧
      recruitAll net config 1 sources = .ok ws ∧ start = Run.start config ws := by
  unfold prepare at ready
  cases hcheck : config.check with
  | error e =>
    simp only [hcheck] at ready
    cases ready
  | ok =>
    simp only [hcheck] at ready
    rw [StateT.run, Draw.bind_apply] at ready
    cases hdrawn : (drawSources fork fuel config.workers.toNat [] words).1 with
    | none =>
      rw [hdrawn] at ready
      cases ready
    | some sources =>
      rw [hdrawn] at ready
      obtain ⟨ws, hws, ready⟩ := exists_of_bind (Option.some.inj ready)
      refine ⟨sources, ws, rfl, hws, ?_⟩
      cases hdashboard : config.dashboard with
      | none =>
        simp only [hdashboard] at ready
        obtain ⟨_, -, ready⟩ := exists_of_bind ready
        exact (Except.ok.inj ready).symm
      | some addr =>
        simp only [hdashboard] at ready
        obtain ⟨_, -, ready⟩ := exists_of_bind ready
        obtain ⟨_, -, ready⟩ := exists_of_bind ready
        obtain ⟨_, -, ready⟩ := exists_of_bind ready
        exact (Except.ok.inj ready).symm

theorem eq_of_prepare {net : Network} {shutdown : Shutdown.Watcher} {config : Config} {fuel : Nat}
    {fork : Draw Words} {words : Words} {start : Run}
    (ready : ((prepare net shutdown config fuel fork).run words).1 = some (.ok start)) :
    ∃ ws, start = Run.start config ws ∧ ws.map (·.id) = workerIds config.workers.toNat ∧
      ∀ w ∈ ws, w.Fresh config := by
  obtain ⟨sources, ws, hdrawn, hws, hstart⟩ := sources_of_prepare ready
  have hlength := length_drawSources fork fuel config.workers.toNat [] words
  obtain ⟨ids, -, fresh⟩ := fresh_of_recruitAll hws
  rw [hlength sources hdrawn] at ids
  refine ⟨ws, hstart, ?_, fresh⟩
  rw [ids, List.range'_eq_map_range, workerIds, List.map_map]
  exact List.map_congr_left fun i _ => congrArg UInt32.ofNat (Nat.add_comm 1 i)

namespace Worker.Fresh

variable {config : Config} {ws : List Worker} {w : Worker}

theorem tells (h : w.Fresh config) : w.Tells config [] [] where
  profile := h.profile
  delivered := h.delivered
  accepted := h.delivered.symm
  course := .nil
  sent := h.sent
  next _ := h.sequence
  begun _ := by simp [h.stage]
  fine := by simp
  ordered := by simp

theorem sound (ids : ws.map (·.id) = workerIds config.workers.toNat) (fresh : ∀ w ∈ ws, w.Fresh config) :
    Sound config [] ws where
  ids := ids
  tells _ w hw := ⟨[], (fresh w (List.mem_of_getElem? hw)).tells⟩
  left _ w hw := by simp [(fresh w (List.mem_of_getElem? hw)).stage, attemptsOf, attemptsIn]

theorem reported (ids : ws.map (·.id) = workerIds config.workers.toNat)
    (fresh : ∀ w ∈ ws, w.Fresh config) :
    Reported config.workers.toNat [] (Run.start config ws) where
  ids := ids
  snapshot := rfl
  known := by simp [Run.start]
  pending _ w hw := by simp [(fresh w (List.mem_of_getElem? hw)).pending]
  latest _ w hw := by simp [(fresh w (List.mem_of_getElem? hw)).stage]

end Worker.Fresh

/-! ## From start to end -/

/-- **A barrage counts what it delivers.** Over every row of moves, whatever the network refuses: what a worker
has delivered are packets that a collector reads one after the other, the template first, numbered without
a gap, and the counters of the worker are those of these packets. They are the datagrams that it tried to
send and that the network accepted. It has stopped if one of its own attempts has failed or it was told to,
and only then, and a failed attempt was its last. The barrage can always come to its end. Then the snapshot
has the counters of every worker and what they come to together. -/
theorem counts_what_is_delivered {net : Network} {shutdown : Shutdown.Watcher} {config : Config}
    {fuel : Nat} {fork : Draw Words} {words : Words} {start : Run}
    (ready : ((prepare net shutdown config fuel fork).run words).1 = some (.ok start))
    (moves : List Move) :
    let r := start.steps net config moves
    let log := start.events net config moves
    r.workers.map (·.id) = workerIds config.workers.toNat ∧
      (∀ (i : Nat) (w : Worker), r.workers[i]? = some w →
        (∃ ps, w.delivered = ps.map Packet.encode ∧
          Packet.parseAll .empty w.delivered = ps.map .ok ∧
          Course config.traffic.schema w.exporter.sourceId ps ∧ w.sent = amountsOf ps) ∧
        w.delivered = ((attemptsOf i log).filter (·.accepted)).map (·.datagram) ∧
        (w.stage = .stopped ↔
          (∃ a ∈ attemptsOf i log, a.accepted = false) ∨ .shutdown i ∈ log) ∧
        ∀ a ∈ (attemptsOf i log).dropLast, a.accepted = true) ∧
      (∀ k a, (attemptsIn log)[k]? = some a →
        (net.send k config.target a.datagram.length).isOk = a.accepted) ∧
      (∃ more, (r.steps net config more).isFinished = true) ∧
      (r.isFinished = true →
        r.snapshot.workers.entries = r.workers.map (fun w => (w.id, w.report)) ∧
        r.snapshot.totals = .sum (r.workers.map (·.sent))) := by
  intro r log
  obtain ⟨ws, rfl, ids, fresh⟩ := eq_of_prepare ready
  have sound : Sound config log r.workers := (Worker.Fresh.sound ids fresh).steps moves
  have live : r.Live := (Run.Live.start config ws).steps moves
  have hn : config.workers.toNat < UInt16.size := config.workers.toNat_lt
  obtain ⟨collected, reported⟩ := (Worker.Fresh.reported ids fresh).steps hn moves
  have sent : Sent net config log r := (Sent.start net config ws).steps moves
  refine ⟨sound.ids, ?_, sent.answers, live.exists_finish, reported.snapshot_eq hn⟩
  intro i w hw
  obtain ⟨ps, tells⟩ := sound.tells i w hw
  refine ⟨⟨ps, tells.delivered, ?_, tells.course, tells.sent⟩, tells.accepted.symm,
    sound.left i w hw, tells.ordered⟩
  rw [tells.delivered]
  exact tells.course.parseAll_eq

def pair : Config where
  target := { ip := .v4 (.ofOctets 127 0 0 1), port := 9995 }
  workers := 2
  delay := 1000

def failing : Network where
  send n _ _ := if n = 3 then .error .networkUnreachable else .ok ()

def pairWords : Words where
  word n := UInt32.ofNat (n * 1000003)

def pairStart? : Option Run := ((prepare failing {} pair 1 .seeded).run pairWords).1.bind Except.toOption

/-- The first worker sends its template, a packet of records and its template again. The second worker
sends its template, and fails when it comes to send it again. -/
def pairMoves : List Move :=
  [.tick 0 .start {}, .tick 1 .start {}, .tick 0 .pace {}, .tick 1 .refresh {}, .report 1, .collect,
    .tick 0 .refresh {}, .report 0, .collect, .tick 0 .shutdown {}, .report 0, .collect]

theorem counts_what_is_delivered_pair :
    ∃ start, ((prepare failing {} pair 1 .seeded).run pairWords).1 = some (.ok start) ∧
      (start.steps failing pair pairMoves).isFinished = true ∧
      (start.steps failing pair pairMoves).snapshot.totals =
        { flows := 103, cycles := 1, bytes := 4276, packets := 4 } := by
  -- Run once in the kernel, for both facts: the packet of records makes it slow.
  have evaluated : (pairStart?.map fun start =>
      let r := start.steps failing pair pairMoves
      (r.isFinished, Amounts.sum (r.workers.map (·.sent)))) =
        some (true, { flows := 103, cycles := 1, bytes := 4276, packets := 4 }) := by
    decide +kernel
  obtain ⟨start, hstart, hevaluated⟩ := Option.map_eq_some_iff.1 evaluated
  obtain ⟨finished, totals⟩ := Prod.mk.inj hevaluated
  obtain ⟨prepared, hprepared, hstart⟩ := Option.bind_eq_some_iff.1 hstart
  have ready : ((prepare failing {} pair 1 .seeded).run pairWords).1 = some (.ok start) := by
    rw [hprepared, eq_ok_of_mem_toOption hstart]
  obtain ⟨-, -, -, -, ended⟩ := counts_what_is_delivered ready pairMoves
  exact ⟨start, ready, finished, (ended finished).2.trans totals⟩

end FlowTraffic.Sender.Barrage
