import FlowTraffic.Proofs.Netflow.Sending
import FlowTraffic.Proofs.Runs
import FlowTraffic.Sender.Barrage.Run

/-!
# The moves of a barrage

What can be seen of a barrage is which datagrams its workers try to send, and which workers are told to
stop. A tick that is not the shutdown makes one packet, and the worker tries to send it (`change_of_step`).
-/

namespace FlowTraffic.Sender.Barrage

open Netflow

/-- A worker tries to send a datagram. -/
structure Attempt where
  worker : Nat
  datagram : Bytes
  accepted : Bool
  deriving DecidableEq

inductive Event
  | attempt (a : Attempt)
  | shutdown (worker : Nat)
  deriving DecidableEq

def Event.attempt? : Event → Option Attempt
  | attempt a => some a
  | shutdown _ => none

def attemptsIn (log : List Event) : List Attempt := log.filterMap Event.attempt?

def attemptsOf (i : Nat) (log : List Event) : List Attempt := (attemptsIn log).filter (·.worker = i)

def Event.worker : Event → Nat
  | attempt a => a.worker
  | shutdown i => i

@[simp]
theorem attemptsIn_concat (log : List Event) (e : Event) :
    attemptsIn (log ++ [e]) = attemptsIn log ++ e.attempt?.toList :=
  filterMap_concat ..

theorem attemptsOf_append_other {i : Nat} {e? : Option Event} (other : ∀ e ∈ e?, e.worker ≠ i)
    (log : List Event) : attemptsOf i (log ++ e?.toList) = attemptsOf i log := by
  cases e? with
  | none => rw [Option.toList_none, List.append_nil]
  | some e =>
    have he := other e rfl
    cases e with
    | attempt a =>
      have ha : a.worker ≠ i := he
      simp [attemptsOf, Event.attempt?, ha]
    | shutdown j => simp [attemptsOf, Event.attempt?]

theorem attemptsOf_concat_attempt {i : Nat} {a : Attempt} (mine : a.worker = i) (log : List Event) :
    attemptsOf i (log ++ [.attempt a]) = attemptsOf i log ++ [a] := by
  simp [attemptsOf, Event.attempt?, mine]

theorem attemptsOf_concat_shutdown (i j : Nat) (log : List Event) :
    attemptsOf i (log ++ [.shutdown j]) = attemptsOf i log := by
  simp [attemptsOf, Event.attempt?]

/-! ## A worker at a tick -/

/-- A packet as it is sent, with what it counts for. -/
def Load.of (p : Packet) : Load where
  datagram := p.encode
  flows := p.header.flowCount.toNat
  cycles := p.dataSets.length

namespace Worker

/-- A worker that has not stopped makes a packet, first of all its template. -/
structure Makes (w : Worker) (p : Packet) (exporter : Exporter) : Prop where
  made : w.exporter.Makes p exporter
  awake : w.stage ≠ .stopped
  kind : p.Announces w.exporter.profile.schema ∨
    p.Carries w.exporter.profile.schema w.exporter.profile.flowsPerPacket.toNat
  first : w.stage = .starting → p.Announces w.exporter.profile.schema

def amounts (p : Packet) : Amounts := ⟨p.header.flowCount.toNat, p.dataSets.length, p.encode.length, 1⟩

/-- The worker after an attempt to send a packet. -/
def attempted (w : Worker) (p : Packet) (exporter : Exporter) (words : Words) (refreshed : Bool) :
    Except TransportError Unit → Worker
  | .ok () =>
    { w with
      stage := .running, exporter, words, sent := w.sent + amounts p
      delivered := w.delivered ++ [p.encode] }.tell refreshed
  | .error why =>
    { w with stage := .stopped, exporter, words, failure := some (.transport why) }.tell refreshed

section

variable {w w' : Worker} {now : Moment} {send : Nat → Except TransportError Unit} {tick : Tick}

theorem makes_template (now : Moment) (awake : w.stage ≠ .stopped) :
    w.Makes (w.exporter.template now).1 (w.exporter.template now).2 :=
  ⟨w.exporter.makes_template now, awake, .inl (w.exporter.template_announces now),
    fun _ => w.exporter.template_announces now⟩

theorem makeTemplate_eq (now : Moment) :
    w.makeTemplate now = (.ok (.of (w.exporter.template now).1),
      { w with exporter := (w.exporter.template now).2 }) := rfl

theorem makeData_eq (running : w.stage = .running) (now : Moment) :
    ∃ p exporter words, w.Makes p exporter ∧
      w.makeData now = (.ok (.of p), { w with exporter, words }) := by
  obtain ⟨p, exporter, hwrite, made, written, carries⟩ := w.exporter.write_datagram now now w.words
  obtain ⟨set, hset, -⟩ := carries.dataSets
  obtain ⟨words, hpair⟩ : ∃ words, w.exporter.write now now maxDatagram {} w.words =
      ((.ok (), exporter, { taken := p.encode }), words) := ⟨_, Prod.ext hwrite rfl⟩
  refine ⟨p, exporter, words, ⟨made, by simp [running], .inr carries, by simp [running]⟩, ?_⟩
  simp only [makeData, StateT.run, hpair, written, Load.of, carries.flowCount, hset]
  rfl

theorem make_eq (comes : tick.comes w.stage = true)
    {made : Except Error Load × Worker} (hmake : w.make now tick = some made) :
    ∃ p exporter words, w.Makes p exporter ∧ made = (.ok (.of p), { w with exporter, words }) := by
  have awake : w.stage ≠ .stopped := by
    intro stopped
    rw [stopped] at comes
    cases tick <;> cases comes
  cases tick with
  | start | refresh =>
    cases hmake
    exact ⟨_, _, w.words, makes_template now awake, makeTemplate_eq now⟩
  | pace =>
    cases hmake
    refine makeData_eq ?_ now
    cases hstage : w.stage with
    | running => rfl
    | starting | stopped => simp [hstage, Tick.comes] at comes
  | shutdown => cases hmake

theorem tell_deliver_of (p : Packet) (exporter : Exporter) (words : Words) (refreshed : Bool)
    (send : Nat → Except TransportError Unit) :
    (deliver { w with exporter, words, stage := .running } send (.ok (.of p))).tell refreshed =
      w.attempted p exporter words refreshed (send p.encode.length) := by
  simp only [deliver, Load.of]
  cases send p.encode.length <;> rfl

/-- A tick makes a packet that the worker tries to send, or it is the shutdown. -/
theorem step_cases (hs : w.step now send tick = some w') :
    (∃ p exporter words refreshed, (∃ made, w.make now tick = some (.ok (.of p), made)) ∧
      w.Makes p exporter ∧ w' = w.attempted p exporter words refreshed (send p.encode.length)) ∨
    (tick = .shutdown ∧ w.pending = none ∧ w.stage = .running ∧
      w' = { w with stage := .stopped, pending := some w.report }) := by
  unfold step at hs
  split at hs
  · cases hs
  rename_i ready
  simp only [Bool.or_eq_true, Bool.not_eq_true', not_or, Bool.not_eq_false,
    Option.not_isSome_iff_eq_none] at ready
  obtain ⟨idle, comes⟩ := ready
  split at hs
  · rename_i made w₁ hmake
    obtain ⟨p, exporter, words, makes, heq⟩ := make_eq comes hmake
    cases heq
    cases hs
    exact .inl ⟨p, exporter, words, _, ⟨_, hmake⟩, makes, tell_deliver_of ..⟩
  · rename_i hmake
    cases tick with
    | start | pace | refresh => cases hmake
    | shutdown =>
      have running : w.stage = .running := by
        cases hstage : w.stage with
        | running => rfl
        | starting | stopped => simp [hstage, Tick.comes] at comes
      cases hs
      exact .inr ⟨rfl, idle, running, rfl⟩

end

end Worker

/-! ## All moves -/

namespace Run

def event? (net : Network) (config : Config) (r : Run) : Move → Option Event
  | .tick i .shutdown _ => some (.shutdown i)
  | .tick i tick now => do
    let w ← r.workers[i]?
    let (made, _) ← w.make now tick
    let load ← made.toOption
    let accepted := (net.send r.sends config.target load.datagram.length).isOk
    return .attempt { worker := i, datagram := load.datagram, accepted }
  | _ => none

def events (net : Network) (config : Config) (r : Run) (moves : List Move) : List Event :=
  observe (step net config) (event? net config) r moves

/-- What a move makes of a barrage, and what it shows. -/
inductive Change (net : Network) (config : Config) (r : Run) : Move → Option Event → Run → Prop
  | attempt {w : Worker} {p : Packet} {exporter : Exporter} {words : Words} {refreshed : Bool}
      {tick : Tick} {now : Moment} {result : Except TransportError Unit} {metrics : Metrics}
      (a : Attempt) (hw : r.workers[a.worker]? = some w) (makes : w.Makes p exporter)
      (datagram : a.datagram = p.encode) (accepted : a.accepted = result.isOk)
      (answer : (net.send r.sends config.target a.datagram.length).isOk = a.accepted) :
    Change net config r (.tick a.worker tick now) (some (.attempt a)) { r with
      workers := r.workers.set a.worker (w.attempted p exporter words refreshed result)
      metrics, sends := r.sends + 1 }
  | shutdown {i : Nat} {w : Worker} {now : Moment} {metrics : Metrics}
      (hw : r.workers[i]? = some w) (idle : w.pending = none) (running : w.stage = .running) :
    Change net config r (.tick i .shutdown now) (some (.shutdown i)) { r with
      workers := r.workers.set i { w with stage := .stopped, pending := some w.report }
      metrics, sends := r.sends }
  | report {i : Nat} {w : Worker} {report : WorkerReport} (hw : r.workers[i]? = some w)
      (pending : w.pending = some report) :
    Change net config r (.report i) none { r with
      workers := r.workers.set i { w with pending := none }
      reports := { r.reports with items := r.reports.items ++ [report] } }
  | collect {report : WorkerReport} {items : List WorkerReport}
      (first : r.reports.items = report :: items) :
    Change net config r .collect none { r with
      reports := { r.reports with items }, snapshot := r.snapshot.record report }

variable {net : Network} {config : Config} {r r' : Run} {m : Move}

theorem change_of_tick {i : Nat} {tick : Tick} {now : Moment}
    (hs : r.step net config (.tick i tick now) = some r') :
    Change net config r (.tick i tick now) (r.event? net config (.tick i tick now)) r' := by
  obtain ⟨w, hw, hs⟩ := Option.bind_eq_some_iff.1 hs
  obtain ⟨w', hstep, hs⟩ := Option.bind_eq_some_iff.1 hs
  cases hs
  rcases Worker.step_cases hstep with
    ⟨p, exporter, words, refreshed, ⟨_, hmake⟩, makes, rfl⟩ | ⟨rfl, idle, running, rfl⟩
  · have notShutdown : tick ≠ .shutdown := by
      rintro rfl
      cases hmake
    have hevent : r.event? net config (.tick i tick now) = some (.attempt {
        worker := i, datagram := p.encode
        accepted := (net.send r.sends config.target p.encode.length).isOk }) := by
      cases tick with
      | shutdown => exact absurd rfl notShutdown
      | _ =>
        simp only [event?, hw, hmake, Option.bind_eq_bind, Option.bind_some]
        rfl
    rw [hevent, if_neg notShutdown]
    refine .attempt { worker := i, datagram := p.encode, accepted := _ } hw makes rfl ?_ rfl
    unfold Transport.send
    cases net.send r.sends config.target p.encode.length <;> rfl
  · exact .shutdown hw idle running

theorem change_of_step (hs : r.step net config m = some r') :
    Change net config r m (r.event? net config m) r' := by
  cases m with
  | tick i tick now => exact change_of_tick hs
  | report i =>
    obtain ⟨w, hw, hs⟩ := Option.bind_eq_some_iff.1 hs
    obtain ⟨report, pending, hs⟩ := Option.bind_eq_some_iff.1 hs
    obtain ⟨q, pushed, hs⟩ := Option.bind_eq_some_iff.1 hs
    obtain ⟨-, -, rfl⟩ := Queue.push?_eq_some_iff.1 pushed
    cases hs
    exact .report hw pending
  | collect =>
    obtain ⟨⟨report, q⟩, popped, hs⟩ := Option.bind_eq_some_iff.1 hs
    obtain ⟨items, first, rfl⟩ := Queue.pop?_eq_some_iff.1 popped
    cases hs
    exact .collect first

theorem isFinished_iff :
    r.isFinished = true ↔
      (∀ w ∈ r.workers, w.stage = .stopped ∧ w.pending = none) ∧ r.reports.items = [] := by
  simp [isFinished, Queue.isEmpty]

end Run

end FlowTraffic.Sender.Barrage
