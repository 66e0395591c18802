import FlowTraffic.Proofs.Sender.Replay.Delivery
import FlowTraffic.Proofs.Sender.Replay.Progress
import FlowTraffic.Proofs.Snapshots

/-!
# What a replay comes to

A replay sends no payload twice, and leaves one out only after the signal or when all of its workers have
failed. In the end every worker has reported what it has sent (`sends_each_once`).
-/

namespace FlowTraffic.Sender.Replay

/-! ## Totals -/

theorem amountsOf_eq_total (attempts : List Attempt) :
    amountsOf attempts =
      { cycles := total (attempts.map fun a => if a.accepted then 1 else 0)
        bytes := total (attempts.map fun a => if a.accepted then a.datagram.length else 0)
        packets := total (attempts.map fun a => if a.accepted then 1 else 0) } := by
  rw [amountsOf, countP_eq_total, total_map_filter]

theorem sum_amountsOf {n : Nat} {log : List Event} (known : ∀ e ∈ log, e.worker < n) :
    Amounts.sum ((List.range n).map fun i => amountsOf (attemptsOf i log)) =
      amountsOf (attemptsIn log) := by
  have hrow : ∀ a ∈ attemptsIn log, a.worker < n := fun a ha => known _ (mem_attemptsIn.1 ha)
  simp only [Amounts.sum_eq, amountsOf_eq_total, List.map_map, Function.comp_def, attemptsOf,
    total_rows Attempt.worker _ hrow, total_map_zero]

theorem amountsOf_attemptsIn (log : List Event) :
    amountsOf (attemptsIn log) =
      { cycles := (deliveredIn log).length
        bytes := total ((deliveredIn log).map List.length)
        packets := (deliveredIn log).length } := by
  rw [amountsOf, deliveredIn, List.length_map, ← List.countP_eq_length_filter, List.map_map]
  rfl

theorem count_map_eq_total {α : Type} (f : α → Bytes) (as : List α) (b : Bytes) :
    (as.map f).count b = total (as.map fun a => if f a == b then 1 else 0) := by
  rw [List.count, List.countP_map, countP_eq_total]
  rfl

theorem attempts_perm_takes {n : Nat} {log : List Event} (known : ∀ e ∈ log, e.worker < n)
    (same : ∀ i, (attemptsOf i log).map (·.payload) = (takesOf i log).map (·.payload)) :
    ((attemptsIn log).map (·.payload)).Perm ((takesIn log).map (·.payload)) := by
  refine List.perm_iff_count.2 fun b => ?_
  have hattempts : ∀ a ∈ attemptsIn log, a.worker < n := fun a ha => known _ (mem_attemptsIn.1 ha)
  have htakes : ∀ t ∈ takesIn log, t.worker < n := fun t ht => known _ (mem_takesIn.1 ht)
  calc ((attemptsIn log).map (·.payload)).count b
      = total ((List.range n).map fun i => ((attemptsOf i log).map (·.payload)).count b) := by
        simp only [count_map_eq_total, attemptsOf, total_rows Attempt.worker _ hattempts]
    _ = total ((List.range n).map fun i => ((takesOf i log).map (·.payload)).count b) := by
        simp only [same]
    _ = ((takesIn log).map (·.payload)).count b := by
        simp only [count_map_eq_total, takesOf, total_rows Take.worker _ htakes]

/-! ## At any time -/

theorem Pool.eq_nil {n i : Nat} {log : List Event} {ws : List Worker} (h : Pool n log ws) (hi : n ≤ i) :
    takesOf i log = [] ∧ attemptsOf i log = [] :=
  eq_nil_of_absent fun e he => Nat.ne_of_lt (Nat.lt_of_lt_of_le (h.known e he) hi)

theorem Pool.attempts_prefix {n : Nat} {log : List Event} {ws : List Worker} (h : Pool n log ws)
    (i : Nat) : (attemptsOf i log).map (·.payload) <+: (takesOf i log).map (·.payload) := by
  cases hw : ws[i]? with
  | some w => exact ⟨w.held, (h.tells i w hw).takes_eq.symm⟩
  | none =>
    obtain ⟨htakes, hattempts⟩ := h.eq_nil (h.length_eq ▸ List.getElem?_eq_none_iff.1 hw)
    rw [htakes, hattempts]
    exact List.prefix_refl _

namespace Run

section

variable {net : Network} {config : Config} {payloads : List Bytes} {log : List Event} {r : Run}

theorem Sound.takes_prefix (h : Sound config payloads log r) :
    (takesIn log).map (·.payload) <+: payloads :=
  ⟨r.queue.items ++ r.reader.rest, by rw [← List.append_assoc, h.underWay]⟩

theorem Sound.attempts_sublist (h : Sound config payloads log r) (i : Nat) :
    ((attemptsOf i log).map (·.payload)).Sublist payloads := by
  have htakes : ((takesOf i log).map (·.payload)).Sublist ((takesIn log).map (·.payload)) :=
    List.filter_sublist.map _
  exact ((h.pool.attempts_prefix i).sublist.trans htakes).trans h.takes_prefix.sublist

/-! ## At the end -/

theorem Sound.stage_eq (h : Sound config payloads log r) (finished : r.isFinished = true) {i : Nat}
    (hi : i < config.workers.toNat) : ∃ w, r.workers[i]? = some w ∧ w.stage = .stopped := by
  have hlt : i < r.workers.length := by rwa [h.pool.length_eq]
  simp only [isFinished, Bool.and_eq_true, List.all_eq_true, decide_eq_true_eq] at finished
  exact ⟨_, List.getElem?_eq_getElem hlt, finished.2 _ (List.getElem_mem hlt)⟩

theorem Sound.attempts_eq_takes (h : Sound config payloads log r) (finished : r.isFinished = true)
    (i : Nat) : (attemptsOf i log).map (·.payload) = (takesOf i log).map (·.payload) := by
  by_cases hi : i < config.workers.toNat
  · obtain ⟨w, hw, hstopped⟩ := h.stage_eq finished hi
    rw [(h.pool.tells i w hw).takes_eq, Worker.held, hstopped, List.append_nil]
  · obtain ⟨htakes, hattempts⟩ := h.pool.eq_nil (Nat.le_of_not_lt hi)
    rw [htakes, hattempts]
    rfl

/-- Without the signal, a worker that never failed has gone on until all was taken. -/
theorem Sound.takes_eq (h : Sound config payloads log r) (finished : r.isFinished = true)
    (quiet : r.signalled = false) {i : Nat} (hi : i < config.workers.toNat)
    (tireless : ∀ a ∈ attemptsOf i log, a.accepted = true) :
    (takesIn log).map (·.payload) = payloads := by
  obtain ⟨w, hw, hstopped⟩ := h.stage_eq finished hi
  rcases h.left i w hw hstopped with ⟨a, ha, failed⟩ | signalled | ⟨hqueue, hrest⟩
  · simp [tireless a ha] at failed
  · simp [quiet] at signalled
  · rw [← h.underWay, hqueue, hrest, List.append_nil, List.append_nil]

def reportOf (log : List Event) (i : Nat) : WorkerReport where
  worker := UInt32.ofNat (i + 1)
  sent := amountsOf (attemptsOf i log)

theorem Sound.reports_perm (h : Sound config payloads log r) (finished : r.isFinished = true) :
    r.reports.Perm ((List.range config.workers.toNat).map (reportOf log)) := by
  have hall : r.workers.filter (·.stage = .stopped) = r.workers := by
    simp only [isFinished, Bool.and_eq_true] at finished
    exact List.filter_eq_self.2 (List.all_eq_true.1 finished.2)
  have heq : r.workers.map Worker.report = (List.range config.workers.toNat).map (reportOf log) := by
    refine List.ext_getElem (by simp [h.pool.length_eq]) fun i hi hi' => ?_
    have hlt : i < r.workers.length := by simpa using hi
    have hid := congrArg (·[i]?) h.pool.ids
    have htells := h.pool.tells i _ (List.getElem?_eq_getElem hlt)
    simp [hlt, ← h.pool.length_eq] at hid
    simp [Worker.report, reportOf, hid, htells.sent_eq]
  have hreports := h.reports
  rwa [hall, heq] at hreports

theorem ascending_reportOf (log : List Event) {n : Nat} (hn : n < UInt16.size) :
    ((List.range n).map (reportOf log)).Pairwise fun a b => compare a.worker b.worker = .lt := by
  have ascending := workerIds_ascending hn
  rw [workerIds, List.pairwise_map] at ascending
  exact List.pairwise_map.2 ascending

theorem Sound.exists_snapshot (h : Sound config payloads log r) (finished : r.isFinished = true) :
    ∃ s, r.result = .ok s ∧
      s.workers.entries = (List.range config.workers.toNat).map (fun i =>
        (UInt32.ofNat (i + 1), reportOf log i)) ∧
      s.totals = amountsOf (attemptsIn log) := by
  have hperm := h.reports_perm finished
  have hascending := ascending_reportOf log config.workers.toNat_lt
  refine ⟨.ofReports r.reports, by rw [result, h.trouble], ?_, ?_⟩
  · rw [Snapshot.entries_ofReports hperm hascending, List.map_map]
    rfl
  · rw [Snapshot.totals_ofReports hperm hascending, List.map_map, ← sum_amountsOf h.pool.known]
    rfl

end

/-- **A replay sends every payload once.** Over every row of moves, whatever the network refuses and
whenever the signal comes, the payloads taken off the queue are the first of the store in the order of
their keys. A worker tries to send those that it took, one after the other, and stops at the first failure.
Every attempt is one send of the payload, or of the payload with its time changed; those that the network
accepts are what is delivered. The replay can always come to its end. Then every worker has tried to send
all that it took; without the signal, and with a worker that never failed, this is the whole store; and the
snapshot has what each worker has sent, and together the number and the size of what was delivered. -/
theorem sends_each_once {σ : Type} [Store σ] {store : σ} {table : Table}
    (readable : Store.contents store = .ok table) {config : Config} (workers : 0 < config.workers)
    (once : config.looping = false) (net : Network) (moves : List Move) :
    let start := Run.start config (Store.contents store)
    let r := start.steps net config moves
    let log := start.events net config moves
    (takesIn log).map (·.payload) <+: table.values ∧
      (r.taken = (takesIn log).map (·.payload) ∧
        ∀ i w, r.workers[i]? = some w → w.taken = (takesOf i log).map (·.payload)) ∧
      (r.delivered = ((attemptsIn log).filter (·.accepted)).map (·.datagram) ∧
        ∀ k a, (attemptsIn log)[k]? = some a →
          (net.send k config.target a.datagram.length).isOk = a.accepted ∧
            ∃ unixSecs, a.datagram =
              if config.updateTimestamps then Netflow.restamp unixSecs a.payload else a.payload) ∧
      (∀ e ∈ log, e.worker < config.workers.toNat) ∧
      (∀ i, (attemptsOf i log).map (·.payload) <+: (takesOf i log).map (·.payload) ∧
        ((attemptsOf i log).map (·.payload)).Sublist table.values) ∧
      ((log.Pairwise fun e e' => e.isFailure = true → e'.worker ≠ e.worker) ∧
        ∀ e ∈ log, e.isFailure = true → ∃ w, r.workers[e.worker]? = some w ∧ w.stage = .stopped) ∧
      (∃ more, .signal ∉ more ∧ (r.steps net config more).isFinished = true) ∧
      (r.isFinished = true →
        (∀ i, (attemptsOf i log).map (·.payload) = (takesOf i log).map (·.payload)) ∧
        (.signal ∉ moves →
          (∃ i < config.workers.toNat, ∀ a ∈ attemptsOf i log, a.accepted = true) →
          (takesIn log).map (·.payload) = table.values ∧
            ((attemptsIn log).map (·.payload)).Perm table.values) ∧
        ∃ snapshot, r.result = .ok snapshot ∧
          snapshot.workers.entries = (List.range config.workers.toNat).map (fun i =>
            (UInt32.ofNat (i + 1),
              { worker := UInt32.ofNat (i + 1), sent := amountsOf (attemptsOf i log) })) ∧
          snapshot.totals =
            { cycles := r.delivered.length
              bytes := total (r.delivered.map List.length)
              packets := r.delivered.length }) := by
  intro start r log
  have hstart : start = Run.start config (.ok table) := by simp only [start, readable]
  have h : Sound config table.values log r := by
    simp only [log, r, hstart]
    exact (Sound.start once table).steps moves
  have live : Live r := by
    simp only [r, hstart]
    exact (Live.start once workers table).steps moves
  have sent : Sent net config log r := (Sent.start net config _).steps moves
  refine ⟨h.takes_prefix, ⟨sent.taken, fun i w hw => (h.pool.tells i w hw).taken_eq⟩,
    ⟨sent.delivered, sent.answers⟩, h.pool.known, fun i => ⟨h.pool.attempts_prefix i, h.attempts_sublist i⟩,
    ⟨h.pool.silent, h.pool.stopped⟩, live.exists_finish, fun finished => ?_⟩
  obtain ⟨snapshot, result, entries, totals⟩ := h.exists_snapshot finished
  rw [amountsOf_attemptsIn, ← sent.delivered] at totals
  refine ⟨h.attempts_eq_takes finished, ?_, snapshot, result, entries, totals⟩
  rintro quiet ⟨i, hi, tireless⟩
  have hquiet : r.signalled = false := signalled_steps quiet start
  have hall := h.takes_eq finished hquiet hi tireless
  refine ⟨hall, ?_⟩
  rw [← hall]
  exact attempts_perm_takes h.pool.known (h.attempts_eq_takes finished)

def threePayloads : Table := .ofList [([1], [0, 9, 1]), ([2], [0, 9]), ([3], [7])]

def pair : Config where
  target := { ip := .v4 (.ofOctets 127 0 0 1), port := 9995 }
  workers := 2
  delay := 1000

def failing : Network where
  send n _ _ := if n = 1 then .error .networkUnreachable else .ok ()

/-- The second worker fails with the first payload that it takes, after the first has sent one. -/
def pairMoves : List Move :=
  [.look, .offer, .take 0, .look, .offer, .take 1, .send 0 0, .look, .offer, .send 1 0, .take 0, .look,
    .send 0 0, .finish 0]

theorem sends_each_once_pair :
    Store.contents threePayloads = .ok threePayloads ∧ 0 < pair.workers ∧ pair.looping = false ∧
      .signal ∉ pairMoves ∧
      ((Run.start pair (.ok threePayloads)).steps failing pair pairMoves).isFinished = true ∧
      (takesIn ((Run.start pair (.ok threePayloads)).events failing pair pairMoves)).map (·.payload) =
        [[0, 9, 1], [0, 9], [7]] ∧
      (attemptsOf 1 ((Run.start pair (.ok threePayloads)).events failing pair pairMoves)).map
        (·.payload) = [[0, 9]] ∧
      ((Run.start pair (.ok threePayloads)).steps failing pair pairMoves).delivered =
        [[0, 9, 1], [7]] ∧
      ∃ snapshot,
        ((Run.start pair (.ok threePayloads)).steps failing pair pairMoves).result = .ok snapshot ∧
        snapshot.totals = { cycles := 2, bytes := 4, packets := 2 } := by
  have readable : Store.contents threePayloads = .ok threePayloads := rfl
  have workers : 0 < pair.workers := by decide
  have quiet : .signal ∉ pairMoves := by decide
  have finished :
      ((Run.start pair (.ok threePayloads)).steps failing pair pairMoves).isFinished = true := by
    decide +kernel
  obtain ⟨-, -, ⟨delivered, -⟩, -, -, -, -, ended⟩ := sends_each_once readable workers rfl failing pairMoves
  obtain ⟨same, complete, snapshot, result, -, totals⟩ := ended finished
  obtain ⟨takes, -⟩ := complete quiet ⟨0, by decide, by decide +kernel⟩
  exact ⟨readable, workers, rfl, quiet, finished, takes.trans (by decide +kernel),
    (same 1).trans (by decide +kernel), delivered.trans (by decide +kernel), snapshot, result,
    totals.trans (by decide +kernel)⟩

end Run

end FlowTraffic.Sender.Replay
