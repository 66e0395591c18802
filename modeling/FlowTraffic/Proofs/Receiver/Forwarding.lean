import FlowTraffic.Proofs.Receiver.Fanout
import FlowTraffic.Proofs.Receiver.Intake
import FlowTraffic.Proofs.Runs
import FlowTraffic.Receiver.Proxy

/-!
# What a proxy sends

However the parts of a proxy take turns, every outlet tries to send every packet that was read, in the
order in which they were read, and a send that fails changes nothing but the outlet's own count
(`attempts_eq_packets`). The reason is that what an outlet has tried, what it is owed, and what is still
under way in the intake are at any time all the packets read so far, in their order (`Sound.carried`).
-/

namespace FlowTraffic.Receiver.Proxy

/-! ## What is seen of a proxy -/

/-- An outlet tries to send a packet. -/
structure Attempt where
  outlet : Nat
  target : Endpoint
  payload : Bytes
  accepted : Bool
  deriving DecidableEq

/-- What a proxy does with the network. -/
inductive Event
  | read (datagram : Bytes)
  | attempt (attempt : Attempt)
  deriving DecidableEq

def Event.read? : Event → Option Bytes
  | .read d => some d
  | .attempt _ => none

/-- The attempt, if it is the outlet's. -/
def Event.attempt? (k : Nat) : Event → Option Attempt
  | .read _ => none
  | .attempt a => if a.outlet = k then some a else none

def readIn (log : List Event) : List Bytes := log.filterMap Event.read?

def attemptsIn (k : Nat) (log : List Event) : List Attempt := log.filterMap (Event.attempt? k)

section

variable (log : List Event) (k : Nat)

theorem readIn_read (d? : Option Bytes) :
    readIn (log ++ (d?.map Event.read).toList) = readIn log ++ d?.toList := by
  cases d? <;> simp [readIn, Event.read?]

theorem attemptsIn_read (d? : Option Bytes) :
    attemptsIn k (log ++ (d?.map Event.read).toList) = attemptsIn k log := by
  cases d? <;> simp [attemptsIn, Event.attempt?]

theorem readIn_attempt (a : Attempt) : readIn (log ++ [.attempt a]) = readIn log := by
  simp [readIn, Event.read?]

theorem attemptsIn_attempt (a : Attempt) :
    attemptsIn k (log ++ [.attempt a]) = attemptsIn k log ++ if a.outlet = k then [a] else [] := by
  by_cases h : a.outlet = k <;> simp [attemptsIn, Event.attempt?, h]

end

namespace Run

def event? (net : Network) (r : Run) : Move → Option Event
  | .intake m => m.datagram?.map .read
  | .forward k => do
    let o ← r.outlets[k]?
    let (payload, _) ← r.fanout.pop k
    let accepted := (net.send r.sends o.target payload.length).isOk
    return .attempt { outlet := k, target := o.target, payload, accepted }
  | _ => none

/-- What a row of moves does with the network. -/
def events (net : Network) (r : Run) (moves : List Move) : List Event :=
  observe (step net) (event? net) r moves

/-- The datagrams that are read over a row of moves. -/
def reads (net : Network) (r : Run) (moves : List Move) : List Bytes := readIn (r.events net moves)

/-- The attempts of one outlet over a row of moves. -/
def attempts (net : Network) (r : Run) (moves : List Move) (k : Nat) : List Attempt :=
  attemptsIn k (r.events net moves)

end Run

/-! ## Outlets -/

namespace Outlet

def tried (o : Outlet) (payload : Bytes) (accepted : Bool) : Outlet :=
  { o with
    attempted := o.attempted ++ [payload]
    delivered := if accepted then o.delivered ++ [payload] else o.delivered }

/-- What the outlet of a target says of itself is what is seen of it. -/
structure Tells (o : Outlet) (target : Endpoint) (seen : List Attempt) : Prop where
  target_eq : o.target = target
  target_of_mem : ∀ a ∈ seen, a.target = target
  attempted_eq : o.attempted = seen.map (·.payload)
  delivered_eq : o.delivered = (seen.filter (·.accepted)).map (·.payload)

theorem Tells.tried {o : Outlet} {target : Endpoint} {seen : List Attempt} (h : o.Tells target seen)
    (a : Attempt) (ha : a.target = o.target) :
    (o.tried a.payload a.accepted).Tells target (seen ++ [a]) where
  target_eq := h.target_eq
  target_of_mem b hb := by
    rcases List.mem_append.1 hb with hb | hb
    · exact h.target_of_mem b hb
    · rw [List.mem_singleton.1 hb, ha, h.target_eq]
  attempted_eq := by simp [Outlet.tried, h.attempted_eq]
  delivered_eq := by
    cases hok : a.accepted <;> simp [Outlet.tried, h.delivered_eq, hok]

end Outlet

theorem Config.targets_pos {config : Config} (valid : config.check = .ok ()) :
    0 < config.targets.length := by
  unfold Config.check at valid
  split at valid
  · cases valid
  · rename_i fits
    simpa [List.length_pos_iff] using fun none => fits (.inl (List.isEmpty_iff.2 none))

namespace Run

theorem forward_eq (net : Network) (r : Run) (k : Nat) (o : Outlet) (payload : Bytes) :
    ∃ metrics, r.forward net k o payload =
      { r with
        intake := { r.intake with metrics }
        outlets := r.outlets.set k
          (o.tried payload (net.send r.sends o.target payload.length).isOk)
        sends := r.sends + 1 } := by
  simp only [forward, Transport.send]
  cases net.send r.sends o.target payload.length <;> exact ⟨_, rfl⟩

/-! ## One move -/

/-- What holds of a proxy that has done some things with the network. -/
structure Sound (config : Config) (log : List Event) (r : Run) : Prop where
  orderly : r.intake.Orderly
  isOpen : r.intake.outbox.isOpen = true
  counted : r.intake.ahead.foldl Counts.add r.intake.validator.counts =
    (readIn log).foldl Counts.add {}
  whole : r.fanout.Whole config.targets.length
  drained : r.fanout.isDone = true → r.fanout.current = none ∧ r.intake.isDrained = true
  length : r.outlets.length = config.targets.length
  tells : ∀ (k : Nat) (o : Outlet), r.outlets[k]? = some o →
    ∃ target, config.targets[k]? = some target ∧ o.Tells target (attemptsIn k log)
  /-- No outlet has missed a packet or got one twice. -/
  carried : ∀ (k : Nat) (o : Outlet), r.outlets[k]? = some o →
    o.attempted ++ r.fanout.owed k ++ r.intake.pending = packetsAmong (readIn log)
  done : ∀ (k : Nat) (o : Outlet), r.outlets[k]? = some o → o.isDone = true →
    r.fanout.isDone = true ∧ r.fanout.queued k = []
  results : ∀ (k : Nat) (o : Outlet), r.outlets[k]? = some o →
    (o.isDone = true → ∃ n, (k, n) ∈ r.results) ∧
      ∀ n, (k, n) ∈ r.results → o.isDone = true ∧ n = o.forwarded

section

variable {net : Network} {config : Config} {log : List Event} {r r' : Run} {m : Move}

theorem getElem?_start {k : Nat} {o : Outlet} (ho : (Run.start config).outlets[k]? = some o) :
    ∃ target, config.targets[k]? = some target ∧ o = { target } := by
  obtain ⟨target, htarget, rfl⟩ := Option.map_eq_some_iff.1 (List.getElem?_map ▸ ho)
  exact ⟨target, htarget, rfl⟩

theorem Sound.start (config : Config) : Sound config [] (Run.start config) where
  orderly := ⟨fun _ => rfl, nofun, nofun, nofun⟩
  isOpen := rfl
  counted := rfl
  whole := Fanout.whole_start _ _
  drained := nofun
  length := List.length_map ..
  tells k o ho := by
    obtain ⟨target, htarget, rfl⟩ := getElem?_start ho
    exact ⟨target, htarget, rfl, nofun, rfl, rfl⟩
  carried k o ho := by
    obtain ⟨target, htarget, rfl⟩ := getElem?_start ho
    exact congrArg (· ++ []) (Fanout.owed_start _ _ k)
  done k o ho := by
    obtain ⟨target, htarget, rfl⟩ := getElem?_start ho
    nofun
  results k o ho := by
    obtain ⟨target, htarget, rfl⟩ := getElem?_start ho
    exact ⟨nofun, nofun⟩

theorem Sound.intake (h : Sound config log r) {m : IntakeMove} {i : Intake}
    (hc : r.intake.Change m i) :
    Sound config (log ++ (m.datagram?.map Event.read).toList) { r with intake := i } where
  orderly := hc.orderly h.orderly
  isOpen := hc.outbox_isOpen.trans h.isOpen
  counted := by
    rw [hc.counted h.orderly, readIn_read, List.foldl_append, h.counted, List.foldl_append]
  whole := h.whole
  drained isDone := (h.drained isDone).imp_right fun drained => (hc.isDrained h.orderly drained).2
  length := h.length
  tells k o ho := by
    rw [attemptsIn_read]
    exact h.tells k o ho
  carried k o ho := by
    rw [hc.pending h.orderly h.isOpen, readIn_read, packetsAmong_append, ← h.carried k o ho,
      List.append_assoc, List.append_assoc, List.append_assoc]
  done := h.done
  results := h.results

theorem Sound.take (h : Sound config log r) (hn : 0 < config.targets.length) {payload : Bytes}
    {items : List Bytes} (idle : r.fanout.isIdle = true)
    (first : r.intake.outbox.items = payload :: items) :
    Sound config log { r with
      intake := { r.intake with outbox := { r.intake.outbox with items } }
      fanout := r.fanout.take payload } := by
  simp only [Fanout.isIdle, Bool.and_eq_true, Option.isNone_iff_eq_none, Bool.not_eq_true'] at idle
  have busy : r.fanout.isDone ≠ true := by simp [idle.2]
  exact
    { orderly := ⟨h.orderly.1, h.orderly.2, h.orderly.3, h.orderly.4⟩
      isOpen := h.isOpen
      counted := h.counted
      whole := h.whole.take hn payload
      drained := fun isDone => absurd isDone busy
      length := h.length
      tells := h.tells
      carried := fun k o ho => by
        rw [← h.carried k o ho, Fanout.owed_take idle.1]
        simp [Intake.pending, Intake.ahead, first]
      done := fun k o ho isDone => absurd (h.done k o ho isDone).1 busy
      results := h.results }

theorem Sound.offer (h : Sound config log r) {fanout : Fanout} (offered : r.fanout.offer = some fanout) :
    fanout.isDone = false ∧ Sound config log { r with fanout } := by
  obtain ⟨payload, place, q, hcurrent, hq, rfl⟩ := h.whole.exists_given offered
  have busy : r.fanout.isDone ≠ true := fun isDone => by simp [(h.drained isDone).1] at hcurrent
  exact ⟨rfl,
    { h with
      whole := h.whole.given hq payload
      drained := nofun
      carried := fun k o ho => by
        have hk : k < config.targets.length := h.length ▸ (List.getElem?_eq_some_iff.1 ho).1
        rw [← h.carried k o ho, Fanout.owed_given hcurrent hq hk]
      done := fun k o ho isDone => absurd (h.done k o ho isDone).1 busy }⟩

theorem Sound.drain (h : Sound config log r) (idle : r.fanout.isIdle = true)
    (drained : r.intake.isDrained = true) :
    Sound config log { r with fanout := { r.fanout with isDone := true } } :=
  { h with
    whole := ⟨h.whole.1, h.whole.2, h.whole.3, h.whole.4⟩
    drained := fun _ => ⟨Option.isNone_iff_eq_none.1 (Bool.and_eq_true_iff.1 idle).1, drained⟩
    done := fun k o ho isDone => ⟨rfl, (h.done k o ho isDone).2⟩ }

theorem Sound.forward (h : Sound config log r) {k : Nat} {o : Outlet} {payload : Bytes}
    {fanout : Fanout} (ho : r.outlets[k]? = some o) (popped : r.fanout.pop k = some (payload, fanout))
    (accepted : Bool) (metrics : Metrics) (n : Nat) :
    Sound config (log ++ [.attempt { outlet := k, target := o.target, payload, accepted }]) { r with
      intake := { r.intake with metrics }, fanout
      outlets := r.outlets.set k (o.tried payload accepted), sends := n } := by
  have hisDone : fanout.isDone = r.fanout.isDone := Fanout.isDone_pop popped
  have busy : o.isDone ≠ true := fun isDone => by
    have hempty := (h.done k o ho isDone).2
    simp [Fanout.queued_pop popped] at hempty
  exact
    { orderly := ⟨h.orderly.1, h.orderly.2, h.orderly.3, h.orderly.4⟩
      isOpen := h.isOpen
      counted := by rw [readIn_attempt]; exact h.counted
      whole := h.whole.pop popped
      drained := fun isDone => by
        rw [Fanout.current_pop popped]
        exact h.drained (hisDone ▸ isDone)
      length := (List.length_set ..).trans h.length
      tells := fun j o' ho' => by
        rw [attemptsIn_attempt]
        rcases getElem?_set_cases ho' with ⟨rfl, rfl⟩ | ⟨hj, ho'⟩
        · obtain ⟨target, htarget, htells⟩ := h.tells j o ho
          refine ⟨target, htarget, ?_⟩
          rw [if_pos rfl]
          exact htells.tried { outlet := j, target := o.target, payload, accepted } rfl
        · rw [if_neg (Ne.symm hj), List.append_nil]
          exact h.tells j o' ho'
      carried := fun j o' ho' => by
        rw [readIn_attempt]
        rcases getElem?_set_cases ho' with ⟨rfl, rfl⟩ | ⟨hj, ho'⟩
        · rw [← h.carried j o ho, Fanout.owed_pop popped, if_pos rfl]
          simp [Outlet.tried, Intake.pending, Intake.ahead]
        · rw [← h.carried j o' ho', Fanout.owed_pop popped, if_neg hj]
          rfl
      done := fun j o' ho' isDone => by
        rcases getElem?_set_cases ho' with ⟨rfl, rfl⟩ | ⟨hj, ho'⟩
        · exact absurd isDone busy
        · have hdone := h.done j o' ho' isDone
          rw [Fanout.queued_pop popped, if_neg hj] at hdone
          exact ⟨hisDone.trans hdone.1, hdone.2⟩
      results := fun j o' ho' => by
        rcases getElem?_set_cases ho' with ⟨rfl, rfl⟩ | ⟨hj, ho'⟩
        · exact ⟨fun isDone => absurd isDone busy,
            fun n hn => absurd ((h.results j o ho).2 n hn).1 busy⟩
        · exact h.results j o' ho' }

theorem Sound.leave (h : Sound config log r) {k : Nat} {o : Outlet} (ho : r.outlets[k]? = some o)
    (isDone : r.fanout.isDone = true) (empty : r.fanout.queued k = []) (stays : o.isDone = false) :
    Sound config log { r with
      outlets := r.outlets.set k { o with isDone := true }
      results := r.results ++ [(k, o.forwarded)] } :=
  { h with
    length := (List.length_set ..).trans h.length
    tells := fun j o' ho' => by
      rcases getElem?_set_cases ho' with ⟨rfl, rfl⟩ | ⟨hj, ho'⟩
      · obtain ⟨target, htarget, htells⟩ := h.tells j o ho
        exact ⟨target, htarget, htells.1, htells.2, htells.3, htells.4⟩
      · exact h.tells j o' ho'
    carried := fun j o' ho' => by
      rcases getElem?_set_cases ho' with ⟨rfl, rfl⟩ | ⟨hj, ho'⟩
      · exact h.carried j o ho
      · exact h.carried j o' ho'
    done := fun j o' ho' hdone => by
      rcases getElem?_set_cases ho' with ⟨rfl, rfl⟩ | ⟨hj, ho'⟩
      · exact ⟨isDone, empty⟩
      · exact h.done j o' ho' hdone
    results := fun j o' ho' => by
      rcases getElem?_set_cases ho' with ⟨rfl, rfl⟩ | ⟨hj, ho'⟩
      · refine ⟨fun _ => ⟨o.forwarded, by simp⟩, fun n hn => ⟨rfl, ?_⟩⟩
        rcases List.mem_append.1 hn with hn | hn
        · simp [((h.results j o ho).2 n hn).1] at stays
        · simp_all [Outlet.forwarded]
      · obtain ⟨hresult, hforwarded⟩ := h.results j o' ho'
        refine ⟨fun hdone => ?_, fun n hn => ?_⟩
        · obtain ⟨n, hn⟩ := hresult hdone
          exact ⟨n, List.mem_append_left _ hn⟩
        · refine hforwarded n ?_
          simpa [hj] using hn }

theorem Sound.step (h : Sound config log r) (hn : 0 < config.targets.length)
    (hs : r.step net m = some r') : Sound config (log ++ (r.event? net m).toList) r' := by
  cases m with
  | intake m =>
    obtain ⟨i, hi, hs⟩ := Option.bind_eq_some_iff.1 hs
    cases hs
    exact h.intake (Intake.change_of_step hi)
  | take =>
    simp only [Run.step] at hs
    split at hs
    · cases hs
    · rename_i idle
      obtain ⟨⟨payload, outbox⟩, popped, hs⟩ := Option.bind_eq_some_iff.1 hs
      obtain ⟨items, first, rfl⟩ := Queue.pop?_eq_some_iff.1 popped
      cases hs
      simpa [event?] using h.take hn (by simpa using idle) first
  | offer =>
    obtain ⟨fanout, offered, hs⟩ := Option.bind_eq_some_iff.1 hs
    obtain ⟨goesOn, hsound⟩ := h.offer offered
    rw [goesOn] at hs
    cases hs
    simpa [event?] using hsound
  | drain =>
    simp only [Run.step] at hs
    split at hs
    · rename_i ready
      obtain ⟨idle, drained⟩ := Bool.and_eq_true_iff.1 ready
      cases hs
      simpa [event?] using h.drain idle drained
    · cases hs
  | forward k =>
    obtain ⟨o, ho, hs⟩ := Option.bind_eq_some_iff.1 hs
    obtain ⟨⟨payload, fanout⟩, popped, hs⟩ := Option.bind_eq_some_iff.1 hs
    obtain ⟨metrics, hforward⟩ := forward_eq net { r with fanout } k o payload
    cases hs
    rw [hforward]
    simp only [event?, ho, popped]
    exact h.forward ho popped _ metrics _
  | leave k =>
    obtain ⟨o, ho, hs⟩ := Option.bind_eq_some_iff.1 hs
    obtain ⟨q, hq, hs⟩ := Option.bind_eq_some_iff.1 hs
    split at hs
    · rename_i ready
      simp only [Bool.and_eq_true, Queue.isEmpty, List.isEmpty_iff, Bool.not_eq_true'] at ready
      cases hs
      simpa [event?] using
        h.leave ho ready.1.1 (by simp [Fanout.queued, hq, ready.1.2]) ready.2
    · cases hs

theorem Sound.steps (h : Sound config [] r) (hn : 0 < config.targets.length) (moves : List Move) :
    Sound config (r.events net moves) (r.steps net moves) :=
  observe_induction (P := Sound config) (fun _ _ _ _ h => h.step hn) h moves

/-! ## The end -/

theorem getElem?_foldl_set {results : List (Nat × Nat)} {sent : List Nat} {k n : Nat}
    (hk : k < sent.length) (same : ∀ n', (k, n') ∈ results → n' = n)
    (written : sent[k]? = some n ∨ ∃ n', (k, n') ∈ results) :
    (results.foldl (fun sent (i, n) => sent.set i n) sent)[k]? = some n := by
  -- Places are written more than once, but each with the same number.
  induction results generalizing sent with
  | nil => simpa using written
  | cons e results ih =>
    obtain ⟨i, n'⟩ := e
    refine ih (by simpa using hk) (fun n'' hn => same n'' (List.mem_cons_of_mem _ hn)) ?_
    by_cases hi : i = k
    · subst hi
      rw [same n' List.mem_cons_self]
      exact .inl (List.getElem?_set_self hk)
    · rw [List.getElem?_set_ne hi]
      refine written.imp_right fun ⟨n'', hn⟩ => ⟨n'', ?_⟩
      simpa [Ne.symm hi] using hn

theorem length_foldl_set (results : List (Nat × Nat)) (sent : List Nat) :
    (results.foldl (fun sent (i, n) => sent.set i n) sent).length = sent.length := by
  induction results generalizing sent with
  | nil => rfl
  | cons e results ih => exact (ih _).trans (List.length_set ..)

theorem Sound.forwarded_eq (h : Sound config log r) (hdone : ∀ o ∈ r.outlets, o.isDone = true) :
    r.forwarded = r.outlets.map Outlet.forwarded := by
  refine List.ext_getElem? fun k => ?_
  cases ho : r.outlets[k]? with
  | none =>
    have hk := List.getElem?_eq_none_iff.1 ho
    rw [List.getElem?_map, ho, List.getElem?_eq_none]
    · rfl
    · rw [Run.forwarded, length_foldl_set, List.length_replicate]
      exact hk
  | some o =>
    have hk := (List.getElem?_eq_some_iff.1 ho).1
    obtain ⟨hresult, hforwarded⟩ := h.results k o ho
    rw [List.getElem?_map, ho]
    refine getElem?_foldl_set (by simpa using hk) (fun n hn => (hforwarded n hn).2) (.inr ?_)
    exact hresult (hdone o (List.mem_of_getElem? ho))

theorem Sound.of_isFinished (h : Sound config log r) (finished : r.isFinished = true) :
    r.intake.validator.counts = .ofAll (readIn log) ∧
      (∀ (k : Nat) (o : Outlet), r.outlets[k]? = some o →
        o.attempted = packetsAmong (readIn log)) ∧
      r.forwarded = r.outlets.map Outlet.forwarded := by
  simp only [isFinished, Bool.and_eq_true, List.all_eq_true] at finished
  obtain ⟨⟨validated, isDone⟩, left⟩ := finished
  obtain ⟨hcurrent, drained⟩ := h.drained isDone
  refine ⟨?_, fun k o ho => ?_, h.forwarded_eq left⟩
  · rw [← foldl_add_eq_ofAll, ← h.counted, h.orderly.ahead_eq_nil validated]
    rfl
  · have hqueued := (h.done k o ho (left o (List.mem_of_getElem? ho))).2
    have howed : r.fanout.owed k = [] := by simp [Fanout.owed, hqueued, Fanout.due, hcurrent]
    simpa [howed, h.orderly.pending_of_isDrained drained] using h.carried k o ho

theorem Sound.outlet_of_isFinished (h : Sound config log r) (finished : r.isFinished = true)
    {k : Nat} {target : Endpoint} (htarget : config.targets[k]? = some target) :
    ∃ o, r.outlets[k]? = some o ∧ o.Tells target (attemptsIn k log) ∧
      (attemptsIn k log).map (·.payload) = packetsAmong (readIn log) ∧
      r.forwarded[k]? = some ((attemptsIn k log).countP (·.accepted)) := by
  obtain ⟨-, hattempted, hforwarded⟩ := h.of_isFinished finished
  have hk : k < r.outlets.length := h.length ▸ (List.getElem?_eq_some_iff.1 htarget).1
  have ho : r.outlets[k]? = some r.outlets[k] := List.getElem?_eq_getElem hk
  obtain ⟨target', htarget', htells⟩ := h.tells k _ ho
  obtain rfl : target = target' := Option.some.inj (htarget.symm.trans htarget')
  refine ⟨_, ho, htells, ?_, ?_⟩
  · rw [← htells.attempted_eq, hattempted k _ ho]
  · rw [hforwarded, List.getElem?_map, ho, List.countP_eq_length_filter]
    exact congrArg some ((congrArg List.length htells.delivered_eq).trans (List.length_map ..))

end

/-- **A proxy sends every packet to every target.** Over every row of moves and whatever the network
refuses, each outlet of a proxy that is over has tried to send, to the target of its place, the packets
among the datagrams that were read, unchanged and in their order. It has sent those that the network
accepted, and the summary has their number in the outlet's place: with the attempts that failed they make
up all packets that were counted. -/
theorem attempts_eq_packets {config : Config} (valid : config.check = .ok ()) (net : Network)
    (moves : List Move) (finished : ((start config).steps net moves).isFinished = true) :
    let r := (start config).steps net moves
    let datagrams := (start config).reads net moves
    r.summary.counts = .ofAll datagrams ∧ r.summary.forwarded.length = config.targets.length ∧
      ∀ (k : Nat) (target : Endpoint), config.targets[k]? = some target →
        let attempts := (start config).attempts net moves k
        attempts.map (·.payload) = packetsAmong datagrams ∧
          (∀ a ∈ attempts, a.target = target) ∧
          r.outlets[k]?.map (·.delivered) = some ((attempts.filter (·.accepted)).map (·.payload)) ∧
          r.summary.forwarded[k]? = some (attempts.countP (·.accepted)) ∧
          attempts.countP (·.accepted) + attempts.countP (!·.accepted) = r.summary.counts.valid := by
  intro r datagrams
  have h : Sound config ((start config).events net moves) r :=
    (Sound.start config).steps (Config.targets_pos valid) moves
  obtain ⟨hcounts, -, hforwarded⟩ := h.of_isFinished finished
  refine ⟨hcounts, ?_, fun k target htarget => ?_⟩
  · exact (congrArg List.length hforwarded).trans ((List.length_map ..).trans h.length)
  intro attempts
  obtain ⟨o, ho, htells, hpayloads, hsent⟩ := h.outlet_of_isFinished finished htarget
  refine ⟨hpayloads, htells.target_of_mem, ?_, hsent, ?_⟩
  · rw [ho]
    exact congrArg some htells.delivered_eq
  · calc attempts.countP (·.accepted) + attempts.countP (!·.accepted)
        = attempts.length := by
          simpa using (List.length_eq_countP_add_countP Attempt.accepted (l := attempts)).symm
      _ = (attempts.map (·.payload)).length := (List.length_map ..).symm
      _ = (packetsAmong datagrams).length := congrArg List.length hpayloads
      _ = (Counts.ofAll datagrams).valid := List.countP_eq_length_filter.symm
      _ = r.summary.counts.valid := congrArg Counts.valid hcounts.symm

def twins : Config where
  listen := { ip := .v4 .unspecified, port := 2055 }
  targets := List.replicate 2 { ip := .v4 (.ofOctets 127 0 0 1), port := 9995 }

def faltering : Network where
  send n _ _ := if n = 1 then .error .networkUnreachable else .ok ()

/-- Two packets and a datagram that is none. The signal comes while the last of them is in the listener's
hand, and the second outlet is ahead of the first and over before it. -/
def twinMoves : List Move :=
  [.intake (.read [0, 9, 1]), .intake .hand, .intake (.validate 0), .intake .pass, .take, .offer,
    .intake (.read [0, 5]), .intake .hand, .offer, .forward 1, .intake (.read [0, 9]), .intake .signal,
    .intake (.validate 0), .intake .hand, .intake .stop, .intake (.validate 1), .forward 0,
    .intake .pass, .intake .finish, .take, .offer, .offer, .drain, .forward 1, .leave 1, .forward 0,
    .leave 0]

theorem attempts_eq_packets_twins :
    twins.check = .ok () ∧ ((start twins).steps faltering twinMoves).isFinished = true ∧
      ((start twins).steps faltering twinMoves).summary.counts = { valid := 2, invalid := 1 } ∧
      ((start twins).attempts faltering twinMoves 0).map (·.payload) = [[0, 9, 1], [0, 9]] ∧
      ((start twins).steps faltering twinMoves).summary.forwarded[0]? = some 1 ∧
      ((start twins).attempts faltering twinMoves 1).map (·.payload) = [[0, 9, 1], [0, 9]] ∧
      ((start twins).steps faltering twinMoves).summary.forwarded[1]? = some 2 := by
  have valid : twins.check = .ok () := rfl
  have finished : ((start twins).steps faltering twinMoves).isFinished = true := by decide +kernel
  obtain ⟨counts, -, outlets⟩ := attempts_eq_packets valid faltering twinMoves finished
  obtain ⟨payloads₀, -, -, forwarded₀, -⟩ := outlets 0 _ rfl
  obtain ⟨payloads₁, -, -, forwarded₁, -⟩ := outlets 1 _ rfl
  exact ⟨valid, finished, counts.trans (by decide +kernel), payloads₀.trans (by decide +kernel),
    forwarded₀.trans (by decide +kernel), payloads₁.trans (by decide +kernel),
    forwarded₁.trans (by decide +kernel)⟩

end Run

end FlowTraffic.Receiver.Proxy
