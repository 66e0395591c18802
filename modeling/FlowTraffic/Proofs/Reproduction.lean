import FlowTraffic.Proofs.Netflow.Restamping
import FlowTraffic.Proofs.Receiver.Persisting
import FlowTraffic.Proofs.Receiver.Progress
import FlowTraffic.Proofs.Sender.Replay.Outcome

/-!
# Recording and replaying

What was recorded is sent again as it came: the persister numbers the packets in the order of their arrival,
the store keeps the order of the numbers, and a single worker sends what the reader finds
(`replay_reproduces`).
-/

namespace FlowTraffic

open Netflow Receiver Sender

/-! ## Replaying -/

namespace Sender.Replay

theorem eq_of_one {log : List Event} (known : ∀ e ∈ log, e.worker < 1) :
    takesOf 0 log = takesIn log ∧ attemptsOf 0 log = attemptsIn log := by
  refine ⟨List.filter_eq_self.2 fun t ht => decide_eq_true ?_,
    List.filter_eq_self.2 fun a ha => decide_eq_true ?_⟩
  · exact Nat.lt_one_iff.1 (known _ (mem_takesIn.1 ht))
  · exact Nat.lt_one_iff.1 (known _ (mem_attemptsIn.1 ha))

theorem Run.Sound.payloads_of_one {config : Config} {payloads : List Bytes} {log : List Event} {r : Run}
    (h : r.Sound config payloads log) (one : config.workers = 1) (finished : r.isFinished = true)
    (quiet : r.signalled = false) (fine : ∀ w ∈ r.workers, w.failure = none) :
    (∀ a ∈ attemptsIn log, a.accepted = true) ∧ (attemptsIn log).map (·.payload) = payloads := by
  have hone : config.workers.toNat = 1 := by rw [one]; rfl
  obtain ⟨w, hw, -⟩ := h.stage_eq finished (hone ▸ Nat.one_pos)
  obtain ⟨htakes, hattempts⟩ := eq_of_one (hone ▸ h.pool.known)
  have accepted := (h.pool.tells 0 w hw).fine (fine w (List.mem_of_getElem? hw))
  refine ⟨hattempts ▸ accepted, ?_⟩
  calc (attemptsIn log).map (·.payload)
      = (attemptsOf 0 log).map (·.payload) := by rw [hattempts]
    _ = (takesOf 0 log).map (·.payload) := h.attempts_eq_takes finished 0
    _ = (takesIn log).map (·.payload) := by rw [htakes]
    _ = payloads := h.takes_eq finished quiet (hone ▸ Nat.one_pos) accepted

/-- Played once by one worker, without the signal and without a failure, the contents of a store are
delivered as these packets, one after the other. Such a replay can always come to its end. -/
def Reproduces (contents : Except StoreError Table) (packets : List Bytes) : Prop :=
  ∀ (net : Network) (config : Config) (moves : List Move),
    config.workers = 1 → config.looping = false → .signal ∉ moves →
    let r := (Run.start config contents).steps net config moves
    (∃ more, .signal ∉ more ∧ (r.steps net config more).isFinished = true) ∧
      (r.isFinished = true → (∀ w ∈ r.workers, w.failure = none) →
        (config.updateTimestamps = false → r.delivered = packets) ∧
          List.Forall₂ SameButTime packets r.delivered)

theorem sameButTime_datagram (config : Config) (unixSecs : UInt32) (payload : Bytes) :
    SameButTime payload (config.datagram unixSecs payload) := by
  unfold Config.datagram
  split
  · exact sameButTime_restamp unixSecs payload
  · exact .refl payload

theorem reproduces_of_values {t : Table} {packets : List Bytes} (values : t.values = packets) :
    Reproduces (.ok t) packets := by
  intro net config moves workers once quiet r
  have h : r.Sound config t.values _ := (Run.Sound.start once t).steps moves
  have live : r.Live := (Run.Live.start once (by simp [workers]) t).steps moves
  refine ⟨live.exists_finish, fun finished fine => ?_⟩
  have hsignal : r.signalled = false := Run.signalled_steps quiet _
  obtain ⟨accepted, hpayloads⟩ := h.payloads_of_one workers finished hsignal fine
  rw [values] at hpayloads
  have sent : r.Sent net config _ := (Run.Sent.start net config (.ok t)).steps moves
  let attempts := attemptsIn ((Run.start config (.ok t)).events net config moves)
  have stamped : ∀ a ∈ attempts, ∃ unixSecs, a.datagram = config.datagram unixSecs a.payload := by
    intro a ha
    obtain ⟨k, hk⟩ := List.getElem?_of_mem ha
    exact (sent.answers k a hk).2
  have hdelivered : r.delivered = attempts.map (·.datagram) := by
    rw [sent.delivered, deliveredIn, List.filter_eq_self.2 accepted]
  rw [hdelivered]
  refine ⟨fun keeps => ?_, ?_⟩
  · rw [← hpayloads]
    refine List.map_congr_left fun a ha => ?_
    obtain ⟨unixSecs, hdatagram⟩ := stamped a ha
    rw [hdatagram, Config.datagram, if_neg (by simp [keeps])]
  · rw [← hpayloads, List.forall₂_map_left_iff, List.forall₂_map_right_iff, List.forall₂_same]
    intro a ha
    obtain ⟨unixSecs, hdatagram⟩ := stamped a ha
    rw [hdatagram]
    exact sameButTime_datagram config unixSecs a.payload

end Sender.Replay

/-! ## Recording -/

namespace Receiver.Record

variable {σ : Type} [Store σ]

/-- Any datagrams can be recorded. However that was done, when it is over, with a key for each of the packets
among them, the recording has succeeded, and what it leaves behind goes with the packets. -/
def Run.Leaves (r : Run σ) (P : σ → List Bytes → Prop) : Prop :=
  ∀ datagrams : List Bytes,
    (∃ moves, r.reads moves = datagrams ∧ (r.steps moves).isFinished = true) ∧
      ((packetsAmong datagrams).length < UInt32.size →
        ∀ moves, r.reads moves = datagrams → (r.steps moves).isFinished = true →
          ∃ recording, (r.steps moves).result = .ok recording ∧
            P recording.store (packetsAmong datagrams))

theorem Run.leaves_values [Reliable σ] {shutdown : Shutdown.Watcher} {store : σ} {r : Run σ}
    (empty : Store.contents store = .ok .empty) (ready : prepare shutdown store = .ok r) :
    r.Leaves fun stored packets => ∃ t, Store.contents stored = .ok t ∧ t.values = packets := by
  intro datagrams
  refine ⟨exists_recording ready datagrams, ?_⟩
  rintro fits moves rfl finished
  obtain rfl := eq_of_prepare ready
  obtain ⟨result, hflushed, hcounts, hpersist⟩ := ((Sound.start store).steps moves).of_isFinished finished
  obtain ⟨p, t, hp, hcontents, hentries⟩ := persist_reliable empty fits
  obtain ⟨rfl, rfl⟩ := Prod.mk.inj (hp.symm.trans hpersist)
  refine ⟨_, by rw [Run.result, hflushed]; rfl, t, hcontents, ?_⟩
  rw [OrderedMap.values, hentries, Table.values_numbered]

theorem Run.Leaves.mono {r : Run σ} {P Q : σ → List Bytes → Prop} (h : r.Leaves P)
    (implies : ∀ stored packets, P stored packets → Q stored packets) : r.Leaves Q := by
  intro datagrams
  obtain ⟨possible, leaves⟩ := h datagrams
  refine ⟨possible, fun fits moves hreads finished => ?_⟩
  obtain ⟨recording, hresult, hleft⟩ := leaves fits moves hreads finished
  exact ⟨recording, hresult, implies _ _ hleft⟩

end Receiver.Record

/-! ## Both -/

open Sender.Replay (Reproduces reproduces_of_values)

/-- **What was recorded is replayed as it came.** Any datagrams can be recorded into an empty store, in memory
or in a directory. The recording leaves behind the packets among them, and a replay by one worker sends these
in the order in which they arrived: as they were, or with nothing but the time in their headers changed. A
store in a directory can be closed and opened again in between. -/
theorem replay_reproduces (shutdown : Shutdown.Watcher) :
    (∀ r, Record.prepare shutdown (.empty : Table) = .ok r →
      r.Leaves fun stored packets => Reproduces (Store.contents stored) packets) ∧
    ∀ (store : FileStore) r, store.database.committed = .empty →
      Record.prepare shutdown store = .ok r →
      r.Leaves fun stored packets => Reproduces (Store.contents stored) packets ∧
        ∀ dir, ∃ reopened, FileStore.openAt dir (.closed stored.close) = .ok reopened ∧
          Reproduces (Store.contents reopened) packets := by
  refine ⟨fun r ready => ?_, fun store r empty ready => ?_⟩
  · refine (Record.Run.leaves_values rfl ready).mono fun stored packets ⟨t, hcontents, hvalues⟩ => ?_
    rw [hcontents]
    exact reproduces_of_values hvalues
  · have hempty : Store.contents store = .ok .empty := congrArg Except.ok empty
    refine (Record.Run.leaves_values hempty ready).mono fun stored packets ⟨t, hcontents, hvalues⟩ => ?_
    refine ⟨hcontents ▸ reproduces_of_values hvalues, fun dir => ?_⟩
    obtain ⟨reopened, hopened, hsame⟩ := stored.contents_reopen dir
    exact ⟨reopened, hopened, hsame ▸ hcontents ▸ reproduces_of_values hvalues⟩

def newStore : FileStore where
  path := "flows.redb"
  database := {}
  length := 0

/-- Two packets, one of them long enough for a header, and a datagram that is none in between. -/
def recordMoves : List Record.Move :=
  [[0, 9] ++ List.replicate 20 7, [0, 5], [0, 9, 1]].flatMap Record.datagramMoves ++ Record.closingMoves

def restamping : Replay.Config where
  target := { ip := .v4 (.ofOctets 127 0 0 1), port := 9995 }
  delay := 1000
  updateTimestamps := true

def replayMoves : List Replay.Move := (List.replicate 3 (Replay.round 1 5)).flatten

theorem replay_reproduces_reopened :
    FileStore.openAt "" .empty = .ok newStore ∧
      Record.prepare {} newStore = .ok { persister := { store := newStore } } ∧
      ∃ recording, (Record.Run.steps { persister := { store := newStore } } recordMoves).result =
          .ok recording ∧
        ∃ reopened, FileStore.openAt "" (.closed recording.store.close) = .ok reopened ∧
          ((Replay.Run.start restamping (Store.contents reopened)).steps .routed restamping
            replayMoves).isFinished = true ∧
          List.Forall₂ SameButTime [[0, 9] ++ List.replicate 20 7, [0, 9, 1]]
            ((Replay.Run.start restamping (Store.contents reopened)).steps .routed restamping
              replayMoves).delivered := by
  have ready : Record.prepare {} newStore = .ok { persister := { store := newStore } } := rfl
  obtain ⟨-, filed⟩ := replay_reproduces {}
  obtain ⟨recording, result, -, again⟩ :=
    (filed newStore _ rfl ready _).2 (by decide +kernel) recordMoves rfl (by decide +kernel)
  obtain ⟨reopened, opened, reproduces⟩ := again ""
  refine ⟨rfl, ready, recording, result, reopened, opened, ?_⟩
  obtain rfl := Except.ok.inj (result.symm.trans rfl)
  obtain rfl := Except.ok.inj (opened.symm.trans rfl)
  obtain ⟨-, sent⟩ := reproduces .routed restamping replayMoves rfl rfl (by decide +kernel)
  refine ⟨by decide +kernel, ?_⟩
  exact (sent (by decide +kernel) (by decide +kernel)).2

end FlowTraffic
