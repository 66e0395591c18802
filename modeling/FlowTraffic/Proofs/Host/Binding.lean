import Mathlib.Logic.Function.Iterate
import FlowTraffic.Host.Transport
import FlowTraffic.Proofs.Random

/-!
# How a sender gets its port

A sender without a fixed port tries the ports that it draws, one after the other. The words settle which
ports these are, and the machine's answers settle which of them is the last (`bindDrawn_of_last`).
-/

namespace FlowTraffic.Transport

/-! ## Ports that are drawn -/

def drawPort : Draw UInt16 := do return UInt16.ofNat (← Draw.range firstPort portCount)

/-- The words that are left after so many ports. -/
def afterPorts (words : Words) (k : Nat) : Words := (fun w => (drawPort w).2)^[k] words

/-- The port that is drawn after so many others. -/
def drawnPort (words : Words) (k : Nat) : UInt16 := (drawPort (afterPorts words k)).1

theorem drawPort_bounds : drawPort.Always fun port => 10000 ≤ port.toNat ∧ port.toNat < 15000 := by
  unfold drawPort
  refine (Draw.range_bounds (by decide) (by decide)).bind fun k hk => .pure ?_
  have small : k < UInt16.size := Nat.lt_trans hk.2 (by decide)
  rw [UInt16.toNat_ofNat_of_lt' small]
  exact hk

/-! ## Trying them -/

/-- The port of the attempt is taken. -/
def InUse (result : Except TransportError Endpoint) : Prop :=
  ∃ addr, result = .error (.bind addr .addressInUse)

section

variable {bind : Nat → UInt16 → Except TransportError Endpoint} {attempt left : Nat} {words : Words}

theorem bindDrawn_of_inUse (taken : InUse (bind attempt (drawPort words).1)) :
    bindDrawn bind attempt (left + 1) words = bindDrawn bind (attempt + 1) left (drawPort words).2 := by
  obtain ⟨addr, taken⟩ := taken
  have refused : bind attempt (UInt16.ofNat (Draw.range firstPort portCount words).1) =
      .error (.bind addr .addressInUse) := taken
  rw [bindDrawn, Draw.bind_apply, refused]
  rfl

theorem bindDrawn_of_not_inUse (settled : ¬ InUse (bind attempt (drawPort words).1)) :
    bindDrawn bind attempt (left + 1) words =
      (bind attempt (drawPort words).1, (drawPort words).2) := by
  rw [bindDrawn, Draw.bind_apply]
  show _ = (return bind attempt (drawPort words).1 : Draw _) (drawPort words).2
  refine congrFun ?_ (drawPort words).2
  split
  · rename_i addr taken
    exact absurd ⟨addr, taken⟩ settled
  · rfl

/-- The attempt is the last if all before it find their ports in use, and it does not or is the last that is
allowed. -/
theorem bindDrawn_of_last {last : Nat} (allowed : last ≤ left)
    (before : ∀ k < last, InUse (bind (attempt + k) (drawnPort words k)))
    (ends : InUse (bind (attempt + last) (drawnPort words last)) → last = left) :
    bindDrawn bind attempt left words =
      (bind (attempt + last) (drawnPort words last), afterPorts words (last + 1)) := by
  induction left generalizing attempt words last with
  | zero =>
    obtain rfl := Nat.le_zero.1 allowed
    rfl
  | succ left ih =>
    cases last with
    | zero => exact bindDrawn_of_not_inUse fun taken => Nat.succ_ne_zero left (ends taken).symm
    | succ last =>
      have shift (k : Nat) : attempt + (k + 1) = attempt + 1 + k := by omega
      have first : InUse (bind attempt (drawPort words).1) := before 0 (Nat.succ_pos last)
      rw [bindDrawn_of_inUse first, shift last]
      apply ih (Nat.le_of_succ_le_succ allowed)
      · intro k hk
        rw [← shift]
        exact before (k + 1) (Nat.succ_lt_succ hk)
      · intro taken
        rw [← shift] at taken
        exact Nat.succ.inj (ends taken)

end

theorem exists_last (goesOn : Nat → Prop) (left : Nat) :
    ∃ last ≤ left, (∀ k < last, goesOn k) ∧ (goesOn last → last = left) := by
  -- On the attempts that are left after the first: the last one goes on into one more, or stays the last.
  induction left with
  | zero => exact ⟨0, Nat.le_refl 0, nofun, fun _ => rfl⟩
  | succ left ih =>
    obtain ⟨last, allowed, before, ends⟩ := ih
    by_cases more : goesOn last
    · obtain rfl := ends more
      refine ⟨last + 1, Nat.le_refl _, ?_, fun _ => rfl⟩
      intro k hk
      rcases Nat.lt_succ_iff_lt_or_eq.1 hk with hk | rfl
      · exact before k hk
      · exact more
    · exact ⟨last, Nat.le_succ_of_le allowed, before, fun h => absurd h more⟩

theorem bind_inUse_iff {net : Network} {n : Nat} {addr : Endpoint} :
    InUse (bind net n addr) ↔ net.bind n addr = .error .addressInUse := by
  unfold bind InUse
  cases net.bind n addr with
  | ok => simp
  | error why => simp

section

variable {net : Network} {dest : Endpoint} {words : Words} {last : Nat}

/-- The endpoint of an attempt: any address of the machine, of the destination's kind, and the port that is
drawn for it. -/
def drawnEndpoint (dest : Endpoint) (words : Words) (k : Nat) : Endpoint :=
  { ip := dest.ip.anyLike, port := drawnPort words k }

theorem bindSender_of_last (allowed : last < 16)
    (before : ∀ k < last, net.bind k (drawnEndpoint dest words k) = .error .addressInUse)
    (ends : net.bind last (drawnEndpoint dest words last) = .error .addressInUse → last = 15) :
    (bindSender net dest none).run words =
      (bind net last (drawnEndpoint dest words last), afterPorts words (last + 1)) := by
  have tried := @bindDrawn_of_last (fun n port => bind net n { ip := dest.ip.anyLike, port }) 0 15 words last
    (Nat.le_of_lt_succ allowed)
  simp only [Nat.zero_add, bind_inUse_iff] at tried
  exact tried before ends

end

/-- **A random source port is tried at most sixteen times.** The ports are drawn one after the other, all of
them between 10000 and 15000. Attempts are made as long as the machine answers that the port is in use, and the
result is that of the last one: the first with another answer, or the sixteenth. One port is drawn for each
attempt, and what the machine would have answered to any other question does not matter. -/
theorem bindSender_tries (net : Network) (dest : Endpoint) (words : Words) :
    let addr := drawnEndpoint dest words
    (∀ k, 10000 ≤ (addr k).port.toNat ∧ (addr k).port.toNat < 15000) ∧
      ∃ last < 16,
        (∀ k < last, net.bind k (addr k) = .error .addressInUse) ∧
        (net.bind last (addr last) = .error .addressInUse → last = 15) ∧
        (bindSender net dest none).run words = (bind net last (addr last), afterPorts words (last + 1)) ∧
        ∀ net' : Network, (∀ k ≤ last, net'.bind k (addr k) = net.bind k (addr k)) →
          (bindSender net' dest none).run words = (bindSender net dest none).run words := by
  intro addr
  refine ⟨fun k => drawPort_bounds _, ?_⟩
  obtain ⟨last, few, before, ends⟩ :=
    exists_last (fun k => net.bind k (addr k) = .error .addressInUse) 15
  have allowed : last < 16 := Nat.lt_succ_of_le few
  have result := bindSender_of_last allowed before ends
  refine ⟨last, allowed, before, ends, result, fun net' same => ?_⟩
  have lastSame : net'.bind last (addr last) = net.bind last (addr last) := same last (Nat.le_refl last)
  have before' : ∀ k < last, net'.bind k (addr k) = .error .addressInUse := by
    intro k hk
    rw [same k (Nat.le_of_lt hk), before k hk]
  rw [result, bindSender_of_last allowed before' (by rwa [lastSame])]
  unfold bind
  rw [lastSame]

end FlowTraffic.Transport
