import FlowTraffic.Proofs.Random
import FlowTraffic.Sender.Source

/-!
# Source IDs

A source ID is drawn from 100 up, 9900 of them, and there is a word for each.
-/

namespace FlowTraffic.Sender

/-- The source ID is one of those that are drawn. -/
def IsSource (source : UInt32) : Prop :=
  firstSource ≤ source.toNat ∧ source.toNat < firstSource + sourceCount

theorem isSource_drawSource : drawSource.Always IsSource := by
  unfold drawSource
  refine (Draw.range_bounds (by decide) (by decide)).bind fun k hk => .pure ?_
  have small : k < UInt32.size := Nat.lt_trans hk.2 (by decide)
  rw [IsSource, UInt32.toNat_ofNat_of_lt' small]
  exact hk

theorem exists_word_source {source : UInt32} (h : IsSource source) (words : Words) :
    ∃ w, (drawSource (words.withNext w)).1 = source := by
  obtain ⟨w, hw⟩ := Draw.exists_word_range (by decide) h.1 h.2 words
  refine ⟨w, ?_⟩
  show UInt32.ofNat (Draw.range firstSource sourceCount (words.withNext w)).1 = source
  rw [hw]
  exact UInt32.ofNat_toNat

end FlowTraffic.Sender
