import FlowTraffic.Bytes.Sink

/-! # Writing in pieces -/

namespace FlowTraffic.Sink

theorem write_nil (s : Sink) : s.write [] = (.ok (), s) := by
  obtain ⟨_ | room, taken⟩ := s <;> simp [write]

theorem write_limited (room : Nat) (taken b : Bytes) :
    write { room := some room, taken } b =
      (if b.length ≤ room then .ok () else .error .shortWrite,
        { room := some (room - b.length), taken := taken ++ b.take room }) := by
  have part : (b.take room).length = min room b.length := List.length_take
  unfold write
  simp only [part]
  by_cases fits : b.length ≤ room
  · rw [if_pos (by omega), if_pos fits, Nat.min_eq_right fits]
  · rw [if_neg (by omega), if_neg fits, Nat.min_eq_left (by omega), Nat.sub_self,
      Nat.sub_eq_zero_of_le (by omega)]

theorem write_append (s : Sink) (b c : Bytes) :
    s.write (b ++ c) =
      match s.write b with
      | (.ok (), s') => s'.write c
      | (.error e, s') => (.error e, s') := by
  obtain ⟨_ | room, taken⟩ := s
  · simp [write]
  by_cases fits : b.length ≤ room
  · have both : b.length + c.length ≤ room ↔ c.length ≤ room - b.length := by omega
    simp only [write_limited, if_pos fits, List.length_append, both, List.take_append, List.append_assoc,
      Nat.sub_sub]
  · have first : (b ++ c).take room = b.take room := List.take_append_of_le_length (by omega)
    have full : room - (b ++ c).length = room - b.length := by
      rw [List.length_append]
      omega
    simp only [write_limited, if_neg fits, first, full]
    rw [if_neg (by rw [List.length_append]; omega)]

theorem writeAll_eq_write (s : Sink) (bs : List Bytes) : s.writeAll bs = s.write bs.flatten := by
  induction bs generalizing s with
  | nil => exact s.write_nil.symm
  | cons b bs ih =>
    rw [List.flatten_cons, write_append, writeAll]
    cases s.write b with
    | mk result s' =>
      cases result with
      | ok u => exact ih s'
      | error e => rfl

theorem taken_of_write_eq_ok {s s' : Sink} {b : Bytes} (h : s.write b = (.ok (), s')) :
    s'.taken = s.taken ++ b := by
  obtain ⟨_ | room, taken⟩ := s
  · obtain rfl := congrArg Prod.snd h
    rfl
  · rw [write_limited] at h
    obtain ⟨result, rfl⟩ := Prod.mk.inj h
    split at result
    · rename_i fits
      rw [List.take_of_length_le fits]
    · cases result

theorem write_of_room {s : Sink} {b : Bytes} (h : ∀ room, s.room = some room → b.length ≤ room) :
    (s.write b).1 = .ok () := by
  obtain ⟨_ | room, taken⟩ := s
  · rfl
  · rw [write_limited, if_pos (h room rfl)]

end FlowTraffic.Sink
