import FlowTraffic.Proofs.Receiver.Moves

/-!
# Outlets that close

The queue of an outlet may close for good at any moment, and with it what the fan out does next changes:
an outlet that is found closed is taken out, and the last one comes to its place. No payload is left out
for that, and none comes twice, since the outlets that have had the payload at hand are always the ones
before the place (`coming`).
-/

namespace FlowTraffic.Receiver

/-! ## The list of the outlets -/

theorem exists_swapRemove {α : Type} {xs : List α} {i : Nat} {x : α} (h : xs[i]? = some x) :
    ∃ front back back', xs = front ++ x :: back ∧ front.length = i ∧ back'.Perm back ∧
      swapRemove xs i = front ++ back' := by
  obtain ⟨hi, rfl⟩ := List.getElem?_eq_some_iff.1 h
  have hne : xs ≠ [] := List.ne_nil_of_length_pos (Nat.zero_lt_of_lt hi)
  obtain ⟨last, hlast⟩ : ∃ last, xs.getLast? = some last :=
    ⟨_, List.getLast?_eq_some_getLast hne⟩
  obtain ⟨front, back, hsplit, hlength, hset⟩ : ∃ front back, xs = front ++ xs[i] :: back ∧
      front.length = i ∧ xs.set i last = front ++ last :: back := List.exists_of_set hi
  refine ⟨front, back, (last :: back).dropLast, hsplit, hlength, ?_, ?_⟩
  · -- The last member comes to the front of the ones after the place, if there are any.
    rcases List.eq_nil_or_concat back with rfl | ⟨init, last', rfl⟩
    · exact .nil
    · have hlast' : xs.getLast? = some last' := by
        rw [hsplit, List.concat_eq_append, ← List.cons_append, ← List.append_assoc, List.getLast?_concat]
      obtain rfl : last = last' := Option.some.inj (hlast.symm.trans hlast')
      rw [List.concat_eq_append, ← List.cons_append, List.dropLast_concat]
      exact (List.perm_append_singleton last init).symm
  · simp only [swapRemove, hlast, hset]
    exact List.dropLast_append_of_ne_nil (List.cons_ne_nil _ _)

namespace Fanout

/-- The payload at hand, if it is still to come to the outlet. -/
def coming (f : Fanout) (k : Nat) : List Bytes :=
  match f.current with
  | some (payload, place) => if k ∈ f.outlets.drop place then [payload] else []
  | none => []

/-- What an outlet gets that has the queue `q` to begin with. -/
structure Served (log : List Event) (f : Fanout) (k : Nat) (q : Queue Bytes) : Prop where
  /-- It is offered the payloads one after the other, each of them once. -/
  inOrder : (offersTo k log).map Prod.fst <+: takenIn log
  /-- As long as it is not found closed, none of them is left out. -/
  complete : (∀ o ∈ offersTo k log, o.2 = true) →
    (offersTo k log).map Prod.fst ++ f.coming k = takenIn log
  /-- After it is found closed it is offered nothing. -/
  last : ∀ before payload rest, offersTo k log = before ++ (payload, false) :: rest → rest = []
  /-- Its queue takes all that it is offered before it closes, and nothing after. -/
  accepted : (offersTo k log).filter Prod.snd =
    if q.isOpen then offersTo k (beforeClosing k log) else []
  /-- What its queue takes is read from it in the same order. -/
  received : q.items ++ ((offersTo k log).filter Prod.snd).map Prod.fst =
    poppedFrom k log ++ f.queued k

variable {f f' : Fanout} {m : Move}

/-! ## The turns of an outlet -/

section

variable {log log' : List Event} {k : Nat}

/-- What has come to an outlet of the payloads that were taken, or had come when it was found closed. -/
inductive Turns (log : List Event) (f : Fanout) (k : Nat) : Prop
  | listed (mem : k ∈ f.outlets) (accepted : ∀ o ∈ offersTo k log, o.2 = true)
      (all : (offersTo k log).map Prod.fst ++ f.coming k = takenIn log)
  | found (gone : k ∉ f.outlets) {before : List (Bytes × Bool)} {payload : Bytes}
      (offers : offersTo k log = before ++ [(payload, false)]) (accepted : ∀ o ∈ before, o.2 = true)
      (inOrder : (offersTo k log).map Prod.fst <+: takenIn log)

theorem Turns.congr (h : Turns log f k) (offers : offersTo k log' = offersTo k log)
    (taken : takenIn log' = takenIn log) (mem : k ∈ f'.outlets ↔ k ∈ f.outlets)
    (coming : f'.coming k = f.coming k) : Turns log' f' k := by
  cases h with
  | listed hmem accepted all =>
    refine .listed (mem.2 hmem) (offers ▸ accepted) ?_
    rw [offers, coming, taken, all]
  | found gone hoffers accepted inOrder =>
    refine .found (fun h => gone (mem.1 h)) (offers.trans hoffers) accepted ?_
    rwa [offers, taken]

theorem coming_of_current {payload : Bytes} {place : Nat} (h : f.current = some (payload, place)) :
    f.coming k = if k ∈ f.outlets.drop place then [payload] else [] := by
  simp only [coming, h]

theorem coming_moveOn (f : Fanout) (payload : Bytes) (place k : Nat) :
    (f.moveOn payload place).coming k = if k ∈ f.outlets.drop place then [payload] else [] := by
  simp only [coming, moveOn]
  by_cases h : place < f.outlets.length
  · simp only [if_pos h]
    rfl
  · simp [if_neg h, List.drop_eq_nil_of_le (Nat.le_of_not_lt h)]

theorem drop_turn {xs : List Nat} {i x : Nat} (h : xs[i]? = some x) :
    xs.drop i = x :: xs.drop (i + 1) := by
  rw [List.drop_eq_getElem?_toList_append, h]
  rfl

theorem not_mem_drop {xs : List Nat} {i x : Nat} (hxs : xs.Nodup) (h : xs[i]? = some x) :
    x ∉ xs.drop (i + 1) := by
  have hdrop : (xs.drop i).Nodup := hxs.sublist (List.drop_sublist i xs)
  rw [drop_turn h] at hdrop
  exact (List.nodup_cons.1 hdrop).1

theorem Turns.takes (h : Turns log f k) (free : f.current = none) (payload : Bytes) :
    Turns (log ++ [.taken payload]) (f.take payload) k := by
  have hoffers : offersTo k (log ++ [.taken payload]) = offersTo k log := by
    simp [Event.offer?]
  have htaken : takenIn (log ++ [.taken payload]) = takenIn log ++ [payload] :=
    takenIn_concat log _
  cases h with
  | listed mem accepted all =>
    refine .listed mem (hoffers ▸ accepted) ?_
    have hcoming : f.coming k = [] := by simp only [coming, free]
    have hcoming' : (f.take payload).coming k = [payload] := if_pos mem
    rw [hoffers, htaken, hcoming', ← all, hcoming, List.append_nil]
  | found gone offers accepted inOrder =>
    refine .found gone (hoffers.trans offers) accepted ?_
    rw [hoffers, htaken]
    exact inOrder.trans (List.prefix_append _ _)

theorem Turns.offered (h : Turns log f k) {payload : Bytes} {place : Nat}
    (current : f.current = some (payload, place)) (turn : f.outlets[place]? = some k) :
    (∀ o ∈ offersTo k log, o.2 = true) ∧ (offersTo k log).map Prod.fst ++ [payload] = takenIn log := by
  cases h with
  | listed mem accepted all =>
    rw [coming_of_current current, drop_turn turn, if_pos List.mem_cons_self] at all
    exact ⟨accepted, all⟩
  | found gone _ _ _ => exact absurd (List.mem_of_getElem? turn) gone

theorem Turns.gives (h : Turns log f k) (nodup : f.outlets.Nodup) {payload : Bytes} {place j : Nat}
    (current : f.current = some (payload, place)) (turn : f.outlets[place]? = some j) {g : Fanout}
    (outlets : g.outlets = f.outlets) :
    Turns (log ++ [.offered j payload true]) (g.moveOn payload (place + 1)) k := by
  have htaken : takenIn (log ++ [.offered j payload true]) = takenIn log := by
    simp [Event.taken?]
  have hmem : k ∈ (g.moveOn payload (place + 1)).outlets ↔ k ∈ f.outlets := by
    rw [← outlets]
    rfl
  by_cases hj : j = k
  · subst hj
    have hoffers : offersTo j (log ++ [.offered j payload true]) =
        offersTo j log ++ [(payload, true)] := by
      simp [Event.offer?]
    obtain ⟨accepted, all⟩ := h.offered current turn
    refine .listed (hmem.2 (List.mem_of_getElem? turn)) ?_ ?_
    · simpa [hoffers, or_imp, forall_and] using accepted
    · rw [coming_moveOn, outlets, if_neg (not_mem_drop nodup turn)]
      simp [hoffers, htaken, ← all]
  · refine h.congr ?_ htaken hmem ?_
    · simp [Event.offer?, hj]
    · rw [coming_moveOn, coming_of_current current, outlets]
      simp [drop_turn turn, Ne.symm hj]

theorem Turns.drops (h : Turns log f k) (nodup : f.outlets.Nodup) {payload : Bytes} {place j : Nat}
    (current : f.current = some (payload, place)) (turn : f.outlets[place]? = some j) :
    Turns (log ++ [.offered j payload false])
      (moveOn { f with outlets := swapRemove f.outlets place } payload place) k := by
  -- The outlets before the place stay where they are, and the ones after it are still to come.
  obtain ⟨front, back, back', hsplit, rfl, hperm, hswap⟩ := exists_swapRemove turn
  rw [hsplit, List.perm_middle.nodup_iff, List.nodup_cons] at nodup
  rw [hsplit] at hswap
  have htaken : takenIn (log ++ [.offered j payload false]) = takenIn log := by
    simp [Event.taken?]
  by_cases hj : j = k
  · subst hj
    have hoffers : offersTo j (log ++ [.offered j payload false]) =
        offersTo j log ++ [(payload, false)] := by
      simp [Event.offer?]
    obtain ⟨accepted, all⟩ := h.offered current turn
    refine .found ?_ hoffers accepted ?_
    · simpa [moveOn, hsplit, hswap, hperm.mem_iff] using nodup.1
    · simp [hoffers, htaken, ← all]
  · refine h.congr ?_ htaken ?_ ?_
    · simp [Event.offer?, hj]
    · simp [moveOn, hsplit, hswap, hperm.mem_iff, Ne.symm hj]
    · rw [coming_moveOn, coming_of_current current]
      simp [hsplit, hswap, hperm.mem_iff, Ne.symm hj]

/-- **A move keeps the turns of an outlet right.** -/
theorem Turns.change {e? : Option Event} (h : Turns log f k) (nodup : f.outlets.Nodup)
    (hc : Change f m e? f') : Turns (log ++ e?.toList) f' k := by
  cases hc with
  | takes free running => exact h.takes free _
  | runsOut current past =>
    refine h.congr (by simp) (by simp) .rfl ?_
    rw [coming_moveOn, coming_of_current current]
  | gives current turn queue isOpen => exact h.gives nodup current turn rfl
  | drops current turn queue closed => exact h.drops nodup current turn
  | pops queue first =>
    exact h.congr (by simp [Event.offer?]) (by simp [Event.taken?]) .rfl rfl
  | closes =>
    exact h.congr (by simp [Event.offer?]) (by simp [Event.taken?]) .rfl rfl
  | finishes free running =>
    exact h.congr (by simp [Event.offer?]) (by simp [Event.taken?]) .rfl rfl

end

/-! ## The queue of an outlet -/

section

variable {log : List Event} {k : Nat} {payload : Bytes} {q q' : Queue Bytes}

theorem beforeClosing_append_of_notMem (h : .closed k ∉ log) (es : List Event) :
    beforeClosing k (log ++ es) = log ++ beforeClosing k es :=
  takeWhile_ne_append_of_notMem h es

theorem beforeClosing_of_notMem (h : .closed k ∉ log) : beforeClosing k log = log := by
  simpa [beforeClosing] using beforeClosing_append_of_notMem h []

theorem beforeClosing_concat_of_mem (h : .closed k ∈ log) (e : Event) :
    beforeClosing k (log ++ [e]) = beforeClosing k log :=
  takeWhile_ne_append_of_mem h [e]

theorem offersTo_beforeClosing_concat {e : Event} (h : e.offer? k = none) :
    offersTo k (beforeClosing k (log ++ [e])) = offersTo k (beforeClosing k log) := by
  by_cases closed : .closed k ∈ log
  · rw [beforeClosing_concat_of_mem closed]
  · rw [beforeClosing_append_of_notMem closed, beforeClosing_of_notMem closed]
    by_cases hclose : e = .closed k
    · simp [beforeClosing, hclose]
    · have hkeep : beforeClosing k [e] = [e] := by simp [beforeClosing, hclose]
      simp [hkeep, h]

/-- What the queue of an outlet, once `q`, has taken and given away by the time it is `q'`. -/
structure Holds (log : List Event) (k : Nat) (q q' : Queue Bytes) : Prop where
  isOpen : q'.isOpen = true ↔ q.isOpen = true ∧ .closed k ∉ log
  accepted : (offersTo k log).filter Prod.snd =
    if q.isOpen then offersTo k (beforeClosing k log) else []
  received : q.items ++ ((offersTo k log).filter Prod.snd).map Prod.fst =
    poppedFrom k log ++ q'.items

theorem Holds.start (k : Nat) (q : Queue Bytes) : Holds [] k q q where
  isOpen := by simp
  accepted := by simp [offersTo, beforeClosing]
  received := by simp [offersTo, poppedFrom]

theorem Holds.accepted_concat (h : Holds log k q q') {e : Event} (unoffered : e.offer? k = none) :
    (offersTo k (log ++ [e])).filter Prod.snd =
      if q.isOpen then offersTo k (beforeClosing k (log ++ [e])) else [] := by
  rw [offersTo_beforeClosing_concat unoffered, ← h.accepted, offersTo_concat, unoffered]
  exact congrArg _ (List.append_nil _)

theorem Holds.other (h : Holds log k q q') {e : Event} (unoffered : e.offer? k = none)
    (unread : e.popped? k = none) (stays : e ≠ .closed k) : Holds (log ++ [e]) k q q' where
  isOpen := by simp [h.isOpen, Ne.symm stays]
  accepted := h.accepted_concat unoffered
  received := by simpa [unoffered, unread] using h.received

theorem Holds.gives (h : Holds log k q q') (isOpen : q'.isOpen = true) (payload : Bytes) :
    Holds (log ++ [.offered k payload true]) k q { q' with items := q'.items ++ [payload] } where
  isOpen := by simpa using h.isOpen
  accepted := by
    obtain ⟨hq, hlog⟩ := h.isOpen.1 isOpen
    have haccepted := h.accepted
    rw [if_pos hq, beforeClosing_of_notMem hlog] at haccepted
    rw [if_pos hq, beforeClosing_of_notMem (by simpa using hlog)]
    simpa [Event.offer?] using haccepted
  received := by
    have hreceived := congrArg (· ++ [payload]) h.received
    simpa [Event.offer?, Event.popped?] using hreceived

theorem Holds.drops (h : Holds log k q q') (closed : q'.isOpen = false) (payload : Bytes) :
    Holds (log ++ [.offered k payload false]) k q q' where
  isOpen := by simpa using h.isOpen
  accepted := by
    have hfilter : (offersTo k (log ++ [.offered k payload false])).filter Prod.snd =
        (offersTo k log).filter Prod.snd := by
      simp [Event.offer?]
    rw [hfilter, h.accepted]
    split
    · rename_i hq
      have hlog : .closed k ∈ log := by
        by_contra hlog
        simp [h.isOpen.2 ⟨hq, hlog⟩] at closed
      rw [beforeClosing_concat_of_mem hlog]
    · rfl
  received := by simpa [Event.offer?, Event.popped?] using h.received

theorem Holds.pops (h : Holds log k q q') {items : List Bytes} (first : q'.items = payload :: items) :
    Holds (log ++ [.popped k payload]) k q { q' with items } where
  isOpen := by simpa using h.isOpen
  accepted := h.accepted_concat rfl
  received := by
    have hreceived := h.received
    rw [first] at hreceived
    simpa [Event.offer?, Event.popped?] using hreceived

theorem Holds.closes (h : Holds log k q q') : Holds (log ++ [.closed k]) k q q'.close where
  isOpen := by simp [Queue.close]
  accepted := h.accepted_concat rfl
  received := by simpa [Event.offer?, Event.popped?, Queue.close] using h.received

/-- **A move keeps what is known of the queue of an outlet.** -/
theorem Holds.change {e? : Option Event} (h : Holds log k q q') (hq : f.queues[k]? = some q')
    (hc : Change f m e? f') : ∃ q'', f'.queues[k]? = some q'' ∧ Holds (log ++ e?.toList) k q q'' := by
  have hk : k < f.queues.length := (List.getElem?_eq_some_iff.1 hq).1
  cases hc with
  | takes free running => exact ⟨q', hq, h.other rfl rfl nofun⟩
  | finishes free running => exact ⟨q', hq, h.other rfl rfl nofun⟩
  | runsOut current past => exact ⟨q', hq, by simpa using h⟩
  | @gives payload place j q₀ current turn queue isOpen =>
    by_cases hj : j = k
    · subst hj
      obtain rfl : q₀ = q' := Option.some.inj (queue.symm.trans hq)
      exact ⟨_, List.getElem?_set_self hk, h.gives isOpen payload⟩
    · refine ⟨q', (List.getElem?_set_ne hj).trans hq, h.other ?_ rfl nofun⟩
      simp [Event.offer?, hj]
  | @drops payload place j q₀ current turn queue closed =>
    by_cases hj : j = k
    · subst hj
      obtain rfl : q₀ = q' := Option.some.inj (queue.symm.trans hq)
      exact ⟨q₀, hq, h.drops closed payload⟩
    · refine ⟨q', hq, h.other ?_ rfl nofun⟩
      simp [Event.offer?, hj]
  | @pops payload j q₀ items queue first =>
    by_cases hj : j = k
    · subst hj
      obtain rfl : q₀ = q' := Option.some.inj (queue.symm.trans hq)
      exact ⟨_, List.getElem?_set_self hk, h.pops first⟩
    · refine ⟨q', (List.getElem?_set_ne hj).trans hq, h.other rfl ?_ nofun⟩
      simp [Event.popped?, hj]
  | @closes j =>
    by_cases hj : j = k
    · subst hj
      exact ⟨q'.close, by simp [close, hq], h.closes⟩
    · refine ⟨q', by simp [close, hj, hq], h.other rfl rfl ?_⟩
      simpa using hj

end

/-! ## The end of a fan out -/

section

variable {log log' : List Event}

/-- When a fan out is over. -/
structure Ends (log : List Event) (f : Fanout) : Prop where
  running : f.current ≠ none → f.isDone = false
  taken : f.current ≠ none → takenIn log ≠ []
  done : f.isDone = true ↔ .finished ∈ log ∨ takenIn log ≠ [] ∧ f.current = none ∧ f.outlets = []

theorem Ends.notMem (h : Ends log f) (running : f.isDone = false) : .finished ∉ log := fun hlog =>
  Bool.false_ne_true (running.symm.trans (h.done.2 (.inl hlog)))

theorem Ends.congr (h : Ends log f) {e : Event} (untaken : e.taken? = none) (stays : e ≠ .finished)
    (current : f'.current = f.current) (isDone : f'.isDone = f.isDone)
    (outlets : f'.outlets = f.outlets) : Ends (log ++ [e]) f' where
  running := by simpa only [current, isDone] using h.running
  taken := by simpa [current, untaken] using h.taken
  done := by simpa [current, isDone, outlets, untaken, Ne.symm stays] using h.done

theorem Ends.moveOn (h : Ends log f) (current : f.current ≠ none) {e? : Option Event}
    (untaken : e?.bind Event.taken? = none) (stays : e? ≠ some .finished) (g : Fanout) (payload : Bytes)
    (place : Nat) : Ends (log ++ e?.toList) (g.moveOn payload place) := by
  have htaken : takenIn (log ++ e?.toList) ≠ [] := by
    cases e? with
    | none => simpa using h.taken current
    | some e => simp [h.taken current]
  have hlog : .finished ∉ log ++ e?.toList := by
    simpa [h.notMem (h.running current)] using stays
  refine ⟨fun hcurrent => ?_, fun _ => htaken, ?_⟩
  · have hplace : place < g.outlets.length := by
      by_contra hplace
      exact hcurrent (if_neg hplace)
    simpa [Fanout.moveOn] using List.ne_nil_of_length_pos (Nat.zero_lt_of_lt hplace)
  · simp only [Fanout.moveOn, List.isEmpty_iff, hlog, false_or, htaken, ne_eq, not_false_eq_true,
      true_and]
    refine ⟨fun hnil => ⟨?_, hnil⟩, fun h => h.2⟩
    simp [hnil]

theorem Ends.change {e? : Option Event} (h : Ends log f) (hc : Change f m e? f') :
    Ends (log ++ e?.toList) f' := by
  cases hc with
  | takes free running =>
    have hlog := h.notMem running
    refine ⟨fun _ => running, fun _ => by simp [Event.taken?], ?_⟩
    simp [Fanout.take, running, hlog]
  | runsOut current past => exact h.moveOn (by simp [current]) rfl (by simp) f _ _
  | gives current turn queue isOpen => exact h.moveOn (by simp [current]) rfl (by simp) _ _ _
  | drops current turn queue closed => exact h.moveOn (by simp [current]) rfl (by simp) _ _ _
  | pops queue first => exact h.congr rfl (by simp) rfl rfl rfl
  | closes => exact h.congr rfl (by simp) rfl rfl rfl
  | finishes free running => exact ⟨fun h => absurd free h, fun h => absurd free h, by simp⟩

end

/-! ## A row of moves -/

section

variable {queues : List (Queue Bytes)} {log : List Event}

/-- What holds of a fan out over these queues, whatever has happened. -/
structure Sound (queues : List (Queue Bytes)) (log : List Event) (f : Fanout) : Prop where
  nodup : f.outlets.Nodup
  lt_of_mem : ∀ k ∈ f.outlets, k < queues.length
  turns : ∀ k < queues.length, Turns log f k
  holds : ∀ k q, queues[k]? = some q → ∃ q', f.queues[k]? = some q' ∧ Holds log k q q'
  ends : Ends log f

theorem Sound.start (queues : List (Queue Bytes)) : Sound queues [] (ofQueues queues) where
  nodup := List.nodup_range
  lt_of_mem k hk := List.mem_range.1 hk
  turns k hk := .listed (List.mem_range.2 hk) nofun rfl
  holds k q hq := ⟨q, hq, .start k q⟩
  ends := ⟨fun h => absurd rfl h, fun h => absurd rfl h, by simp [ofQueues, takenIn]⟩

theorem Change.outlets {e? : Option Event} (hc : Change f m e? f') (nodup : f.outlets.Nodup) :
    f'.outlets.Nodup ∧ ∀ k ∈ f'.outlets, k ∈ f.outlets := by
  cases hc with
  | @drops payload place j q current turn queue closed =>
    obtain ⟨front, back, back', hsplit, rfl, hperm, hswap⟩ := exists_swapRemove turn
    simp only [moveOn, hswap]
    rw [hsplit] at nodup ⊢
    refine ⟨?_, fun k hk => ?_⟩
    · rw [(hperm.append_left front).nodup_iff]
      exact (List.nodup_cons.1 (List.perm_middle.nodup_iff.1 nodup)).2
    · simp only [List.mem_append, hperm.mem_iff] at hk
      simpa using hk.imp_right Or.inr
  | _ => exact ⟨nodup, fun _ hk => hk⟩

theorem Sound.step (h : Sound queues log f) (hs : f.step m = some f') :
    Sound queues (log ++ (f.event? m).toList) f' := by
  have hc := change_of_step hs
  obtain ⟨hnodup, hmem⟩ := hc.outlets h.nodup
  refine ⟨hnodup, fun k hk => h.lt_of_mem k (hmem k hk), fun k hk => (h.turns k hk).change h.nodup hc,
    fun k q hq => ?_, h.ends.change hc⟩
  obtain ⟨q', hq', hholds⟩ := h.holds k q hq
  exact hholds.change hq' hc

theorem Sound.run (queues : List (Queue Bytes)) (moves : List Move) :
    Sound queues ((ofQueues queues).events moves) ((ofQueues queues).after moves) :=
  observe_induction (fun _ _ _ _ h hs => Sound.step h hs) (Sound.start queues) moves

theorem Sound.served (h : Sound queues log f) {k : Nat} {q : Queue Bytes} (hq : queues[k]? = some q) :
    Served log f k q := by
  have hk : k < queues.length := (List.getElem?_eq_some_iff.1 hq).1
  obtain ⟨q', hq', hholds⟩ := h.holds k q hq
  have hqueued : f.queued k = q'.items := by simp [queued, hq']
  have hreceived := hqueued ▸ hholds.received
  cases h.turns k hk with
  | listed mem accepted all =>
    refine ⟨⟨_, all⟩, fun _ => all, fun before payload rest hoffers => ?_, hholds.accepted, hreceived⟩
    have hrefused := accepted (payload, false) (by simp [hoffers])
    cases hrefused
  | @found gone before payload offers accepted inOrder =>
    refine ⟨inOrder, fun hall => ?_, fun before' payload' rest hoffers => ?_, hholds.accepted, hreceived⟩
    · have hrefused := hall (payload, false) (by simp [offers])
      cases hrefused
    · -- Another refusal would stand among the offers before the last one.
      rw [offers] at hoffers
      obtain ⟨-, -, hrest⟩ | ⟨rest', rfl⟩ := split_concat hoffers.symm
      · exact hrest
      · have hrefused := accepted (payload', false) (by simp)
        cases hrefused

theorem Sound.outlets_eq_nil_iff (h : Sound queues log f) :
    f.outlets = [] ↔ ∀ k < queues.length, ∃ o ∈ offersTo k log, o.2 = false := by
  refine ⟨fun hnil k hk => ?_, fun hall => List.eq_nil_iff_forall_not_mem.2 fun k hmem => ?_⟩
  · cases h.turns k hk with
    | listed mem _ _ => simp [hnil] at mem
    | found _ offers _ _ =>
      rw [offers]
      exact ⟨_, List.mem_append_right _ List.mem_cons_self, rfl⟩
  · obtain ⟨o, ho, hrefused⟩ := hall k (h.lt_of_mem k hmem)
    cases h.turns k (h.lt_of_mem k hmem) with
    | listed _ accepted _ => exact Bool.false_ne_true (hrefused.symm.trans (accepted o ho))
    | found gone _ _ _ => exact gone hmem

theorem Sound.offer_eq_none_iff (h : Sound queues log f) {payload : Bytes} {place : Nat}
    (current : f.current = some (payload, place)) :
    f.offer = none ↔ ∃ k q, f.outlets[place]? = some k ∧ f.queues[k]? = some q ∧ q.isOpen = true ∧
      q.capacity ≤ q.items.length := by
  cases turn : f.outlets[place]? with
  | none => simp [offer, current, turn]
  | some k =>
    have hk : k < queues.length := h.lt_of_mem k (List.mem_of_getElem? turn)
    obtain ⟨q, hq, -⟩ := h.holds k queues[k] (List.getElem?_eq_getElem hk)
    cases hopen : q.isOpen with
    | false => simp [offer, current, turn, hq, hopen]
    | true =>
      by_cases room : q.items.length < q.capacity
      · simp [offer, current, turn, hq, hopen, Queue.push?, room]
      · simp [offer, current, turn, hq, hopen, Queue.push?, Nat.le_of_not_lt room]

end

/-- **Every outlet gets what comes to it before it closes.** Whenever the queues close, each outlet is
offered every payload once and in its order, until it is found closed; its queue takes what it is offered
before it closes, and what it takes is read from it in the same order. The fan out ends with its payloads,
or when it has found every outlet closed, and it waits for nothing but room in an open queue. -/
theorem served_until_closed {queues : List (Queue Bytes)} {moves : List Move} {log : List Event}
    (seen : (ofQueues queues).events moves = log) (reached : (ofQueues queues).after moves = f) :
    (∀ k q, queues[k]? = some q → Served log f k q) ∧
      (f.isDone = true ↔ .finished ∈ log ∨ takenIn log ≠ [] ∧ f.current = none ∧
        ∀ k < queues.length, ∃ o ∈ offersTo k log, o.2 = false) ∧
      ∀ payload place, f.current = some (payload, place) →
        (f.offer = none ↔ ∃ k q, f.outlets[place]? = some k ∧ f.queues[k]? = some q ∧
          q.isOpen = true ∧ q.capacity ≤ q.items.length) := by
  subst seen reached
  have hsound := Sound.run queues moves
  refine ⟨fun k q hq => hsound.served hq, ?_, fun payload place => hsound.offer_eq_none_iff⟩
  rw [← hsound.outlets_eq_nil_iff]
  exact hsound.ends.done

def quartet : Fanout := ofQueues (List.replicate 4 { capacity := 2 })

/-- Two outlets close while the first payload is at hand, and the others before the third. -/
def desertion : List Move :=
  [.take [1], .close 1, .offer, .close 2, .offer, .offer, .offer, .pop 3, .take [2], .offer, .offer,
    .close 0, .close 3, .take [3], .offer, .offer]

theorem served_until_closed_deserted :
    (∀ k < 4, Served (quartet.events desertion) (quartet.after desertion) k { capacity := 2 }) ∧
      offersTo 3 (quartet.events desertion) = [([1], true), ([2], true), ([3], false)] ∧
      .finished ∉ quartet.events desertion ∧ (quartet.after desertion).isDone = true ∧
      ∀ k < 4, ∃ o ∈ offersTo k (quartet.events desertion), o.2 = false := by
  have hseen : (ofQueues (List.replicate 4 { capacity := 2 })).events desertion = quartet.events desertion :=
    rfl
  obtain ⟨hserved, hends, -⟩ := served_until_closed hseen rfl
  have hdone : (quartet.after desertion).isDone = true := by decide
  have hunfinished : .finished ∉ quartet.events desertion := by decide
  refine ⟨fun k hk => hserved k _ ?_, by decide, hunfinished, hdone, ?_⟩
  · rw [List.getElem?_replicate, if_pos hk]
  · exact ((hends.1 hdone).resolve_left hunfinished).2.2

end Fanout

end FlowTraffic.Receiver
