import FlowTraffic.Proofs.Sender.Replay.Moves
import FlowTraffic.Shutdown

/-!
# What the reader of a replay reads

The reader asks for the signal, offers payloads and comes to the end of passes; what it is answered is up
to the watcher and the queue. Whatever the answers are, what the queue has taken and what is left of the pass
are together the store, once or several times over (`Sound.copies`), and the reader is over exactly when the
last thing it met ends it (`Sound.ended`). What a replay does with its reader are such moves
(`Run.exists_reader_moves`).
-/

namespace FlowTraffic.Sender.Replay

namespace Reader

/-! ## What is seen of a reader -/

/-- What the reader does next, with the answer that it gets: it looks for the signal, or it offers a payload
to the queue. -/
inductive Move
  | look (answer : Shutdown.Answer)
  | offer (isOpen : Bool)
  deriving DecidableEq

/-- What can be seen of it. A look at the end of the store is the end of a pass; the watcher is not asked. -/
inductive Event
  | asked (answer : Shutdown.Answer)
  | offered (payload : Bytes) (taken : Bool)
  | passed
  deriving DecidableEq

/-- One move, if it can happen. Only that the signal has not been seen lets the reader go on: the watcher says
once that it has been, and refuses to answer from then on. -/
def step (r : Reader) : Move → Option Reader
  | .look answer => if r.stage = .looking then some (r.look (answer ≠ .seen false)) else none
  | .offer isOpen => r.offer?.map fun _ => if isOpen then r.accepted else r.stop

def event? (r : Reader) : Move → Option Event
  | .look answer => some (if r.rest = [] then .passed else .asked answer)
  | .offer isOpen => r.offer?.map (.offered · isOpen)

def after (r : Reader) (moves : List Move) : Reader := moves.foldl (fun r m => (r.step m).getD r) r

def events (r : Reader) (moves : List Move) : List Event := observe step event? r moves

def Event.taken? : Event → Option Bytes
  | .offered payload true => some payload
  | _ => none

/-- The payloads that the queue takes, in their order. -/
def enqueuedIn (log : List Event) : List Bytes := log.filterMap Event.taken?

theorem enqueuedIn_append (log log' : List Event) :
    enqueuedIn (log ++ log') = enqueuedIn log ++ enqueuedIn log' :=
  List.filterMap_append

@[simp]
theorem enqueuedIn_concat (log : List Event) (e : Event) :
    enqueuedIn (log ++ [e]) = enqueuedIn log ++ e.taken?.toList :=
  filterMap_concat ..

/-- What a reader of these payloads does not go on after: an answer of the watcher that the signal has been
seen, in whatever words; a closed queue; and the end of a pass that is the only one, or of an empty store. -/
def Ends (payloads : List Bytes) (looping : Bool) : Event → Prop
  | .asked answer => answer ≠ .seen false
  | .offered _ taken => taken = false
  | .passed => looping = false ∨ payloads = []

/-! ## One move -/

/-- The cases of a move, with what they show. -/
inductive Change (r : Reader) : Event → Reader → Prop
  | goesOn (looking : r.stage = .looking) (more : r.rest ≠ []) :
      Change r (.asked (.seen false)) { r with stage := .offering }
  | heeds {answer : Shutdown.Answer} (looking : r.stage = .looking) (more : r.rest ≠ [])
      (signal : answer ≠ .seen false) : Change r (.asked answer) r.stop
  | restarts (looking : r.stage = .looking) (spent : r.rest = []) (again : r.looping = true)
      (filled : r.payloads ≠ []) : Change r .passed { r with rest := r.payloads }
  | finishes (looking : r.stage = .looking) (spent : r.rest = [])
      (last : r.looping = false ∨ r.payloads = []) : Change r .passed r.stop
  | gives {payload : Bytes} {rest : List Bytes} (offering : r.stage = .offering)
      (first : r.rest = payload :: rest) :
      Change r (.offered payload true) { r with rest, stage := .looking, count := r.count + 1 }
  | drops {payload : Bytes} (offering : r.stage = .offering) :
      Change r (.offered payload false) r.stop

variable {r r' : Reader} {m : Move} {moves : List Move} {e : Event}

theorem look_of_spent (looking : r.stage = .looking) (spent : r.rest = []) (signalled : Bool) :
    r.look signalled =
      if r.looping = true ∧ r.payloads ≠ [] then { r with rest := r.payloads } else r.stop := by
  simp [look, looking, spent]

theorem look_of_more (looking : r.stage = .looking) (more : r.rest ≠ []) (signalled : Bool) :
    r.look signalled = if signalled = true then r.stop else { r with stage := .offering } := by
  simp [look, looking, more]

theorem change_of_look {answer : Shutdown.Answer} (looking : r.stage = .looking) :
    Change r (if r.rest = [] then .passed else .asked answer) (r.look (answer ≠ .seen false)) := by
  by_cases spent : r.rest = []
  · rw [if_pos spent, look_of_spent looking spent]
    split
    · rename_i again
      exact .restarts looking spent again.1 again.2
    · rename_i last
      refine .finishes looking spent ?_
      simpa using Decidable.not_and_iff_not_or_not.1 last
  · rw [if_neg spent, look_of_more looking spent]
    split
    · rename_i signal
      exact .heeds looking spent (of_decide_eq_true signal)
    · rename_i quiet
      obtain rfl : answer = .seen false := by simpa using quiet
      exact .goesOn looking spent

theorem offer?_eq_some_iff {payload : Bytes} :
    r.offer? = some payload ↔ r.stage = .offering ∧ ∃ rest, r.rest = payload :: rest := by
  unfold offer?
  split
  · rename_i offering
    rw [List.head?_eq_some_iff]
    simp [offering]
  · rename_i other
    simp [other]

theorem change_of_step (h : r.step m = some r') : ∃ e, r.event? m = some e ∧ Change r e r' := by
  cases m with
  | look answer =>
    simp only [step] at h
    split at h
    · rename_i looking
      cases h
      exact ⟨_, rfl, change_of_look looking⟩
    · cases h
  | offer isOpen =>
    obtain ⟨payload, offered, rfl⟩ := Option.map_eq_some_iff.1 h
    obtain ⟨offering, rest, first⟩ := offer?_eq_some_iff.1 offered
    refine ⟨.offered payload isOpen, by simp [event?, offered], ?_⟩
    cases isOpen with
    | false => exact .drops offering
    | true =>
      have accepted : r.accepted = { r with rest, stage := .looking, count := r.count + 1 } := by
        rw [Reader.accepted, first, List.tail_cons]
      rw [if_pos rfl, accepted]
      exact .gives offering first

theorem Change.going (h : Change r e r') : r.stage ≠ .done := by
  cases h with
  | goesOn looking | heeds looking | restarts looking | finishes looking => simp [looking]
  | gives offering | drops offering => simp [offering]

theorem Change.same (h : Change r e r') : r'.payloads = r.payloads ∧ r'.looping = r.looping := by
  cases h <;> exact ⟨rfl, rfl⟩

theorem Change.done_iff (h : Change r e r') : r'.stage = .done ↔ Ends r.payloads r.looping e := by
  cases h with
  | goesOn looking more => simp [Ends]
  | heeds looking more signal => simpa [Ends, stop] using signal
  | restarts looking spent again filled => simp [Ends, looking, again, filled]
  | finishes looking spent last => simpa [Ends, stop] using last
  | gives offering first => simp [Ends]
  | drops offering => simp [Ends, stop]

/-- The moves that a pass still takes. -/
def left (r : Reader) : Nat :=
  match r.stage with
  | .looking => 2 * r.rest.length + 1
  | .offering => 2 * r.rest.length
  | .done => 0

theorem Change.left_lt (h : Change r e r') (once : r.looping = false ∨ r.payloads = [])
    (offers : r.stage = .offering → r.rest ≠ []) : r'.left < r.left := by
  cases h with
  | goesOn looking more => simp [left, looking]
  | heeds looking more signal => simp [left, looking, stop]
  | restarts looking spent again filled => simp [again, filled] at once
  | finishes looking spent last => simp [left, looking, stop]
  | gives offering first =>
    simp only [left, offering, first, List.length_cons]
    omega
  | drops offering =>
    have some := List.length_pos_iff.2 (offers offering)
    simp only [left, offering, stop]
    omega

theorem after_concat (h : (r.after moves).step m = some r') : r.after (moves ++ [m]) = r' := by
  rw [after, List.foldl_append, List.foldl_cons, List.foldl_nil]
  exact congrArg (Option.getD · _) h

theorem events_concat (h : (r.after moves).step m = some r') :
    r.events (moves ++ [m]) = r.events moves ++ ((r.after moves).event? m).toList := by
  rw [events, observe_append, observe, ← after, h]
  simp only [observe, List.append_nil, events]

/-! ## What every move keeps -/

/-- What the queue has taken and what is left of the pass are the store, once or several times over; it comes
once more with every pass that is over, while the reader goes on. -/
structure Copies (payloads : List Bytes) (looping : Bool) (log : List Event) (r : Reader) (k : Nat) :
    Prop where
  whole : enqueuedIn log ++ r.rest = (List.replicate k payloads).flatten
  once : looping = false → k = 1
  passes : r.stage ≠ .done → k = log.count .passed + 1

/-- What holds of a reader of these payloads, whatever it is answered. -/
structure Sound (payloads : List Bytes) (looping : Bool) (log : List Event) (r : Reader) : Prop where
  same : r.payloads = payloads ∧ r.looping = looping
  counted : (enqueuedIn log).length = r.count
  copies : ∃ k, Copies payloads looping log r k
  offers : r.stage = .offering → r.rest ≠ []
  ended : r.stage = .done ↔ ∃ e ∈ log.getLast?, Ends payloads looping e
  final : ∀ before e after, log = before ++ e :: after → Ends payloads looping e → after = []
  passes : ∀ before after, log = before ++ .passed :: after →
    enqueuedIn before = (List.replicate (before.count .passed + 1) payloads).flatten
  short : looping = false ∨ payloads = [] → log.length + r.left ≤ 2 * payloads.length + 1

section

variable {payloads : List Bytes} {looping : Bool} {log : List Event} {k : Nat}

theorem Sound.start (payloads : List Bytes) (looping : Bool) :
    Sound payloads looping [] (Reader.start payloads looping) where
  same := ⟨rfl, rfl⟩
  counted := rfl
  copies := ⟨1, by simp [enqueuedIn, Reader.start], fun _ => rfl, fun _ => rfl⟩
  offers := nofun
  ended := by simp [Reader.start]
  final before e after h := by simp at h
  passes before after h := by simp at h
  short _ := by simp [Reader.start, left]

theorem Copies.step (h : Copies payloads looping log r k) (hsame : r.payloads = payloads ∧ r.looping = looping)
    (hc : Change r e r') : ∃ k', Copies payloads looping (log ++ [e]) r' k' := by
  obtain ⟨rfl, rfl⟩ := hsame
  have passes := h.passes hc.going
  cases hc with
  | goesOn => exact ⟨k, by simpa [Event.taken?] using h.whole, h.once, by simp [passes]⟩
  | restarts looking spent again filled =>
    refine ⟨k + 1, ?_, by simp [again], by simp [passes]⟩
    have whole := h.whole
    rw [spent, List.append_nil] at whole
    rw [List.replicate_succ', List.flatten_append, ← whole]
    simp [Event.taken?]
  | gives offering first =>
    refine ⟨k, ?_, h.once, by simp [passes]⟩
    rw [← h.whole, first]
    simp [Event.taken?]
  | heeds | finishes | drops =>
    exact ⟨k, by simpa [Event.taken?, stop] using h.whole, h.once, by simp [stop]⟩

theorem Sound.change (h : Sound payloads looping log r) (hc : Change r e r') :
    Sound payloads looping (log ++ [e]) r' := by
  obtain ⟨k, copies⟩ := h.copies
  have hsame := h.same
  have ended : r'.stage = .done ↔ Ends payloads looping e := by
    rw [← hsame.1, ← hsame.2]
    exact hc.done_iff
  refine ⟨?_, ?_, copies.step hsame hc, ?_, ?_, ?_, ?_, ?_⟩
  · rw [hc.same.1, hc.same.2]
    exact hsame
  · rw [enqueuedIn_concat, List.length_append, h.counted]
    cases hc <;> rfl
  · cases hc with
    | goesOn looking more => exact fun _ => more
    | restarts looking => simp [looking]
    | _ => nofun
  · rw [ended, List.getLast?_concat]
    simp
  · intro before e' after split ends
    rcases split_concat split.symm with ⟨-, -, rfl⟩ | ⟨after', split⟩
    · rfl
    · -- What ends the reader came last before this move, so there is no such move.
      obtain rfl := h.final before e' after' split.symm ends
      refine absurd (h.ended.2 ⟨e', ?_, ends⟩) hc.going
      rw [← split, List.getLast?_concat]
      rfl
  · intro before after split
    rcases split_concat split.symm with ⟨rfl, passed, -⟩ | ⟨after', split⟩
    · have spent : r.rest = [] := by
        rw [← passed] at hc
        cases hc <;> assumption
      rw [← copies.passes hc.going, ← copies.whole, spent, List.append_nil]
    · exact h.passes before after' split.symm
  · intro once
    have less := hc.left_lt (by rwa [hsame.1, hsame.2]) h.offers
    have before := h.short once
    rw [List.length_append, List.length_singleton]
    omega

theorem Sound.goesOn (h : Sound payloads looping log r) (going : r.stage ≠ .done) :
    (∀ answer, (r.step (.look answer)).isSome = true) ∨ ∀ isOpen, (r.step (.offer isOpen)).isSome = true := by
  cases stage : r.stage with
  | looking => exact .inl fun answer => by simp [step, stage]
  | offering =>
    obtain ⟨payload, rest, first⟩ := List.exists_cons_of_ne_nil (h.offers stage)
    have offered : r.offer? = some payload := offer?_eq_some_iff.2 ⟨stage, rest, first⟩
    exact .inr fun isOpen => by simp [step, offered]
  | done => exact absurd stage going

theorem Sound.run (payloads : List Bytes) (looping : Bool) (moves : List Move) :
    Sound payloads looping ((Reader.start payloads looping).events moves)
      ((Reader.start payloads looping).after moves) := by
  refine observe_induction (P := Sound payloads looping) (fun log r m r' h hs => ?_) (.start payloads looping) moves
  obtain ⟨e, hevent, hc⟩ := change_of_step hs
  rw [hevent]
  exact h.change hc

end

/-! ## Copies of a store -/

theorem getElem?_flatten_replicate {α : Type} (xs : List α) {k i : Nat}
    (h : i < (List.replicate k xs).flatten.length) :
    (List.replicate k xs).flatten[i]? = xs[i % xs.length]? := by
  induction k generalizing i with
  | zero => cases h
  | succ k ih =>
    rw [List.replicate_succ, List.flatten_cons] at h ⊢
    rw [List.length_append] at h
    by_cases first : i < xs.length
    · rw [List.getElem?_append_left first, Nat.mod_eq_of_lt first]
    · have later := Nat.le_of_not_lt first
      rw [List.getElem?_append_right later, ih (by omega), ← Nat.mod_eq_sub_mod later]

/-- **The reader enqueues the front of the store, or of the store over and over.** Whatever it is answered and
whenever, its count is the number of payloads that the queue has taken, and these are the first of the store in
their order, begun again only in a loop and after a whole pass. Nothing comes after the signal, a closed
queue, or the end of a pass that is the last; until then the reader goes on, and it is over as soon as one of
them has come. Without a loop, and over an empty store, one pass is all. -/
theorem enqueues_front (payloads : List Bytes) (looping : Bool) (moves : List Move) :
    let r := (start payloads looping).after moves
    let log := (start payloads looping).events moves
    (enqueuedIn log).length = r.count ∧
      (looping = false → enqueuedIn log = payloads.take r.count) ∧
      (∀ i < r.count, (enqueuedIn log)[i]? = payloads[i % payloads.length]?) ∧
      (∀ before after, log = before ++ .passed :: after →
        enqueuedIn before = (List.replicate (before.count .passed + 1) payloads).flatten) ∧
      (∀ before e after, log = before ++ e :: after → Ends payloads looping e → after = []) ∧
      (r.stage = .done ↔ ∃ e ∈ log.getLast?, Ends payloads looping e) ∧
      (r.stage ≠ .done → (∀ answer, (r.step (.look answer)).isSome = true) ∨
        ∀ isOpen, (r.step (.offer isOpen)).isSome = true) ∧
      (looping = false ∨ payloads = [] →
        r.count ≤ payloads.length ∧ log.length ≤ 2 * payloads.length + 1) := by
  intro r log
  have h : Sound payloads looping log r := .run payloads looping moves
  obtain ⟨k, copies⟩ := h.copies
  have once (hlooping : looping = false) : enqueuedIn log ++ r.rest = payloads := by
    rw [copies.whole, copies.once hlooping, List.replicate_one, List.flatten_singleton]
  refine ⟨h.counted, ?_, ?_, h.passes, h.final, h.ended, h.goesOn, fun single => ⟨?_, ?_⟩⟩
  · intro hlooping
    rw [← h.counted]
    exact List.prefix_iff_eq_take.1 ⟨r.rest, once hlooping⟩
  · intro i hi
    rw [← h.counted] at hi
    have within : i < (List.replicate k payloads).flatten.length := by
      rw [← copies.whole, List.length_append]
      exact Nat.lt_add_right _ hi
    rw [← getElem?_flatten_replicate payloads within, ← copies.whole, List.getElem?_append_left hi]
  · rw [← h.counted]
    rcases single with hlooping | rfl
    · exact List.IsPrefix.length_le ⟨r.rest, once hlooping⟩
    · have whole := copies.whole
      rw [List.flatten_replicate_nil, List.append_eq_nil_iff] at whole
      exact Nat.le_of_eq (congrArg List.length whole.1)
  · exact Nat.le_trans (Nat.le_add_right _ _) (h.short single)

end Reader

/-! ## The reader of a replay -/

namespace Run

variable {net : Network} {config : Config} {r r' : Run} {m : Move}

theorem reader_of_step {e? : Option Event} (hc : Change net config r m e? r') :
    (r'.reader = r.reader ∧ (takesIn e?.toList).map (·.payload) ++ r'.queue.items = r.queue.items) ∨
      ∃ m' : Reader.Move, r.reader.step m' = some r'.reader ∧ takesIn e?.toList = [] ∧
        r'.queue.items = r.queue.items ++ Reader.enqueuedIn (r.reader.event? m').toList := by
  cases hc with
  | signal => exact .inl ⟨rfl, rfl⟩
  | look looking =>
    refine .inr ⟨.look (.seen r.signalled), ?_, rfl, ?_⟩
    · rw [Reader.step, if_pos looking]
      cases r.signalled <;> rfl
    · rw [Reader.event?]
      split <;> simp [Reader.enqueuedIn, Reader.Event.taken?]
  | offer offered isOpen =>
    refine .inr ⟨.offer true, ?_, rfl, ?_⟩
    · rw [Reader.step, offered]
      rfl
    · rw [Reader.event?, offered]
      rfl
  | refuse offered closed =>
    refine .inr ⟨.offer false, ?_, rfl, ?_⟩
    · rw [Reader.step, offered]
      rfl
    · rw [Reader.event?, offered]
      simp [Reader.enqueuedIn, Reader.Event.taken?]
  | take t hw waiting first => exact .inl ⟨rfl, first.symm⟩
  | sent a => exact .inl ⟨rfl, rfl⟩
  | failed a => exact .inl ⟨rfl, items_stop _ _ _⟩
  | quit => exact .inl ⟨rfl, items_stop _ _ _⟩
  | finish => exact .inl ⟨rfl, items_stop _ _ _⟩

/-- Whatever a replay does, its reader gets where moves of its own bring it, and what has left the queue and
what is still in it is what these moves enqueue. -/
theorem exists_reader_moves (net : Network) (config : Config) (table : Table) (moves : List Move) :
    let start := Run.start config (.ok table)
    let r := start.steps net config moves
    ∃ moves' : List Reader.Move, r.reader = start.reader.after moves' ∧
      (takesIn (start.events net config moves)).map (·.payload) ++ r.queue.items =
        Reader.enqueuedIn (start.reader.events moves') := by
  intro start
  have begin : ∃ moves' : List Reader.Move, start.reader = start.reader.after moves' ∧
      (takesIn []).map (·.payload) ++ start.queue.items = Reader.enqueuedIn (start.reader.events moves') :=
    ⟨[], rfl, rfl⟩
  refine observe_induction (P := fun log (r : Run) => ∃ moves' : List Reader.Move,
    r.reader = start.reader.after moves' ∧ (takesIn log).map (·.payload) ++ r.queue.items =
      Reader.enqueuedIn (start.reader.events moves')) (fun log r m r' h hs => ?_) begin moves
  obtain ⟨moves', reached, enqueued⟩ := h
  rcases reader_of_step (change_of_step hs) with ⟨same, items⟩ | ⟨m', happens, quiet, items⟩
  · refine ⟨moves', same.trans reached, ?_⟩
    rw [takesIn_append, List.map_append, List.append_assoc, items, enqueued]
  · rw [reached] at happens items
    refine ⟨moves' ++ [m'], (Reader.after_concat happens).symm, ?_⟩
    rw [takesIn_append, quiet, List.append_nil, items, ← List.append_assoc, enqueued,
      Reader.events_concat happens, Reader.enqueuedIn_append]

end Run

end FlowTraffic.Sender.Replay
