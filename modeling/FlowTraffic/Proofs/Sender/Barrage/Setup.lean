import Mathlib.Logic.Function.Iterate
import Mathlib.Order.Interval.Finset.Nat
import FlowTraffic.Proofs.Sender.Barrage.Outcome
import FlowTraffic.Proofs.Sender.Sources

/-!
# How a barrage gets its source IDs

A draw either gives an ID that is taken, and is lost, or gives the next worker its ID (`Setup.draw`). The
source IDs of a barrage are what such draws come to. There are never more workers than IDs, so a draw always
finds one that is free if the words are right.
-/

namespace FlowTraffic.Sender.Barrage

open Netflow

/-- A point of the setup: the source IDs that are taken, and the words to come. -/
structure Setup where
  taken : List UInt32 := []
  words : Words

namespace Setup

/-- One draw. An ID that is free goes to the next worker, and that worker's row of words is forked off. -/
def draw (fork : Draw Words) (s : Setup) : Setup :=
  let (source, words) := drawSource s.words
  if source ∈ s.taken then { s with words } else ⟨source :: s.taken, (fork words).2⟩

variable {fork : Draw Words}

theorem draw_of_taken {s : Setup} (h : (drawSource s.words).1 ∈ s.taken) :
    s.draw fork = { s with words := (drawSource s.words).2 } := if_pos h

theorem draw_of_free {s : Setup} (h : (drawSource s.words).1 ∉ s.taken) :
    s.draw fork = ⟨(drawSource s.words).1 :: s.taken, (fork (drawSource s.words).2).2⟩ := if_neg h

theorem length_le_draw (s : Setup) : s.taken.length ≤ (s.draw fork).taken.length := by
  by_cases h : (drawSource s.words).1 ∈ s.taken
  · rw [draw_of_taken h]
  · rw [draw_of_free h]
    exact Nat.le_succ _

theorem length_mono (fork : Draw Words) (s : Setup) {j k : Nat} (h : j ≤ k) :
    ((draw fork)^[j] s).taken.length ≤ ((draw fork)^[k] s).taken.length := by
  induction h with
  | refl => exact Nat.le_refl _
  | step h ih =>
    rw [Function.iterate_succ_apply']
    exact Nat.le_trans ih (length_le_draw _)

/-! ## What is taken -/

/-- No ID is taken twice, and all are source IDs. -/
structure Distinct (s : Setup) : Prop where
  nodup : s.taken.Nodup
  sources : ∀ source ∈ s.taken, IsSource source

theorem Distinct.draw {s : Setup} (h : s.Distinct) : (s.draw fork).Distinct := by
  by_cases used : (drawSource s.words).1 ∈ s.taken
  · rw [draw_of_taken used]
    exact ⟨h.nodup, h.sources⟩
  · rw [draw_of_free used]
    constructor
    · exact List.nodup_cons.2 ⟨used, h.nodup⟩
    · exact List.forall_mem_cons.2 ⟨isSource_drawSource s.words, h.sources⟩

theorem Distinct.draws {s : Setup} (h : s.Distinct) (k : Nat) : ((Setup.draw fork)^[k] s).Distinct := by
  induction k with
  | zero => exact h
  | succ k ih =>
    rw [Function.iterate_succ_apply']
    exact ih.draw

/-! ## What is free -/

theorem exists_free {taken : List UInt32} (few : taken.length < sourceCount) :
    ∃ source, IsSource source ∧ source ∉ taken := by
  have fewer : (taken.map UInt32.toNat).toFinset.card <
      (Finset.Ico firstSource (firstSource + sourceCount)).card := by
    rw [Nat.card_Ico, Nat.add_sub_cancel_left]
    apply Nat.lt_of_le_of_lt (List.toFinset_card_le _)
    rwa [List.length_map]
  obtain ⟨n, hn, free⟩ := Finset.exists_mem_notMem_of_card_lt_card fewer
  obtain ⟨least, most⟩ := Finset.mem_Ico.1 hn
  have small : n < UInt32.size := Nat.lt_trans most (by decide)
  have number : (UInt32.ofNat n).toNat = n := UInt32.toNat_ofNat_of_lt' small
  refine ⟨.ofNat n, ?_, ?_⟩
  · rw [IsSource, number]
    exact ⟨least, most⟩
  · intro used
    apply free
    rw [List.mem_toFinset, ← number]
    exact List.mem_map_of_mem used

theorem exists_word {taken : List UInt32} {source : UInt32} (h : IsSource source) (free : source ∉ taken)
    (words : Words) : ∃ w, ∀ fuel, (drawFresh taken (fuel + 1) (words.withNext w)).1 = some source := by
  obtain ⟨w, hw⟩ := exists_word_source h words
  refine ⟨w, ?_⟩
  intro fuel
  unfold drawFresh
  rw [Draw.bind_apply, hw, if_neg free]
  rfl

end Setup

/-! ## The draws of a barrage -/

variable {fork : Draw Words}

theorem drawFresh_draws (fork : Draw Words) (taken : List UInt32) (fuel : Nat) (words : Words) :
    ((drawFresh taken fuel words).1 = none ∧
      (Setup.draw fork)^[fuel] ⟨taken, words⟩ = ⟨taken, (drawFresh taken fuel words).2⟩) ∨
    ∃ source k, (drawFresh taken fuel words).1 = some source ∧
      (Setup.draw fork)^[k] ⟨taken, words⟩ =
        ⟨source :: taken, (fork (drawFresh taken fuel words).2).2⟩ := by
  induction fuel generalizing words with
  | zero => exact .inl ⟨rfl, rfl⟩
  | succ fuel ih =>
    unfold drawFresh
    rw [Draw.bind_apply]
    by_cases used : (drawSource words).1 ∈ taken
    · have drawn : Setup.draw fork ⟨taken, words⟩ = ⟨taken, (drawSource words).2⟩ :=
        Setup.draw_of_taken used
      rw [if_pos used]
      rcases ih (drawSource words).2 with ⟨gaveUp, lost⟩ | ⟨source, k, given, found⟩
      · refine .inl ⟨gaveUp, ?_⟩
        rw [Function.iterate_succ_apply, drawn, lost]
      · refine .inr ⟨source, k + 1, given, ?_⟩
        rw [Function.iterate_succ_apply, drawn, found]
    · rw [if_neg used]
      refine .inr ⟨_, 1, rfl, ?_⟩
      exact Setup.draw_of_free (s := ⟨taken, words⟩) used

theorem drawSources_draws (fork : Draw Words) (fuel n : Nat) (taken : List UInt32) (words : Words) :
    ((drawSources fork fuel n taken words).1 = none ∧ ∃ k, fuel ≤ k ∧
      ((Setup.draw fork)^[k] ⟨taken, words⟩).taken.length < taken.length + n) ∨
    ∃ sources k, (drawSources fork fuel n taken words).1 = some sources ∧
      ((Setup.draw fork)^[k] ⟨taken, words⟩).taken = (sources.map (·.1)).reverse ++ taken := by
  -- On the workers without an ID: the draws for the next one come before the draws for the others.
  induction n generalizing taken words with
  | zero => exact .inr ⟨[], 0, rfl, rfl⟩
  | succ n ih =>
    unfold drawSources
    rw [Draw.bind_apply]
    rcases drawFresh_draws fork taken fuel words with ⟨gaveUp, lost⟩ | ⟨source, k, given, found⟩
    · rw [gaveUp]
      refine .inl ⟨rfl, fuel, Nat.le_refl _, ?_⟩
      rw [lost]
      exact Nat.lt_add_of_pos_right (Nat.succ_pos n)
    · rw [given]
      simp only [Draw.bind_apply]
      rcases ih (source :: taken) (fork (drawFresh taken fuel words).2).2 with
        ⟨gaveUp, k', enough, short⟩ | ⟨sources, k', all, drawn⟩
      · rw [gaveUp]
        refine .inl ⟨rfl, k' + k, by omega, ?_⟩
        rw [Function.iterate_add_apply, found]
        rw [List.length_cons] at short
        omega
      · rw [all]
        refine .inr ⟨_, k' + k, rfl, ?_⟩
        rw [Function.iterate_add_apply, found, drawn]
        simp

theorem distinct_of_drawSources {fuel n : Nat} {words : Words} {sources : List (UInt32 × Words)}
    (drawn : (drawSources fork fuel n [] words).1 = some sources) :
    ∃ k, sources.map (·.1) = ((Setup.draw fork)^[k] { words }).taken.reverse ∧
      (sources.map (·.1)).Nodup ∧ ∀ source ∈ sources.map (·.1), IsSource source := by
  rcases drawSources_draws fork fuel n [] words with ⟨gaveUp, -⟩ | ⟨sources', k, given, taken⟩
  · cases gaveUp.symm.trans drawn
  · obtain rfl := Option.some.inj (given.symm.trans drawn)
    have distinct : ((Setup.draw fork)^[k] { words }).Distinct :=
      Setup.Distinct.draws ⟨List.nodup_nil, List.forall_mem_nil _⟩ k
    have all : sources'.map (·.1) = ((Setup.draw fork)^[k] { words }).taken.reverse := by
      rw [taken, List.append_nil, List.reverse_reverse]
    refine ⟨k, all, ?_, ?_⟩
    · rw [all]
      exact List.nodup_reverse.2 distinct.nodup
    · intro source hsource
      rw [all, List.mem_reverse] at hsource
      exact distinct.sources source hsource

theorem exists_sources {k n fuel : Nat} {words : Words}
    (ended : ((Setup.draw fork)^[k] { words }).taken.length = n) (enough : k ≤ fuel) :
    ∃ sources, (drawSources fork fuel n [] words).1 = some sources := by
  rcases drawSources_draws fork fuel n [] words with ⟨-, j, more, short⟩ | ⟨sources, _, given, -⟩
  · -- It gives up only after as many draws as are enough for all.
    have longer := Setup.length_mono fork { words } (Nat.le_trans enough more)
    rw [List.length_nil] at short
    omega
  · exact ⟨sources, given⟩

/-! ## Getting ready -/

/-- Nothing stands in the way of a barrage. -/
structure Willing (net : Network) (shutdown : Shutdown.Watcher) : Prop where
  bind : ∀ n addr, net.bind n addr = .ok ()
  listen : ∀ addr, net.listen addr = .ok ()
  unseen : shutdown.seen = false

section

variable {net : Network} {shutdown : Shutdown.Watcher} {config : Config}

theorem Willing.bindSender (h : Willing net shutdown) (dest : Endpoint) (port : Option UInt16) :
    (Transport.bindSender net dest port).Always fun bound => ∃ addr, bound = .ok addr := by
  have binds (n : Nat) (addr : Endpoint) : Transport.bind net n addr = .ok addr := by
    unfold Transport.bind
    rw [h.bind]
  unfold Transport.bindSender
  cases port with
  | some port => exact .pure ⟨_, binds _ _⟩
  | none =>
    refine (Draw.always_true _).bind fun port _ => ?_
    simp only [binds]
    exact .pure ⟨_, rfl⟩

theorem Willing.recruit (h : Willing net shutdown) (fits : config.profile.check = .ok ()) (id : Nat)
    (source : UInt32) (words : Words) : ∃ w, recruit net config id source words = .ok w := by
  obtain ⟨addr, bound⟩ := h.bindSender config.target none words
  obtain ⟨exporter, made⟩ := Exporter.exists_new fits source
  unfold Barrage.recruit
  rw [StateT.run]
  generalize Transport.bindSender net config.target none words = sender at bound
  obtain ⟨_, words'⟩ := sender
  cases bound
  simp only [made]
  exact ⟨_, rfl⟩

theorem Willing.recruitAll (h : Willing net shutdown) (fits : config.profile.check = .ok ()) (id : Nat)
    (sources : List (UInt32 × Words)) : ∃ ws, recruitAll net config id sources = .ok ws := by
  induction sources generalizing id with
  | nil => exact ⟨[], rfl⟩
  | cons source sources ih =>
    obtain ⟨w, hw⟩ := h.recruit fits id source.1 source.2
    obtain ⟨ws, hws⟩ := ih (id + 1)
    refine ⟨w :: ws, ?_⟩
    unfold Barrage.recruitAll
    rw [hw, hws]
    rfl

theorem Config.of_check (valid : config.check = .ok ()) :
    1 ≤ config.workers.toNat ∧ config.workers.toNat ≤ sourceCount ∧ config.profile.check = .ok () := by
  unfold check at valid
  split at valid
  · cases valid
  rename_i asked
  split at valid
  · cases valid
  rename_i few
  split at valid
  · cases valid
  refine ⟨?_, Nat.le_of_not_lt few, ?_⟩
  · apply Nat.pos_of_ne_zero
    intro zero
    exact asked (UInt16.toNat_inj.1 zero)
  · cases hprofile : config.profile.check with
    | ok => rfl
    | error e =>
      rw [hprofile] at valid
      cases valid

theorem Willing.prepare (h : Willing net shutdown) (valid : config.check = .ok ()) {fuel : Nat}
    {words : Words} {sources : List (UInt32 × Words)}
    (drawn : (drawSources fork fuel config.workers.toNat [] words).1 = some sources) :
    ∃ start, ((prepare net shutdown config fuel fork).run words).1 = some (.ok start) := by
  obtain ⟨-, -, fits⟩ := Config.of_check valid
  obtain ⟨ws, recruited⟩ := h.recruitAll fits 1 sources
  have registered : shutdown.register = .ok {} := by
    unfold Shutdown.Watcher.register
    rw [h.unseen]
    rfl
  refine ⟨Run.start config ws, ?_⟩
  unfold Barrage.prepare
  simp only [valid]
  rw [StateT.run, Draw.bind_apply, drawn]
  simp only [recruited, registered]
  cases config.dashboard with
  | none => rfl
  | some addr =>
    simp only [h.listen addr]
    rfl

theorem ids_of_prepare {fuel : Nat} {words : Words} {start : Run}
    (ready : ((Barrage.prepare net shutdown config fuel fork).run words).1 = some (.ok start)) :
    start.workers.map (·.id.toNat) = List.range' 1 config.workers.toNat := by
  obtain ⟨ws, rfl, ids, -⟩ := eq_of_prepare ready
  rw [← toNat_workerIds config.workers.toNat_lt, ← ids, List.map_map]
  rfl

theorem sourceIds_of_prepare {fuel : Nat} {words : Words} {start : Run}
    (ready : ((Barrage.prepare net shutdown config fuel fork).run words).1 = some (.ok start)) :
    ∃ k, start.workers.map (·.exporter.sourceId) = ((Setup.draw fork)^[k] { words }).taken.reverse ∧
      (start.workers.map (·.exporter.sourceId)).Nodup ∧
      ∀ source ∈ start.workers.map (·.exporter.sourceId), IsSource source := by
  obtain ⟨sources, ws, drawn, recruited, rfl⟩ := sources_of_prepare ready
  obtain ⟨-, same, -⟩ := fresh_of_recruitAll recruited
  have same : (Run.start config ws).workers.map (·.exporter.sourceId) = sources.map (·.1) := same
  rw [same]
  exact distinct_of_drawSources drawn

end

/-- **Every worker of a barrage is a source of its own.** The workers are numbered from one, and no two have
the same source ID. They get their IDs one draw after the other, however a worker's own words are forked off.
Where the draws come to an end, a barrage that nothing stands in the way of starts. At every point before that
some ID is free, and for every ID that is free there is a word that gives it to the next worker. -/
theorem own_identities {config : Config} (valid : config.check = .ok ()) (fork : Draw Words)
    (words : Words) :
    let workers := config.workers.toNat
    let point (k : Nat) : Setup := (Setup.draw fork)^[k] { words }
    (1 ≤ workers ∧ workers ≤ 9900) ∧
    (∀ net shutdown fuel start, ((prepare net shutdown config fuel fork).run words).1 = some (.ok start) →
      start.workers.map (·.id.toNat) = List.range' 1 workers ∧
      (start.workers.map (·.exporter.sourceId)).Nodup ∧
      (∀ w ∈ start.workers, 100 ≤ w.exporter.sourceId.toNat ∧ w.exporter.sourceId.toNat < 10000) ∧
      ∃ k, start.workers.map (·.exporter.sourceId) = (point k).taken.reverse) ∧
    (∀ k, (point k).taken.length = workers → ∀ net shutdown, Willing net shutdown → ∀ fuel, k ≤ fuel →
      ∃ start, ((prepare net shutdown config fuel fork).run words).1 = some (.ok start)) ∧
    ∀ k, (point k).taken.length < workers →
      (∃ source, IsSource source ∧ source ∉ (point k).taken) ∧
      ∀ source, IsSource source → source ∉ (point k).taken →
        ∃ w, ∀ fuel, (drawFresh (point k).taken (fuel + 1) ((point k).words.withNext w)).1 =
          some source := by
  intro workers point
  obtain ⟨least, few, -⟩ := Config.of_check valid
  refine ⟨⟨least, few⟩, ?_, ?_, ?_⟩
  · intro net shutdown fuel start ready
    obtain ⟨k, all, nodup, sources⟩ := sourceIds_of_prepare ready
    refine ⟨ids_of_prepare ready, nodup, ?_, k, all⟩
    intro w hw
    exact sources _ (List.mem_map_of_mem hw)
  · intro k ended net shutdown willing fuel enough
    obtain ⟨sources, drawn⟩ := exists_sources ended enough
    exact willing.prepare valid drawn
  · intro k short
    refine ⟨Setup.exists_free (Nat.lt_of_lt_of_le short few), ?_⟩
    intro source hsource free
    exact Setup.exists_word hsource free _

def repeatedWords : Words where
  word n := if n < 3 then 0 else UInt32.ofNat (n * 500000003)

theorem own_identities_pair :
    pair.check = .ok () ∧ ((Setup.draw .seeded)^[2] { words := repeatedWords }).taken.length < 2 ∧
      Willing failing {} ∧
      ∃ start, ((prepare failing {} pair 3 .seeded).run repeatedWords).1 = some (.ok start) ∧
        start.workers.map (·.id.toNat) = [1, 2] ∧
        (start.workers.map (·.exporter.sourceId)).Nodup := by
  have valid : pair.check = .ok () := by decide +kernel
  have willing : Willing failing {} := ⟨fun _ _ => rfl, fun _ => rfl, rfl⟩
  have short : ((Setup.draw .seeded)^[2] { words := repeatedWords }).taken.length < 2 := by decide +kernel
  have ended : ((Setup.draw .seeded)^[3] { words := repeatedWords }).taken.length = 2 := by decide +kernel
  obtain ⟨-, apart, starts, -⟩ := own_identities valid .seeded repeatedWords
  obtain ⟨start, ready⟩ := starts 3 ended failing {} willing 3 (Nat.le_refl _)
  obtain ⟨ids, nodup, -⟩ := apart _ _ _ _ ready
  exact ⟨valid, short, willing, start, ready, ids, nodup⟩

end FlowTraffic.Sender.Barrage
