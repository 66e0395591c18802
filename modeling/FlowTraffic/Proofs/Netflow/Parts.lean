import FlowTraffic.Proofs.Netflow.Rewriting
import Mathlib.Data.List.Induction

/-!
# Packets joined and cut short

A body is read one flow set after the other, so it can be divided between any two of them. Two bodies say
in one packet what they say in two packets that follow each other, and the first bytes of a packet are a
packet again exactly where they end with a flow set.
-/

namespace FlowTraffic.Netflow

open Bytes

/-! ## One body after the other -/

theorem FlowSet.readBody_join {r : Registry} {a : Bytes} (whole : (readBody r a).fault = none)
    (b : Bytes) :
    readBody r (a ++ b) = (readBody (readBody r a).registry b).after (readBody r a).sets := by
  obtain ⟨pieces, rest, rfl, hlegal, hend⟩ := exists_legal r [] a
  obtain ⟨sets, hsets, -⟩ := readBody_append hlegal rest
  have hread := readBody_of_legal hlegal hsets
  rcases hend with rfl | ⟨e, hstuck⟩
  · rw [List.append_assoc, List.nil_append, hread b, hread [], readBody_nil]
    simp [Reading.after]
  · -- A body that is stuck was not read to its end.
    have hfault := readBody_of_stuck hstuck
    rw [List.nil_append] at hfault
    rw [hread rest, hfault] at whole
    cases whole

namespace Packet

/-- The packet with the sets of another one after its own. -/
def followedBy (p q : Packet) : Packet :=
  ⟨p.header, p.templateSets ++ q.templateSets, p.dataSets ++ q.dataSets⟩

theorem ofSets_append (h h' : Header) (sets sets' : List FlowSet) :
    ofSets h (sets ++ sets') = (ofSets h sets).followedBy (ofSets h' sets') := by
  simp [ofSets, followedBy]

/-- **Joining.** A body that is read to its end can be continued in the same packet or in a packet of its
own. The registry is the same afterwards, and so is the fault if there is one. -/
theorem parse_join {r r' : Registry} {h h' : Header} {a : Bytes} {p : Packet}
    (hp : parse r (h.encode ++ a) = (.ok p, r')) (hv : h'.version = version) (b : Bytes) :
    parse r (h.encode ++ a ++ b) =
      ((parse r' (h'.encode ++ b)).1.map p.followedBy, (parse r' (h'.encode ++ b)).2) := by
  obtain ⟨hversion, hwhole, rfl, hknown⟩ := readBody_of_parse (congrArg Prod.fst hp)
  rw [hp] at hknown
  have hjoin := FlowSet.readBody_join hwhole b
  rw [← hknown] at hjoin
  rw [List.append_assoc, parse_append, if_neg (not_not.2 hversion), hjoin, parse_append,
    if_neg (not_not.2 hv)]
  cases hfault : (FlowSet.readBody r' b).fault with
  | some e => simp [FlowSet.Reading.after, hfault, Except.map]
  | none => simp [FlowSet.Reading.after, hfault, Except.map, ofSets_append h h']

/-- A template of 300, and nothing that uses it. -/
def announcement : Packet := ⟨{}, [.ofTemplates [⟨300, Schema.generic.fields⟩]], []⟩

/-- Two records by the template of 300 with two bytes of padding, and a set of another ID. -/
def following (id : UInt16) : Bytes :=
  [1, 44, 0, 80] ++ List.replicate 76 5 ++ (ofWord16 id ++ [0, 4])

theorem parse_join_following :
    parse .empty announcement.encode =
        (.ok announcement, .registerAll .empty announcement.templates) ∧
      parse .empty (announcement.encode ++ following 300) =
        ((parse (.registerAll .empty announcement.templates)
          (Header.encode { sequence := 2 } ++ following 300)).1.map announcement.followedBy,
          .registerAll .empty announcement.templates) ∧
      parse .empty (announcement.encode ++ following 301) =
        (.error (.unknownTemplate 301), .registerAll .empty announcement.templates) := by
  let h' : Header := { sequence := 2 }
  let r' : Registry := .registerAll .empty announcement.templates
  have hp : parse .empty announcement.encode = (.ok announcement, r') := by decide +kernel
  have hv : h'.version = version := rfl
  have hgood := parse_join (h := {}) hp hv (following 300)
  have hbad := parse_join (h := {}) hp hv (following 301)
  have hknown : (parse r' (h'.encode ++ following 300)).2 = r' := by decide +kernel
  have hfault : parse r' (h'.encode ++ following 301) = (.error (.unknownTemplate 301), r') := by
    decide +kernel
  rw [hknown] at hgood
  rw [hfault] at hbad
  exact ⟨hp, hgood, hbad⟩

/-! ## The first bytes of a packet -/

/-- Where pieces end in the bytes of a packet that starts with them. -/
def endOf (pieces : List Piece) : Nat := Header.size + (pieces.flatMap Piece.encode).length

/-- The packet with the sets of its first pieces only. -/
def within (p : Packet) (pieces : List Piece) : Packet :=
  ⟨p.header, p.templateSets.take (pieces.countP Piece.isTemplates),
    p.dataSets.take (pieces.countP (!·.isTemplates))⟩

/-- What the first `n` bytes of a packet come to. They end in the header, after a piece, within the four
bytes in front of a piece's body, or within its body. -/
inductive CutShort (p : Packet) (pieces : List Piece) (n : Nat) : Except DecodeError Packet → Prop
  | header (short : n < Header.size) :
      CutShort p pieces n (.error (.short ⟨.header, Header.size, n⟩))
  | whole {before : List Piece} (inner : before <+: pieces) (stop : n = endOf before) :
      CutShort p pieces n (.ok (p.within before))
  | setHeader {before : List Piece} {x : Piece} (next : before ++ [x] <+: pieces)
      (past : endOf before < n) (short : n < endOf before + setHeaderSize) :
      CutShort p pieces n (.error (.short ⟨.flowSetHeader, setHeaderSize, n - endOf before⟩))
  | setBody {before : List Piece} {x : Piece} (next : before ++ [x] <+: pieces)
      (past : endOf before + setHeaderSize ≤ n) (short : n < endOf (before ++ [x])) :
      CutShort p pieces n (.error (.flowSetLength x.frame.id x.frame.length))

theorem endOf_concat (before : List Piece) (x : Piece) :
    endOf (before ++ [x]) = endOf before + x.encode.length := by
  simp [endOf, Nat.add_assoc]

theorem exists_next {pieces : List Piece} {n : Nat} (past : Header.size ≤ n)
    (short : n < endOf pieces) :
    ∃ before x, before ++ [x] <+: pieces ∧ endOf before ≤ n ∧ n < endOf (before ++ [x]) := by
  -- On the pieces, from the last one backwards: either the bytes end in it or before it.
  induction pieces using List.reverseRecOn with
  | nil =>
    simp only [endOf, List.flatMap_nil, List.length_nil] at short
    omega
  | append_singleton xs x ih =>
    by_cases hlast : endOf xs ≤ n
    · exact ⟨xs, x, List.prefix_refl _, hlast, short⟩
    · obtain ⟨before, y, hnext, hpast, hshort⟩ := ih (by omega)
      exact ⟨before, y, hnext.trans (List.prefix_append ..), hpast, hshort⟩

theorem exists_cutShort (p : Packet) {pieces : List Piece} {n : Nat} (short : n < endOf pieces) :
    ∃ res, CutShort p pieces n res := by
  by_cases hheader : n < Header.size
  · exact ⟨_, .header hheader⟩
  obtain ⟨before, x, hnext, hpast, hshort⟩ := exists_next (Nat.not_lt.1 hheader) short
  by_cases hstop : n = endOf before
  · exact ⟨_, .whole ((List.prefix_append ..).trans hnext) hstop⟩
  by_cases hset : n < endOf before + setHeaderSize
  · exact ⟨_, .setHeader hnext (by omega) hset⟩
  · exact ⟨_, .setBody hnext (by omega) hshort⟩

theorem take_encode {h : Header} {before : List Piece} (after : Bytes) {n : Nat}
    (past : endOf before ≤ n) :
    (h.encode ++ (before.flatMap Piece.encode ++ after)).take n =
      h.encode ++ before.flatMap Piece.encode ++ after.take (n - endOf before) := by
  have hlen : (h.encode ++ before.flatMap Piece.encode).length = endOf before := by
    rw [List.length_append, Header.length_encode, endOf]
  rw [← List.append_assoc, List.take_append, hlen, List.take_of_length_le (by omega)]

theorem take_next {h : Header} {before after : List Piece} {x : Piece} {n : Nat}
    (past : endOf before ≤ n) (short : n ≤ endOf before + x.frame.encode.length) :
    (h.encode ++ (before ++ [x] ++ after).flatMap Piece.encode).take n =
      h.encode ++ before.flatMap Piece.encode ++ x.frame.encode.take (n - endOf before) := by
  rw [List.append_assoc, List.flatMap_append, take_encode _ past, List.singleton_append,
    List.flatMap_cons, List.take_append_of_le_length]
  · rfl
  · rw [Piece.encode]
    omega

end Packet

namespace Frame

variable {f : Frame} {m : Nat}

theorem torn_of_take_header (pos : 0 < m) (short : m < setHeaderSize) :
    Torn (f.encode.take m) (.short ⟨.flowSetHeader, setHeaderSize, m⟩) := by
  have hlen : (f.encode.take m).length = m := by
    rw [List.length_take, length_encode]
    omega
  have htorn : Torn (f.encode.take m)
      (.short ⟨.flowSetHeader, setHeaderSize, (f.encode.take m).length⟩) := by
    apply Torn.header
    · apply List.ne_nil_of_length_pos
      omega
    · omega
  rwa [hlen] at htorn

theorem torn_of_take_body (sized : f.Sized) (past : setHeaderSize ≤ m)
    (short : m < f.encode.length) : Torn (f.encode.take m) (.flowSetLength f.id f.length) := by
  have hheader : (ofWord16 f.id ++ ofWord16 f.length).length = setHeaderSize := by
    simp [setHeaderSize]
  rw [encode, List.take_append, hheader, List.take_of_length_le (by omega)]
  apply Torn.length
  rw [length_encode] at short
  right
  rw [sized, List.length_take]
  omega

end Frame

theorem Piece.Shows.length_filterMap {pieces : List Piece} {sets : List FlowSet}
    (h : List.Forall₂ Shows pieces sets) :
    (sets.filterMap FlowSet.templates?).length = pieces.countP isTemplates ∧
      (sets.filterMap FlowSet.data?).length = pieces.countP (!·.isTemplates) := by
  induction h with
  | nil => exact ⟨rfl, rfl⟩
  | cons hshows _ ih =>
    rw [List.countP_cons, List.countP_cons, ← ih.1, ← ih.2]
    cases hshows <;> simp [List.filterMap_cons, FlowSet.templates?, FlowSet.data?, isTemplates]

namespace Packet

variable {r : Registry} {b : Bytes} {p : Packet} {h : Header} {pieces : List Piece} {n : Nat}

theorem ReadOff.within {before : List Piece} (read : p.ReadOff h pieces)
    (inner : before <+: pieces) : (p.within before).ReadOff h before := by
  obtain ⟨after, rfl⟩ := inner
  obtain ⟨rfl, sets, hsets, ht, hd⟩ := read
  have hfirst := List.forall₂_take before.length hsets
  rw [List.take_left] at hfirst
  obtain ⟨hcountT, hcountD⟩ := Piece.Shows.length_filterMap hfirst
  rw [← List.take_append_drop before.length sets, List.filterMap_append] at ht hd
  refine ⟨rfl, sets.take before.length, hfirst, ?_, ?_⟩
  · rw [within, ht, List.take_left' hcountT]
  · rw [within, hd, List.take_left' hcountD]

theorem readOff_of_parse (hp : (parse r b).1 = .ok p) (hspelled : Spelled r b h pieces) :
    p.ReadOff h pieces := by
  obtain ⟨sets, hsets, hp⟩ := shows_of_parse hp hspelled
  exact (readOff_iff hsets).2 hp

theorem parse_of_torn {rest : Bytes} {e : DecodeError} (hv : h.version = version)
    (legal : Legal r [] pieces) (torn : Torn rest e) :
    (parse r (h.encode ++ pieces.flatMap Piece.encode ++ rest)).1 = .error e := by
  rw [parse_of_leaves (.stuck hv legal (.torn torn))]

theorem parse_of_cutShort {res : Except DecodeError Packet} (spelled : Spelled r b h pieces)
    (read : p.ReadOff h pieces) (hn : n ≤ b.length) (short : CutShort p pieces n res) :
    (parse r (b.take n)).1 = res := by
  obtain ⟨rfl, hv, legal⟩ := spelled
  cases short with
  | header short =>
    have hlen := List.length_take_of_le hn
    rw [← hlen] at short
    rw [parse_of_leaves (.noHeader short), hlen]
  | whole inner stop =>
    rename_i before
    have hread := read.within inner
    obtain ⟨after, rfl⟩ := inner
    rw [List.flatMap_append, take_encode _ (Nat.le_of_eq stop.symm), stop, Nat.sub_self, List.take_zero,
      List.append_nil]
    rw [parse_of_leaves (.whole ⟨rfl, hv, legal.of_append⟩ hread)]
  | setHeader next past short =>
    rename_i before x
    obtain ⟨after, rfl⟩ := next
    rw [take_next (by omega) (by rw [Frame.length_encode]; omega)]
    exact parse_of_torn hv legal.of_append.of_append (Frame.torn_of_take_header (by omega) (by omega))
  | setBody next past short =>
    rename_i before x
    obtain ⟨after, rfl⟩ := next
    have hsized : x.frame.Sized := legal.sized (by simp)
    rw [endOf_concat, Piece.encode] at short
    rw [take_next (by omega) (by omega)]
    exact parse_of_torn hv legal.of_append.of_append
      (Frame.torn_of_take_body hsized (by omega) (by omega))

/-- **Cutting short.** The first bytes of a packet are a packet exactly where they end with the header or
with a piece, and it is then the packet of the pieces that are left. Anywhere else they are refused, by
what is missing of the header, of the front of a set, or of its body. -/
theorem parse_take (hp : (parse r b).1 = .ok p) (hn : n < b.length) :
    (∃ h pieces, Spelled r b h pieces) ∧
      ∀ h pieces, Spelled r b h pieces →
        ((∃ q, (parse r (b.take n)).1 = .ok q) ↔ ∃ before, before <+: pieces ∧ n = endOf before) ∧
          ∀ res, (parse r (b.take n)).1 = res ↔ CutShort p pieces n res := by
  obtain ⟨h, pieces, hspelled, -⟩ := spelled_of_parse hp
  refine ⟨⟨h, pieces, hspelled⟩, ?_⟩
  intro h pieces hspelled
  have hread := readOff_of_parse hp hspelled
  have hend : endOf pieces = b.length := by
    rw [hspelled.bytes, List.length_append, Header.length_encode, endOf]
  have hparse : ∀ {res}, CutShort p pieces n res → (parse r (b.take n)).1 = res := by
    intro res hcut
    exact parse_of_cutShort hspelled hread (Nat.le_of_lt hn) hcut
  obtain ⟨res, hcut⟩ := exists_cutShort p (hend ▸ hn)
  have hres := hparse hcut
  constructor
  · constructor
    · rintro ⟨q, hq⟩
      rw [hres] at hq
      subst hq
      cases hcut with
      | whole inner stop => exact ⟨_, inner, stop⟩
    · rintro ⟨before, inner, stop⟩
      exact ⟨_, hparse (.whole inner stop)⟩
  · intro res'
    constructor
    · rintro rfl
      rwa [hres]
    · exact hparse

/-- The announcement and what follows it, in one packet. -/
def continued : Packet :=
  let record := (Flow.decode .generic (List.replicate 37 5)).1
  announcement.followedBy ⟨{}, [], [⟨300, 80, [record, record], 2⟩, ⟨300, 4, [], 0⟩]⟩

theorem parse_take_following :
    (parse .empty (announcement.encode ++ following 300)).1 = .ok continued ∧
      167 < (announcement.encode ++ following 300).length ∧
      ∀ h pieces, Spelled .empty (announcement.encode ++ following 300) h pieces →
        (¬ ∃ before, before <+: pieces ∧ 167 = endOf before) ∧
          CutShort continued pieces 167 (.error (.flowSetLength 300 80)) := by
  have hp : (parse .empty (announcement.encode ++ following 300)).1 = .ok continued := by
    decide +kernel
  have hn : 167 < (announcement.encode ++ following 300).length := by decide +kernel
  -- One byte of the padding is missing, and no record is made of the rest.
  have hfault : (parse .empty ((announcement.encode ++ following 300).take 167)).1 =
      .error (.flowSetLength 300 80) := by
    decide +kernel
  refine ⟨hp, hn, ?_⟩
  intro h pieces hspelled
  obtain ⟨hsuccess, hresult⟩ := (parse_take hp hn).2 h pieces hspelled
  rw [← hsuccess]
  constructor
  · rintro ⟨q, hq⟩
    rw [hfault] at hq
    cases hq
  · exact (hresult _).1 hfault

end Packet

end FlowTraffic.Netflow
