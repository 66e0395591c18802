import FlowTraffic.Proofs.Netflow.Format

/-!
# Reading a body, one flow set at a time

Cutting a body into frames and giving the frames their meaning is the same as doing both for one flow
set after the other (`readBody`). Every frame is either accepted or refused, so every body is a row of
pieces up to its end or to where it is stuck, and that decides what is read.
-/

namespace FlowTraffic.Netflow

open Bytes

/-! ## What a registry knows after templates -/

theorem latest?_cons (t : Template) (ts : List Template) (id : UInt16) :
    latest? (t :: ts) id = (latest? ts id).or (if t.id = id then some t else none) := by
  by_cases h : t.id = id <;> simp [latest?, List.find?_append, h]

theorem latest?_eq_none_iff {ts : List Template} {id : UInt16} :
    latest? ts id = none ↔ ∀ t ∈ ts, t.id ≠ id := by
  simp [latest?]

namespace Registry

variable (r : Registry) (seen : List Template) (id : UInt16)

theorem registerAll_nil : r.registerAll [] = r := rfl

theorem registerAll_append (ts us : List Template) :
    r.registerAll (ts ++ us) = (r.registerAll ts).registerAll us := List.foldl_append

theorem find?_registerAll :
    (r.registerAll seen).find? id =
      match latest? seen id with
      | some t => some (Schema.ofFields? t.fields)
      | none => r.find? id := by
  induction seen generalizing r with
  | nil => rfl
  | cons t ts ih =>
    show ((r.register t).registerAll ts).find? id = _
    rw [ih, latest?_cons, find?_register]
    cases latest? ts id with
    | some u => rfl
    | none =>
      by_cases h : id = t.id
      · simp [h]
      · simp [h, Ne.symm h]

theorem find?_registerAll_of_not_mem (h : ∀ t ∈ seen, t.id ≠ id) :
    (r.registerAll seen).find? id = r.find? id := by
  rw [find?_registerAll, latest?_eq_none_iff.2 h]

theorem find?_registerAll_eq_some_iff (s : Schema) :
    (r.registerAll seen).find? id = some (some s) ↔ r.Describes seen id s := by
  rw [find?_registerAll, Describes]
  cases latest? seen id with
  | some t => simp only [Option.some.injEq, Schema.ofFields?_eq_some_iff]
  | none => rfl

theorem find?_registerAll_eq_unsupported_iff :
    (r.registerAll seen).find? id = some none ↔ r.Unsupported seen id := by
  rw [find?_registerAll, Unsupported]
  cases latest? seen id with
  | some t =>
    simp only [Option.some.injEq, Option.eq_none_iff_forall_ne_some, ne_eq,
      Schema.ofFields?_eq_some_iff]
  | none => rfl

theorem find?_registerAll_eq_none_iff :
    (r.registerAll seen).find? id = none ↔ r.Unknown seen id := by
  rw [find?_registerAll, Unknown]
  cases latest? seen id <;> simp

theorem schema_eq_ok_iff {r : Registry} {id : UInt16} {s : Schema} :
    r.schema id = .ok s ↔ r.find? id = some (some s) := by
  unfold schema
  match r.find? id with
  | some (some _) => simp
  | some none => simp
  | none => simp

end Registry

/-! ## Framing -/

theorem Frame.length_encode (f : Frame) : f.encode.length = setHeaderSize + f.body.length := by
  simp only [encode, List.length_append, length_ofWord16, setHeaderSize]

theorem cut_words (id length : UInt16) (rest : Bytes) :
    cut (ofWord16 id ++ ofWord16 length ++ rest) =
      if length.toNat < setHeaderSize ∨ setHeaderSize + rest.length < length.toNat then
        ⟨[], some (.flowSetLength id length)⟩
      else
        let size := length.toNat - setHeaderSize
        let later := cut (rest.drop size)
        ⟨⟨id, length, rest.take size⟩ :: later.frames, later.fault⟩ := by
  obtain ⟨i, i', hi, rfl⟩ := exists_ofWord16_eq id
  obtain ⟨l, l', hl, rfl⟩ := exists_ofWord16_eq length
  rw [hi, hl]
  show cut (i :: i' :: l :: l' :: rest) = _
  have hbad : ((join16 l l').toNat < setHeaderSize ∨
      (rest.take ((join16 l l').toNat - setHeaderSize)).length <
        (join16 l l').toNat - setHeaderSize) ↔
      (join16 l l').toNat < setHeaderSize ∨ setHeaderSize + rest.length < (join16 l l').toNat := by
    rw [List.length_take]
    omega
  rw [cut]
  simp only [hbad]

theorem cut_of_torn {b : Bytes} {e : DecodeError} (h : Torn b e) : cut b = ⟨[], some e⟩ := by
  cases h with
  | header nonempty short =>
    match b, nonempty, short with
    | [_], _, _ | [_, _], _, _ | [_, _, _], _, _ => simp [cut]
  | length bad => rw [cut_words, if_pos bad]

theorem cut_append {f : Frame} (h : f.Sized) (rest : Bytes) :
    cut (f.encode ++ rest) = ⟨f :: (cut rest).frames, (cut rest).fault⟩ := by
  have hsize : f.body.length = f.length.toNat - setHeaderSize := by rw [h]; omega
  rw [Frame.encode, List.append_assoc, cut_words,
    if_neg (by rw [h, List.length_append]; omega)]
  simp only [List.take_left' hsize, List.drop_left' hsize]

theorem front_cases (b : Bytes) :
    b = [] ∨ (∃ e, Torn b e) ∨ ∃ (f : Frame) (rest : Bytes), f.Sized ∧ b = f.encode ++ rest := by
  by_cases hnil : b = []
  · exact .inl hnil
  by_cases hshort : b.length < setHeaderSize
  · exact .inr (.inl ⟨_, .header hnil hshort⟩)
  unfold setHeaderSize at hshort
  obtain ⟨id, b, rfl⟩ := exists_ofWord16_append (b := b) (by omega)
  rw [List.length_append, length_ofWord16] at hshort
  obtain ⟨length, b, rfl⟩ := exists_ofWord16_append (b := b) (by omega)
  rw [← List.append_assoc]
  by_cases hbad : length.toNat < setHeaderSize ∨ setHeaderSize + b.length < length.toNat
  · exact .inr (.inl ⟨_, .length hbad⟩)
  refine .inr (.inr ⟨⟨id, length, b.take (length.toNat - setHeaderSize)⟩,
    b.drop (length.toNat - setHeaderSize), ?_, ?_⟩)
  · simp only [Frame.Sized, List.length_take]
    omega
  · simp only [Frame.encode, List.append_assoc, List.take_append_drop]

/-! ## Rows of pieces -/

theorem Legal.of_append {r : Registry} {seen : List Template} {xs ys : List Piece}
    (h : Legal r seen (xs ++ ys)) : Legal r seen xs := by
  induction xs generalizing seen with
  | nil => trivial
  | cons x xs ih =>
    obtain ⟨hsized, hcarries, hrest⟩ := h
    exact ⟨hsized, hcarries, ih hrest⟩

theorem Legal.sized {r : Registry} {seen : List Template} {pieces : List Piece} {x : Piece}
    (h : Legal r seen pieces) (hx : x ∈ pieces) : x.frame.Sized := by
  induction pieces generalizing seen with
  | nil => cases hx
  | cons y ys ih =>
    obtain ⟨hsized, -, hrest⟩ := h
    rcases List.mem_cons.1 hx with rfl | hx
    · exact hsized
    · exact ih hrest hx

/-! ## One flow set -/

theorem Piece.Shows.decode (f : Frame) (s : Schema) :
    Piece.Shows ⟨f, .records s⟩ (.data (DataSet.decode f.id f.length s f.body)) := by
  have hpos := s.recordSize_pos
  obtain ⟨xs, filler, hcount, hlayout, hbody⟩ :=
    Flow.exists_row s (b := f.body) (Nat.div_mul_le_self _ s.recordSize)
  have hread := Flow.decodeMany_of_body hbody hlayout hcount
  have hleft : (UInt8.ofNat (f.body.length % s.recordSize)).toNat =
      f.body.length % s.recordSize := by
    have hmod := Nat.mod_lt f.body.length hpos
    refine UInt8.toNat_ofNat_of_lt' (Nat.lt_trans hmod ?_)
    cases s <;> decide
  simp only [DataSet.decode, hread]
  exact .data hbody hlayout hcount hleft

theorem Piece.Shows.eq_decode {f : Frame} {s : Schema} {set : FlowSet}
    (h : Piece.Shows ⟨f, .records s⟩ set) :
    set = .data (DataSet.decode f.id f.length s f.body) := by
  cases h with
  | data body layout count left =>
    have hread := Flow.decodeMany_of_body body layout count
    simp only [DataSet.decode, hread, ← left, UInt8.ofNat_toNat]

namespace FlowSet

variable {r : Registry} {seen : List Template} {f : Frame}

theorem read_of_templates {ts : List Template} (hzero : f.id = 0)
    (hdecode : Template.decodeAll f.body = .ok ts) :
    read r f =
      match ts.find? (·.id < minDataId) with
      | some t => .error (.reservedFlowSet t.id)
      | none => .ok (.templates ⟨f.length, ts⟩, r.registerAll ts) := by
  unfold read
  rw [if_pos hzero, hdecode]
  rfl

theorem read_of_data (h : minDataId ≤ f.id) :
    read r f = (r.schema f.id).map fun s => (.data (DataSet.decode f.id f.length s f.body), r) := by
  have hzero : f.id ≠ 0 := by
    rintro hzero
    rw [hzero] at h
    exact absurd h (by decide)
  unfold read
  rw [if_neg hzero, if_neg (UInt16.not_lt.2 h)]
  cases r.schema f.id <;> rfl

theorem read_of_carries {c : Content} (h : f.Carries r seen c) :
    ∃ set, read (r.registerAll seen) f = .ok (set, r.registerAll (seen ++ c.announced)) ∧
      Piece.Shows ⟨f, c⟩ set := by
  cases h with
  | templates zero body short whole ids =>
    rename_i ts filler
    refine ⟨.templates ⟨f.length, ts⟩, ?_, .templates⟩
    have hdecode : Template.decodeAll f.body = .ok ts := by
      rw [body, Template.decodeAll_row_of_short whole short]
    have hids : ts.find? (·.id < minDataId) = none := by
      simpa [UInt16.not_lt] using ids
    rw [read_of_templates zero hdecode, hids, Registry.registerAll_append]
    rfl
  | records id known =>
    rename_i s
    refine ⟨_, ?_, .decode f s⟩
    have hschema : (r.registerAll seen).schema f.id = .ok s := by
      rw [Registry.schema, (Registry.find?_registerAll_eq_some_iff r seen f.id s).2 known]
    rw [read_of_data id, hschema, Content.announced, List.append_nil]
    rfl

theorem read_of_refused {e : DecodeError} (h : f.Refused r seen e) :
    read (r.registerAll seen) f = .error e := by
  cases h with
  | truncated zero body whole torn =>
    unfold read
    rw [if_pos zero, body, Template.decodeAll_row whole, Template.decodeAll_of_torn _ torn]
    rfl
  | reservedTemplate zero body short whole ids reserved =>
    rename_i before after t filler
    have hdecode : Template.decodeAll f.body = .ok (before ++ t :: after) := by
      rw [body, Template.decodeAll_row_of_short whole short]
    have hfind : (before ++ t :: after).find? (·.id < minDataId) = some t := by
      rw [List.find?_append, List.find?_eq_none.2 (by simpa [UInt16.not_lt] using ids)]
      simp [reserved]
    rw [read_of_templates zero hdecode, hfind]
  | reservedSet nonzero reserved =>
    unfold read
    rw [if_neg nonzero, if_pos reserved]
    rfl
  | unknown id unknown =>
    rw [read_of_data id, Registry.schema, (r.find?_registerAll_eq_none_iff seen f.id).2 unknown]
    rfl
  | unsupported id unsupported =>
    rw [read_of_data id, Registry.schema,
      (r.find?_registerAll_eq_unsupported_iff seen f.id).2 unsupported]
    rfl

theorem carries_or_refused (r : Registry) (seen : List Template) (f : Frame) :
    (∃ c, f.Carries r seen c) ∨ ∃ e, f.Refused r seen e := by
  by_cases hzero : f.id = 0
  · obtain ⟨ts, rest, hbody, hwhole, hshort | ⟨id, count, tail, rfl, htorn⟩⟩ :=
      Template.exists_row f.body
    · cases hfind : ts.find? (·.id < minDataId) with
      | none =>
        refine .inl ⟨_, .templates hzero hbody hshort hwhole ?_⟩
        simpa [UInt16.not_lt] using hfind
      | some t =>
        obtain ⟨hreserved, before, after, rfl, hids⟩ := List.find?_eq_some_iff_append.1 hfind
        refine .inr ⟨_, .reservedTemplate hzero hbody hshort hwhole ?_ (by simpa using hreserved)⟩
        simpa [UInt16.not_lt] using hids
    · exact .inr ⟨_, .truncated hzero hbody hwhole htorn⟩
  by_cases hreserved : f.id < minDataId
  · exact .inr ⟨_, .reservedSet hzero hreserved⟩
  have hid : minDataId ≤ f.id := UInt16.not_lt.1 hreserved
  match hfind : (r.registerAll seen).find? f.id with
  | some (some s) =>
    exact .inl ⟨_, .records hid ((r.find?_registerAll_eq_some_iff seen f.id s).1 hfind)⟩
  | some none =>
    exact .inr ⟨_, .unsupported hid ((r.find?_registerAll_eq_unsupported_iff seen f.id).1 hfind)⟩
  | none => exact .inr ⟨_, .unknown hid ((r.find?_registerAll_eq_none_iff seen f.id).1 hfind)⟩

/-! ## The body -/

/-- Reads the flow sets of a body, cutting off one after the other. -/
def readBody (r : Registry) (b : Bytes) : Reading :=
  let reading := readAll r (cut b).frames
  { reading with fault := reading.fault.or (cut b).fault }

def Reading.after (later : Reading) (sets : List FlowSet) : Reading :=
  { later with sets := sets ++ later.sets }

theorem readBody_nil (r : Registry) : readBody r [] = ⟨[], r, none⟩ := by
  simp [readBody, cut, readAll]

theorem readBody_of_torn {b : Bytes} {e : DecodeError} (r : Registry) (h : Torn b e) :
    readBody r b = ⟨[], r, some e⟩ := by
  simp [readBody, cut_of_torn h, readAll]

theorem readBody_of_read_error {e : DecodeError} (h : f.Sized) (hread : read r f = .error e)
    (rest : Bytes) : readBody r (f.encode ++ rest) = ⟨[], r, some e⟩ := by
  simp [readBody, cut_append h, readAll, hread]

theorem readBody_of_read {r' : Registry} {s : FlowSet} (h : f.Sized)
    (hread : read r f = .ok (s, r')) (rest : Bytes) :
    readBody r (f.encode ++ rest) = (readBody r' rest).after [s] := by
  simp [readBody, cut_append h, readAll, hread, Reading.after]

theorem readBody_of_stuck {b : Bytes} {e : DecodeError} (h : Stuck r seen b e) :
    readBody (r.registerAll seen) b = ⟨[], r.registerAll seen, some e⟩ := by
  cases h with
  | torn torn => exact readBody_of_torn _ torn
  | refused sized refused => exact readBody_of_read_error sized (read_of_refused refused) _

theorem readBody_append {pieces : List Piece} (h : Legal r seen pieces) (rest : Bytes) :
    ∃ sets : List FlowSet, List.Forall₂ Piece.Shows pieces sets ∧
      readBody (r.registerAll seen) (pieces.flatMap Piece.encode ++ rest) =
        (readBody (r.registerAll (seen ++ pieces.flatMap Piece.announced)) rest).after sets := by
  induction pieces generalizing seen with
  | nil => exact ⟨[], .nil, by simp [Reading.after]⟩
  | cons x xs ih =>
    obtain ⟨hsized, hcarries, hrest⟩ := h
    obtain ⟨set, hread, hshows⟩ := read_of_carries hcarries
    obtain ⟨sets, hsets, hlater⟩ := ih hrest
    refine ⟨set :: sets, .cons hshows hsets, ?_⟩
    rw [List.append_assoc] at hlater
    rw [List.flatMap_cons, List.append_assoc, List.flatMap_cons, Piece.encode,
      readBody_of_read hsized hread]
    show (readBody (r.registerAll (seen ++ x.announced)) _).after _ = _
    rw [hlater]
    rfl

/-- Any body is a row of legal pieces, up to its end or to where it is stuck. -/
theorem exists_legal (r : Registry) (seen : List Template) (b : Bytes) :
    ∃ (pieces : List Piece) (rest : Bytes), b = pieces.flatMap Piece.encode ++ rest ∧
      Legal r seen pieces ∧
      (rest = [] ∨ ∃ e, Stuck r (seen ++ pieces.flatMap Piece.announced) rest e) := by
  -- On the bytes that are left: every frame takes at least the four of its header.
  induction hn : b.length using Nat.strongRecOn generalizing b seen with
  | ind n ih =>
    rcases front_cases b with rfl | ⟨e, htorn⟩ | ⟨f, b, hsized, rfl⟩
    · exact ⟨[], [], rfl, trivial, .inl rfl⟩
    · exact ⟨[], b, rfl, trivial, .inr ⟨e, by simpa using .torn htorn⟩⟩
    rcases carries_or_refused r seen f with ⟨c, hcarries⟩ | ⟨e, hrefused⟩
    · rw [List.length_append, Frame.length_encode, setHeaderSize] at hn
      obtain ⟨xs, rest, rfl, hlegal, hend⟩ := ih b.length (by omega) (seen ++ c.announced) b rfl
      refine ⟨⟨f, c⟩ :: xs, rest, ?_, ⟨hsized, hcarries, hlegal⟩, ?_⟩
      · rw [List.flatMap_cons, List.append_assoc]
        rfl
      · rwa [List.append_assoc] at hend
    · exact ⟨[], f.encode ++ b, rfl, trivial, .inr ⟨e, by simpa using .refused hsized hrefused⟩⟩

end FlowSet

end FlowTraffic.Netflow
