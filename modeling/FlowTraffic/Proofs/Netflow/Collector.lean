import FlowTraffic.Proofs.Netflow.Building

/-!
# One collector behind many exporters

Exporters of any number and schema are called in any order, and one registry that starts empty reads all
that they emit. Template IDs are those of the schemas, so it does not matter whose template was heard
first.
-/

namespace FlowTraffic.Netflow

/-! ## Exporters at work -/

/-- What can be asked of an exporter, with the clock and the random words at that moment. -/
inductive Exporter.Call
  | template (now : Moment)
  | data (drawnAt sentAt : Moment) (count : UInt16) (words : Words)
  | combined (drawnAt sentAt : Moment) (count : UInt16) (words : Words)
  | write (drawnAt sentAt : Moment) (maxBytes : Nat) (sink : Sink) (words : Words)

/-- A packet that an exporter of the schema built, and the bytes that left it. -/
structure Emission where
  schema : Schema
  packet : Packet
  bytes : Bytes

namespace Exporter

def emit (e : Exporter) (p : Packet) : Emission := ⟨e.profile.schema, p, p.encode⟩

/-- What a call emits, if it succeeds, and the exporter afterwards. A `write` builds the packet of
`data` for as many records as it has room for, and its bytes are those that the sink took. -/
def perform (e : Exporter) : Call → Option Emission × Exporter
  | .template now => (some (e.emit (e.template now).1), (e.template now).2)
  | .data drawnAt sentAt count words =>
    let (result, e') := (e.data drawnAt sentAt count words).1
    (result.toOption.map e.emit, e')
  | .combined drawnAt sentAt count words =>
    let (result, e') := (e.combined drawnAt sentAt count words).1
    (result.toOption.map e.emit, e')
  | .write drawnAt sentAt maxBytes sink words =>
    let count := UInt16.ofNat (e.writeCount maxBytes)
    let built := (e.data drawnAt sentAt count words).1.1
    match (e.write drawnAt sentAt maxBytes sink words).1 with
    | (.error _, e', _) => (none, e')
    | (.ok (), e', sink') =>
      let written := sink'.taken.drop sink.taken.length
      (built.toOption.map fun p => ⟨e.profile.schema, p, written⟩, e')

end Exporter

/-- What exporters emit when they are called one after the other, in any order. -/
def emissions {n : Nat} (exporters : Fin n → Exporter) :
    List (Fin n × Exporter.Call) → List Emission
  | [] => []
  | (i, call) :: calls =>
    let (emission, e) := (exporters i).perform call
    emission.toList ++ emissions (fun j => if j = i then e else exporters j) calls

/-- What a collector reads from datagrams, one after the other. -/
def Packet.parseAll (r : Registry) : List Bytes → List (Except DecodeError Packet)
  | [] => []
  | b :: bs => (parse r b).1 :: parseAll (parse r b).2 bs

/-! ## What is emitted -/

theorem eq_ok_of_mem_toOption {ε α : Type} {result : Except ε α} {a : α}
    (h : a ∈ result.toOption) : result = .ok a := by
  cases result with
  | error e => cases h
  | ok b => rw [Option.some.inj h]

namespace Exporter

variable (e : Exporter)

theorem data_isOf {drawnAt sentAt : Moment} {count : UInt16} {words : Words} {p : Packet}
    (h : (e.data drawnAt sentAt count words).1.1 = .ok p) : p.IsOf e.profile.schema := by
  have packs := e.data_packs drawnAt sentAt count words
  rw [show (e.data drawnAt sentAt count words).1 = (.ok p, _) from Prod.ext h rfl] at packs
  exact packs.isOf (.inl rfl)

theorem combined_isOf {drawnAt sentAt : Moment} {count : UInt16} {words : Words} {p : Packet}
    (h : (e.combined drawnAt sentAt count words).1.1 = .ok p) : p.IsOf e.profile.schema := by
  have counted : count ≠ 0xFFFF := by
    rintro rfl
    rw [e.combined_full] at h
    cases h
  have packs := e.combined_packs counted drawnAt sentAt words
  rw [show (e.combined drawnAt sentAt count words).1 = (.ok p, _) from Prod.ext h rfl] at packs
  exact packs.isOf (.inr rfl)

theorem write_eq_ok {drawnAt sentAt : Moment} {maxBytes : Nat} {sink sink' : Sink} {e' : Exporter}
    {words : Words} (h : (e.write drawnAt sentAt maxBytes sink words).1 = (.ok (), e', sink')) :
    ∃ p, (e.data drawnAt sentAt (UInt16.ofNat (e.writeCount maxBytes)) words).1.1 = .ok p ∧
      sink'.taken = sink.taken ++ p.encode := by
  have writes := e.write_writes drawnAt sentAt maxBytes sink words
  rw [h] at writes
  generalize built : e.packet? drawnAt sentAt maxBytes words = packet at writes
  cases writes with
  | done room fills taken =>
    unfold packet? at built
    rw [if_neg (Nat.ne_of_gt room)] at built
    exact ⟨_, eq_ok_of_mem_toOption built, Sink.taken_of_write_eq_ok taken⟩

end Exporter

/-- The packet is one of the schema, and its bytes are those that left. -/
structure Emission.Sound (x : Emission) : Prop where
  isOf : x.packet.IsOf x.schema
  bytes : x.bytes = x.packet.encode

theorem Exporter.perform_sound (e : Exporter) (call : Call) :
    ∀ x ∈ (e.perform call).1, x.Sound := by
  intro x hx
  cases call with
  | template now =>
    obtain rfl := Option.some.inj hx
    exact ⟨e.template_isOf now, rfl⟩
  | data drawnAt sentAt count words =>
    rw [perform] at hx
    obtain ⟨p, hp, rfl⟩ := Option.map_eq_some_iff.1 hx
    exact ⟨e.data_isOf (eq_ok_of_mem_toOption hp), rfl⟩
  | combined drawnAt sentAt count words =>
    rw [perform] at hx
    obtain ⟨p, hp, rfl⟩ := Option.map_eq_some_iff.1 hx
    exact ⟨e.combined_isOf (eq_ok_of_mem_toOption hp), rfl⟩
  | write drawnAt sentAt maxBytes sink words =>
    rw [perform] at hx
    cases hwrite : (e.write drawnAt sentAt maxBytes sink words).1 with
    | mk result rest =>
      rw [hwrite] at hx
      cases result with
      | error err => cases hx
      | ok u =>
        obtain ⟨p, hp, htaken⟩ := e.write_eq_ok hwrite
        simp only [hp, htaken, List.drop_left] at hx
        obtain rfl := Option.some.inj hx
        exact ⟨e.data_isOf hp, rfl⟩

theorem emissions_sound {n : Nat} (exporters : Fin n → Exporter)
    (calls : List (Fin n × Exporter.Call)) : ∀ x ∈ emissions exporters calls, x.Sound := by
  induction calls generalizing exporters with
  | nil => intro x hx; cases hx
  | cons c calls ih =>
    intro x hx
    unfold emissions at hx
    rcases List.mem_append.1 hx with hx | hx
    · exact (exporters c.1).perform_sound c.2 x (Option.mem_toList.1 hx)
    · exact ih _ x hx

/-! ## What the collector knows -/

def Registry.Knows (r : Registry) (s : Schema) : Prop := r.find? s.templateId = some (some s)

theorem Registry.knows_register (r : Registry) (s s' : Schema) :
    (r.register s.template).Knows s' ↔ s'.template = s.template ∨ r.Knows s' := by
  unfold Knows
  rw [find?_register]
  cases s <;> cases s' <;> simp [Schema.template, Schema.templateId, Schema.ofFields?_fields]

namespace Packet.IsOf

variable {s : Schema} {p : Packet} (h : p.IsOf s) (r : Registry)
include h

theorem templates_eq : p.templates = [] ∨ p.templates = [s.template] := by
  unfold Packet.templates
  rcases h.templates with ht | ht
  · exact .inl (by rw [ht]; rfl)
  · exact .inr (by rw [ht]; rfl)

theorem knows_registerAll (s' : Schema) :
    (r.registerAll p.templates).Knows s' ↔ s'.template ∈ p.templates ∨ r.Knows s' := by
  rcases h.templates_eq with ht | ht
  · simp [ht, r.registerAll_nil]
  · rw [ht, List.mem_singleton]
    exact r.knows_register s s'

theorem built_templates : ∀ t ∈ p.templateSets, t.Built := by
  rcases h.templates with ht | ht
  · simp [ht]
  · rw [ht, List.forall_mem_singleton]
    cases s <;> exact ⟨rfl, by decide, by decide⟩

theorem parse_encode_of_knows (hknown : s.template ∈ p.templates ∨ r.Knows s) :
    Packet.parse r p.encode = (.ok p, r.registerAll p.templates) := by
  refine parse_of_built h.version h.built_templates (fun d hd => (h.data d hd).1) fun d hd => ?_
  obtain ⟨-, hid, hlayout⟩ := h.data d hd
  refine ⟨s, ?_, hlayout⟩
  rw [hid]
  exact Registry.schema_eq_ok_iff.2 ((h.knows_registerAll r s).2 hknown)

end Packet.IsOf

/-! ## The whole run -/

/-- The first packet of every schema carries the schema's template. -/
def AnnouncedFirst (es : List Emission) : Prop :=
  ∀ s : Schema, ∀ x ∈ es.find? (·.schema = s), s.template ∈ x.packet.templates

theorem parseAll_of_sound {es : List Emission} {r : Registry} (hsound : ∀ x ∈ es, x.Sound)
    (hfirst : ∀ s : Schema, r.Knows s ∨
      ∀ x ∈ es.find? (·.schema = s), s.template ∈ x.packet.templates) :
    Packet.parseAll r (es.map (·.bytes)) = es.map (fun x => .ok x.packet) := by
  induction es generalizing r with
  | nil => rfl
  | cons x es ih =>
    obtain ⟨⟨hof, hbytes⟩, hrest⟩ := List.forall_mem_cons.1 hsound
    have hknown : x.schema.template ∈ x.packet.templates ∨ r.Knows x.schema := by
      rcases hfirst x.schema with hr | hx
      · exact .inr hr
      · exact .inl (hx x (by simp))
    have hparse := hof.parse_encode_of_knows r hknown
    -- From here on the schema of this packet is known, and of the others what was known before.
    have hafter : ∀ s : Schema, (r.registerAll x.packet.templates).Knows s ∨
        ∀ y ∈ es.find? (·.schema = s), s.template ∈ y.packet.templates := by
      intro s
      rw [hof.knows_registerAll]
      by_cases hs : x.schema = s
      · exact .inl (hs ▸ hknown)
      · rcases hfirst s with hr | hx
        · exact .inl (.inr hr)
        · refine .inr fun y hy => hx y ?_
          rwa [List.find?_cons_of_neg (by simpa using hs)]
    rw [List.map_cons, List.map_cons, Packet.parseAll, hbytes, hparse, ih hrest hafter]

/-- **The mix is followed.** If the first packet of every schema carries its template, a collector that
starts with nothing reads every packet as it was emitted. -/
theorem parseAll_emissions (n : Nat) (exporters : Fin n → Exporter)
    (calls : List (Fin n × Exporter.Call)) (hfirst : AnnouncedFirst (emissions exporters calls)) :
    Packet.parseAll .empty ((emissions exporters calls).map (·.bytes)) =
      (emissions exporters calls).map (fun x => .ok x.packet) :=
  parseAll_of_sound (emissions_sound exporters calls) fun s => .inr (hfirst s)

/-- Two exporters of one schema and one of the other. -/
def fleet : Fin 3 → Exporter
  | 0 => ⟨⟨.https, 3, .private10, .private10⟩, rfl, 618, 0, none⟩
  | 1 => ⟨⟨.generic, 2, .private10, .private10⟩, rfl, 619, 0, none⟩
  | 2 => ⟨⟨.https, 1, .private10, .private10⟩, rfl, 620, 0, none⟩

/-- The third exporter never sends a template, and the fourth call fails. -/
def fleetCalls : List (Fin 3 × Exporter.Call) :=
  [(0, .template {}), (2, .data {} {} 2 ⟨.ofNat, 0⟩), (1, .combined {} {} 1 ⟨.ofNat, 7⟩),
    (1, .write {} {} 10 {} ⟨.ofNat, 0⟩), (2, .write {} {} 100 {} ⟨.ofNat, 9⟩)]

theorem parseAll_fleet :
    AnnouncedFirst (emissions fleet fleetCalls) ∧
      Packet.parseAll .empty ((emissions fleet fleetCalls).map (·.bytes)) =
        (emissions fleet fleetCalls).map (fun x => .ok x.packet) := by
  have hfirst : AnnouncedFirst (emissions fleet fleetCalls) := by
    intro s
    cases s <;> decide +kernel
  exact ⟨hfirst, parseAll_emissions 3 fleet fleetCalls hfirst⟩

end FlowTraffic.Netflow
