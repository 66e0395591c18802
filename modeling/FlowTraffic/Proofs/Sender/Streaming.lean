import FlowTraffic.Proofs.Netflow.Sending
import FlowTraffic.Proofs.Sender.Sources
import FlowTraffic.Sender.Single

/-!
# What a single run sends

The packets of a run are settled before any of them is sent: the template, and then packets of ten records
(`Stream`). The network only decides how many of them are delivered (`Ends`).
-/

namespace FlowTraffic.Sender.Single

open Netflow

/-! ## The packets of a run -/

/-- The template and then packets of ten records of the configured ranges, numbered in a row, all from one
source. -/
structure Stream (config : Config) (source : UInt32) (ps : List Packet) : Prop where
  template : ∀ p ∈ ps.head?, p.Announces config.traffic.schema
  data : ∀ p ∈ ps.tail, p.Carries config.traffic.schema 10 ∧
    ∀ x ∈ p.records, x.DrawnFrom config.traffic.schema config.traffic.src config.traffic.dst
  numbers : ps.map (·.header.sequence) = (List.range ps.length).map packetNumber
  source : ∀ p ∈ ps, p.header.sourceId = source

namespace Stream

variable {config : Config} {source : UInt32} {ps : List Packet} {p : Packet}

theorem nil : Stream config source [] := ⟨nofun, nofun, rfl, nofun⟩

theorem singleton (template : p.Announces config.traffic.schema)
    (number : p.header.sequence = packetNumber 0) (hsource : p.header.sourceId = source) :
    Stream config source [p] := by
  refine ⟨?_, by simp, ?_, List.forall_mem_singleton.2 hsource⟩
  · rintro _ ⟨⟩
    exact template
  · exact congrArg (fun n => [n]) number

theorem concat (h : Stream config source ps) (begun : ps ≠ [])
    (data : p.Carries config.traffic.schema 10 ∧
      ∀ x ∈ p.records, x.DrawnFrom config.traffic.schema config.traffic.src config.traffic.dst)
    (number : p.header.sequence = packetNumber ps.length) (hsource : p.header.sourceId = source) :
    Stream config source (ps ++ [p]) := by
  refine ⟨?_, ?_, numbers_concat h.numbers number, ?_⟩
  · rw [List.head?_append_of_ne_nil _ begun]
    exact h.template
  · rw [List.tail_append_of_ne_nil begun]
    exact List.forall_mem_append.2 ⟨h.data, List.forall_mem_singleton.2 data⟩
  · exact List.forall_mem_append.2 ⟨h.source, List.forall_mem_singleton.2 hsource⟩

theorem take (h : Stream config source ps) (k : Nat) : Stream config source (ps.take k) := by
  refine ⟨?_, ?_, ?_, fun p hp => h.source p (List.mem_of_mem_take hp)⟩
  · intro p hp
    rw [List.head?_take] at hp
    split at hp
    · cases hp
    · exact h.template p hp
  · intro p hp
    rw [← List.drop_one, List.drop_take, List.drop_one] at hp
    exact h.data p (List.mem_of_mem_take hp)
  · rw [List.map_take, h.numbers, List.length_take, ← List.map_take, List.take_range]

theorem parseAll_eq (h : Stream config source ps) :
    Packet.parseAll .empty (ps.map Packet.encode) = ps.map .ok := by
  apply Packet.parseAll_of_announced (s := config.traffic.schema) _ h.template
  cases ps with
  | nil => simp
  | cons p ps =>
    exact List.forall_mem_cons.2 ⟨(h.template p rfl).isOf, fun q hq => (h.data q hq).1.isOf⟩

end Stream

/-! ## One send -/

/-- A run that has delivered these packets. -/
structure Progress.Sound (config : Config) (source : UInt32) (ps : List Packet) (p : Progress) :
    Prop where
  stream : Stream config source ps
  profile : p.exporter.profile = config.traffic.profile flowsPerPacket
  sourceId : p.exporter.sourceId = source
  sequence : p.exporter.sequence = latestNumber ps.length
  delivered : p.delivered = ps
  report : p.report = ⟨source, ps.length, total (ps.map (·.encode.length))⟩

/-- What the network says to the packet at this place. -/
def answer (net : Network) (config : Config) (k : Nat) (p : Packet) : Except OsError Unit :=
  net.send k config.target p.encode.length

theorem exists_send (config : Config) (kind : String) (packet : Packet) (p : Progress) :
    ∃ sent : Progress, sent.exporter = p.exporter ∧ sent.delivered = p.delivered ++ [packet] ∧
      sent.report = { p.report with
        packets := p.report.packets + 1, bytes := p.report.bytes + packet.encode.length } ∧
      ∀ net, answer net config p.report.packets packet = .ok () →
        send net config kind packet p = (.ok (), sent) := by
  -- Nothing else is asked of the network, so one that accepts all shows what the progress is.
  let willing : Network := { send := fun _ _ _ => .ok () }
  refine ⟨(send willing config kind packet p).2, rfl, rfl, rfl, ?_⟩
  intro net accepted
  unfold answer at accepted
  unfold send Transport.send
  simp only [accepted, willing]

theorem send_of_refused {net : Network} {config : Config} {packet : Packet} {p : Progress}
    {why : OsError} (refused : answer net config p.report.packets packet = .error why) (kind : String) :
    ∃ failed : Progress, failed.delivered = p.delivered ∧
      send net config kind packet p = (.error (.transport (.send config.target why)), failed) := by
  unfold answer at refused
  unfold send Transport.send
  simp only [refused]
  refine ⟨_, ?_, rfl⟩
  rfl

/-! ## All sends -/

/-- All packets are accepted, each at its place. -/
def Accepted (net : Network) (config : Config) (ps : List Packet) : Prop :=
  ∀ k p, ps[k]? = some p → answer net config k p = .ok ()

theorem Accepted.concat {net : Network} {config : Config} {ps : List Packet} {p : Packet}
    (h : Accepted net config ps) (last : answer net config ps.length p = .ok ()) :
    Accepted net config (ps ++ [p]) := by
  intro k q hq
  rcases Nat.lt_trichotomy k ps.length with before | rfl | after
  · rw [List.getElem?_append_left before] at hq
    exact h k q hq
  · rw [List.getElem?_concat_length] at hq
    exact Option.some.inj hq ▸ last
  · rw [List.getElem?_eq_none (by simp; omega)] at hq
    cases hq

/-- The packet at this place is refused, and none before it. -/
structure Refused (net : Network) (config : Config) (ps : List Packet) (k : Nat) (why : OsError) :
    Prop where
  before : Accepted net config (ps.take k)
  here : ∃ p, ps[k]? = some p ∧ answer net config k p = .error why

/-- What comes of a run that is to send these packets: it goes through, or it fails at the first of them
that is refused. -/
inductive Ends (net : Network) (config : Config) (source : UInt32) (ps : List Packet) :
    Except Error Unit × Progress → Prop
  | done {p : Progress} (accepted : Accepted net config ps) (sound : p.Sound config source ps) :
      Ends net config source ps (.ok (), p)
  | failed {p : Progress} {k : Nat} {why : OsError} (refused : Refused net config ps k why)
      (delivered : p.delivered = ps.take k) :
      Ends net config source ps (.error (.transport (.send config.target why)), p)

section

variable {net : Network} {config : Config} {source : UInt32} {ps : List Packet}
  {outcome : Except Error Unit × Progress} {j k : Nat} {why why' : OsError}

theorem Refused.le (h : Refused net config ps j why) (accepted : Accepted net config (ps.take k)) :
    k ≤ j := by
  apply Nat.le_of_not_lt
  intro before
  obtain ⟨p, hp, refused⟩ := h.here
  rw [← List.getElem?_take_of_lt before] at hp
  cases (accepted j p hp).symm.trans refused

theorem Refused.unique (h : Refused net config ps j why) (h' : Refused net config ps k why') :
    j = k ∧ why = why' := by
  obtain rfl : j = k := Nat.le_antisymm (h'.le h.before) (h.le h'.before)
  obtain ⟨p, hp, refused⟩ := h.here
  obtain ⟨p', hp', refused'⟩ := h'.here
  cases hp.symm.trans hp'
  cases refused.symm.trans refused'
  exact ⟨rfl, rfl⟩

theorem Refused.not_accepted (h : Refused net config ps k why) : ¬ Accepted net config ps := by
  intro accepted
  obtain ⟨p, hp, refused⟩ := h.here
  cases (accepted k p hp).symm.trans refused

theorem Ends.delivered_prefix (h : Ends net config source ps outcome) :
    ∃ k, outcome.2.delivered = ps.take k := by
  cases h with
  | done accepted sound => exact ⟨ps.length, by rw [sound.delivered, List.take_length]⟩
  | failed refused delivered => exact ⟨_, delivered⟩

theorem Ends.of_accepted (h : Ends net config source ps outcome) (accepted : Accepted net config ps) :
    outcome.1 = .ok () ∧ outcome.2.Sound config source ps := by
  cases h with
  | done _ sound => exact ⟨rfl, sound⟩
  | failed refused _ => exact absurd accepted refused.not_accepted

theorem Ends.of_refused (h : Ends net config source ps outcome) (refused : Refused net config ps k why) :
    outcome.1 = .error (.transport (.send config.target why)) ∧ outcome.2.delivered = ps.take k := by
  cases h with
  | done accepted _ => exact absurd accepted refused.not_accepted
  | failed refused' delivered =>
    obtain ⟨rfl, rfl⟩ := refused'.unique refused
    exact ⟨rfl, delivered⟩

end

/-! ## From one send to the next -/

variable {config : Config} {source : UInt32} {ps : List Packet} {p : Progress}

/-- So many packets more are to be sent after these, and they are the same on every network that has accepted
these. -/
def Continues (config : Config) (source : UInt32) (ps : List Packet) (n : Nat)
    (outcome : Network → Except Error Unit × Progress) : Prop :=
  ∃ rest : List Packet, rest.length = n ∧ Stream config source (ps ++ rest) ∧
    ∀ net, Accepted net config ps → Ends net config source (ps ++ rest) (outcome net)

theorem Progress.Sound.continues (h : p.Sound config source ps) :
    Continues config source ps 0 fun _ => (.ok (), p) := by
  refine ⟨[], rfl, ?_, ?_⟩
  · rw [List.append_nil]
    exact h.stream
  · intro net accepted
    rw [List.append_nil]
    exact .done accepted h

theorem Progress.Sound.exists_sent (h : p.Sound config source ps) {packet : Packet} {exporter : Exporter}
    (makes : p.exporter.Makes packet exporter) (stream : Stream config source (ps ++ [packet]))
    (kind : String) :
    ∃ sent : Progress, sent.Sound config source (ps ++ [packet]) ∧
      ∀ net, answer net config ps.length packet = .ok () →
        send net config kind packet { p with exporter } = (.ok (), sent) := by
  obtain ⟨sent, same, delivered, report, accepted⟩ := exists_send config kind packet { p with exporter }
  have number : exporter.sequence = latestNumber (ps ++ [packet]).length := by
    rw [makes.sequence, h.sequence, nextSequence_latestNumber, List.length_append]
    rfl
  have place : p.report.packets = ps.length := by rw [h.report]
  refine ⟨sent, ⟨stream, ?_, ?_, ?_, ?_, ?_⟩, ?_⟩
  · rw [same]
    exact makes.profile.trans h.profile
  · rw [same]
    exact makes.sourceId.trans h.sourceId
  · rw [same]
    exact number
  · rw [delivered, h.delivered]
  · rw [report, h.report]
    simp
  · rw [← place]
    exact accepted

theorem Progress.Sound.continues_send (h : p.Sound config source ps) {packet : Packet}
    {exporter : Exporter} (makes : p.exporter.Makes packet exporter)
    (stream : Stream config source (ps ++ [packet])) (kind : String) {n : Nat}
    {next : Network → Progress → Except Error Unit × Progress}
    (later : ∀ sent : Progress, sent.Sound config source (ps ++ [packet]) →
      Continues config source (ps ++ [packet]) n fun net => next net sent) :
    Continues config source ps (n + 1) fun net =>
      match send net config kind packet { p with exporter } with
      | (.error e, p) => (.error e, p)
      | (.ok (), p) => next net p := by
  obtain ⟨sent, sound, goesOn⟩ := h.exists_sent makes stream kind
  obtain ⟨rest, length, whole, ends⟩ := later sent sound
  rw [List.append_assoc, List.singleton_append] at whole
  refine ⟨packet :: rest, by rw [List.length_cons, length], whole, ?_⟩
  intro net accepted
  cases said : answer net config ps.length packet with
  | ok =>
    have ends := ends net (accepted.concat said)
    rw [List.append_assoc, List.singleton_append] at ends
    simp only [goesOn net said]
    exact ends
  | error why =>
    have place : p.report.packets = ps.length := by rw [h.report]
    obtain ⟨failed, delivered, hsend⟩ :=
      send_of_refused (p := { p with exporter }) (place ▸ said) kind
    simp only [hsend]
    have all : (ps ++ packet :: rest).take ps.length = ps := List.take_left
    have refused : Refused net config (ps ++ packet :: rest) ps.length why := by
      refine ⟨?_, packet, ?_, said⟩
      · rw [all]
        exact accepted
      · simp
    refine .failed refused ?_
    rw [all, delivered]
    exact h.delivered

theorem sendData_of_built {clock : Clock} {packet : Packet} {exporter : Exporter} {words : Words}
    (built : (p.exporter.data (clock.drawn p.report.packets) (clock.sent p.report.packets) flowsPerPacket
      words).1 = (.ok packet, exporter)) (net : Network) (n : Nat) :
    (sendData net clock config (n + 1) p words).1 =
      match send net config "data" packet { p with exporter } with
      | (.error e, p) => (.error e, p)
      | (.ok (), sent) => (sendData net clock config n sent (p.exporter.data
          (clock.drawn p.report.packets) (clock.sent p.report.packets) flowsPerPacket words).2).1 := by
  rw [sendData, Draw.bind_apply, built]
  cases hsend : send net config "data" packet { p with exporter } with
  | mk result sent =>
    simp only [hsend]
    cases result <;> rfl

theorem sendAll_eq (net : Network) (clock : Clock) (words : Words) :
    (sendAll net clock config p words).1 =
      match send net config "template" (p.exporter.template (clock.sent 0)).1
        { p with exporter := (p.exporter.template (clock.sent 0)).2 } with
      | (.error e, p) => (.error e, p)
      | (.ok (), p) => (sendData net clock config config.count.toNat p words).1 := by
  unfold sendAll
  cases hsend : send net config "template" (p.exporter.template (clock.sent 0)).1
      { p with exporter := (p.exporter.template (clock.sent 0)).2 } with
  | mk result sent =>
    simp only [hsend]
    cases result <;> rfl

theorem sendData_continues (clock : Clock) (begun : ps ≠ []) (h : p.Sound config source ps) (n : Nat)
    (words : Words) :
    Continues config source ps n fun net => (sendData net clock config n p words).1 := by
  -- On the packets that are left. What the words give does not depend on the network, so the rest of the
  -- packets is there before it is known whether this one is accepted.
  induction n generalizing ps p words with
  | zero => exact h.continues
  | succ n ih =>
    have fits : flowsPerPacket.toNat ≤ p.exporter.profile.flowsPerPacket.toNat := by
      rw [h.profile]
      exact Nat.le_refl _
    obtain ⟨packet, exporter, built, fills⟩ := p.exporter.data_fills fits
      (clock.drawn p.report.packets) (clock.sent p.report.packets) words
    have carries := fills.carries
    have drawn := fills.drawn
    rw [h.profile] at carries drawn
    have stream : Stream config source (ps ++ [packet]) := by
      apply h.stream.concat begun ⟨carries, drawn⟩
      · rw [fills.makes.number, h.sequence, nextSequence_latestNumber]
      · rw [fills.makes.source, h.sourceId]
    simp only [sendData_of_built built]
    apply h.continues_send fills.makes stream "data"
    intro sent sound
    exact ih (by simp) sound _

theorem sendAll_continues (clock : Clock) (h : p.Sound config source []) (words : Words) :
    Continues config source [] (config.count.toNat + 1) fun net =>
      (sendAll net clock config p words).1 := by
  have makes := p.exporter.makes_template (clock.sent 0)
  have announces := p.exporter.template_announces (clock.sent 0)
  rw [h.profile] at announces
  have stream : Stream config source [(p.exporter.template (clock.sent 0)).1] := by
    apply Stream.singleton announces
    · rw [makes.number, h.sequence, nextSequence_latestNumber]
      rfl
    · rw [makes.source, h.sourceId]
  simp only [sendAll_eq]
  apply h.continues_send makes stream "template"
  intro sent sound
  exact sendData_continues clock (by simp) sound _ words

/-! ## The run -/

theorem check_profile (config : Config) : (config.traffic.profile flowsPerPacket).check = .ok () := by
  apply Profile.check_eq_ok_iff.2
  constructor
  · show flowsPerPacket ≠ 0
    decide
  · show dataPacketSize config.traffic.schema flowsPerPacket.toNat ≤ maxDatagram
    cases config.traffic.schema <;> decide

section

variable (net : Network) {clock : Clock} {config : Config} {words : Words} {exporter : Exporter}

theorem run_of_unbound {why : TransportError}
    (unbound : (Transport.bindSender net config.target config.srcPort (drawSource words).2).1 =
      .error why) : (run net clock config words).1 = { result := .error (.transport why) } := by
  obtain ⟨exporter, made⟩ := Exporter.exists_new (check_profile config) (drawSource words).1
  unfold run
  rw [Draw.bind_apply]
  simp only [made]
  rw [Draw.bind_apply, unbound]
  rfl

theorem run_of_bound {addr : Endpoint}
    (made : Exporter.new (config.traffic.profile flowsPerPacket) (drawSource words).1 = .ok exporter)
    (bound : (Transport.bindSender net config.target config.srcPort (drawSource words).2).1 = .ok addr) :
    (run net clock config words).1 =
      let sent := (sendAll net clock config { exporter, report := { source := (drawSource words).1 } }
        (Transport.bindSender net config.target config.srcPort (drawSource words).2).2).1
      { result := sent.1.map fun _ => sent.2.report, progress := some sent.2 } := by
  unfold run
  rw [Draw.bind_apply]
  simp only [made]
  rw [Draw.bind_apply, bound]
  rfl

theorem sound_of_new {source : UInt32}
    (made : Exporter.new (config.traffic.profile flowsPerPacket) source = .ok exporter) :
    Progress.Sound config source [] { exporter, report := { source } } := by
  obtain ⟨profile, sourceId, sequence, -⟩ := Exporter.of_new made
  exact ⟨.nil, profile, sourceId, sequence, rfl, rfl⟩

end

/-- The packets of a run with a socket do not depend on what becomes of them. -/
theorem exists_stream (net : Network) (clock : Clock) (config : Config) (words : Words)
    {addr : Endpoint}
    (bound : (Transport.bindSender net config.target config.srcPort (drawSource words).2).1 = .ok addr) :
    ∃ ps, ps.length = config.count.toNat + 1 ∧ Stream config (drawSource words).1 ps ∧
      ∀ send, ∃ result p, Ends { net with send } config (drawSource words).1 ps (result, p) ∧
        (run { net with send } clock config words).1 =
          { result := result.map fun _ => p.report, progress := some p } := by
  obtain ⟨exporter, made⟩ := Exporter.exists_new (check_profile config) (drawSource words).1
  obtain ⟨ps, length, stream, ends⟩ := sendAll_continues clock (sound_of_new made)
    (Transport.bindSender net config.target config.srcPort (drawSource words).2).2
  refine ⟨ps, length, stream, ?_⟩
  intro send
  exact ⟨_, _, ends { net with send } nofun, run_of_bound { net with send } made bound⟩

/-- **A single run sends a stream that describes itself.** If the socket is bound, the words have settled one
template packet and as many packets of ten records as are asked for, numbered from one on and all from one
source, and the network only decides how far they get. A collector that starts with nothing reads all that is
delivered. If every packet is accepted the report counts them all, and a packet that is refused ends the run:
those before it are delivered, and nothing else. The numbers last but for the largest count, whose last packet
has the number 1 again. -/
theorem stream_described (net : Network) (clock : Clock) (config : Config) (words : Words) :
    let source := (drawSource words).1
    let bound := (Transport.bindSender net config.target config.srcPort (drawSource words).2).1
    let outcome (send : Nat → Endpoint → Nat → Except OsError Unit) :=
      (run { net with send } clock config words).1
    (∀ why, bound = .error why → ∀ send, outcome send = { result := .error (.transport why) }) ∧
    ∀ addr, bound = .ok addr → (100 ≤ source.toNat ∧ source.toNat < 10000) ∧
      ∃ ps, ps.length = config.count.toNat + 1 ∧ Stream config source ps ∧
        ps.map (·.header.sequence.toNat) =
          (List.range (config.count.toNat + 1)).map (· % 4294967295 + 1) ∧
        (config.count ≠ 0xFFFFFFFF →
          ps.map (·.header.sequence.toNat) = List.range' 1 (config.count.toNat + 1)) ∧
        ∀ send, ∃ p, (outcome send).progress = some p ∧ (∃ k, p.delivered = ps.take k) ∧
          Packet.parseAll .empty (p.delivered.map Packet.encode) = p.delivered.map .ok ∧
          (Accepted { net with send } config ps → p.delivered = ps ∧
            (outcome send).result =
              .ok ⟨source, config.count.toNat + 1, total (ps.map (·.encode.length))⟩) ∧
          ∀ k why, Refused { net with send } config ps k why → p.delivered = ps.take k ∧
            (outcome send).result = .error (.transport (.send config.target why)) := by
  intro source bound outcome
  constructor
  · intro why unbound send
    exact run_of_unbound { net with send } unbound
  · intro addr hbound
    obtain ⟨ps, length, stream, ends⟩ := exists_stream net clock config words hbound
    have numbers := toNat_numbers stream.numbers
    rw [length] at numbers
    refine ⟨isSource_drawSource words, ps, length, stream, numbers, ?_, ?_⟩
    · intro few
      have few : config.count.toNat ≠ 0xFFFFFFFF := fun h => few (UInt32.toNat_inj.1 h)
      have small := config.count.toNat_lt
      rw [← length]
      exact toNat_numbers_of_few stream.numbers (by omega)
    · intro send
      obtain ⟨result, p, ends, houtcome⟩ := ends send
      have houtcome : outcome send = _ := houtcome
      obtain ⟨k, delivered⟩ := ends.delivered_prefix
      rw [houtcome]
      refine ⟨p, rfl, ⟨k, delivered⟩, ?_, ?_, ?_⟩
      · rw [delivered]
        exact (stream.take k).parseAll_eq
      · intro accepted
        obtain ⟨rfl, sound⟩ := ends.of_accepted accepted
        refine ⟨sound.delivered, ?_⟩
        rw [← length]
        exact congrArg Except.ok sound.report
      · intro k why refused
        obtain ⟨rfl, delivered⟩ := ends.of_refused refused
        exact ⟨delivered, rfl⟩

def brief : Config where
  target := { ip := .v4 (.ofOctets 127 0 0 1), port := 9995 }
  srcPort := some 9000
  count := 2

def refusesThird : Nat → Endpoint → Nat → Except OsError Unit := fun n _ _ =>
  if n = 2 then .error .networkUnreachable else .ok ()

theorem stream_described_cut :
    (Transport.bindSender { send := refusesThird } brief.target brief.srcPort
        (drawSource ⟨.ofNat, 0⟩).2).1 = .ok { ip := .v4 (.ofOctets 0 0 0 0), port := 9000 } ∧
      ∃ p, (run { send := refusesThird } {} brief ⟨.ofNat, 0⟩).1 =
          { result := .error (.transport (.send brief.target .networkUnreachable)), progress := some p } ∧
        p.delivered.map (·.header.sequence.toNat) = [1, 2] ∧
        Packet.parseAll .empty (p.delivered.map Packet.encode) = p.delivered.map .ok := by
  have bound : (Transport.bindSender { send := refusesThird } brief.target brief.srcPort
      (drawSource ⟨.ofNat, 0⟩).2).1 = .ok { ip := .v4 (.ofOctets 0 0 0 0), port := 9000 } := by
    decide +kernel
  obtain ⟨-, described⟩ := stream_described { send := refusesThird } {} brief ⟨.ofNat, 0⟩
  obtain ⟨-, ps, length, -, -, numbers, ends⟩ := described _ bound
  obtain ⟨p, progress, -, parsed, -, fails⟩ := ends refusesThird
  have refused : Refused { send := refusesThird } brief ps 2 .networkUnreachable := by
    constructor
    · intro k q hq
      have early : k < 2 := by
        have inside := (List.getElem?_eq_some_iff.1 hq).1
        rw [List.length_take] at inside
        omega
      exact if_neg (Nat.ne_of_lt early)
    · have third : 2 < ps.length := by
        rw [length]
        decide
      exact ⟨ps[2], List.getElem?_eq_getElem third, rfl⟩
  obtain ⟨delivered, result⟩ := fails 2 _ refused
  refine ⟨bound, p, ?_, ?_, parsed⟩
  · rw [← result, ← progress]
  · rw [delivered, List.map_take, numbers (by decide)]
    decide

end FlowTraffic.Sender.Single
