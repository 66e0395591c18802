import Mathlib.Data.List.Forall2
import FlowTraffic.Proofs.Net.Ranges
import FlowTraffic.Proofs.Text.Reading

/-!
# How ranges are written

The notation of addresses and ranges, said without a reader. Main statement: a text is read as what the
notation makes of it, be it a range or an error, and the text of a range is read as that range.
-/

namespace FlowTraffic

theorem Text.mapM_eq_some_iff {α β : Type} {f : α → Option β} {as : List α} {bs : List β} :
    as.mapM f = some bs ↔ List.Forall₂ (fun a b => f a = some b) as bs := by
  induction as generalizing bs with
  | nil => cases bs <;> simp
  | cons a as ih =>
    rw [List.mapM_cons]
    cases bs <;> simp [Option.bind_eq_some_iff, ih]

/-! ## Addresses -/

namespace Ipv4

/-- One to three digits of a number up to 255, with no zero in front of other digits. -/
structure Octet (cs : List Char) (n : Nat) : Prop where
  spells : Text.Spells cs n
  short : cs.length ≤ 3
  lead : cs.head? = some '0' → cs.length = 1
  le : n ≤ 255

/-- Four octets with dots between them. -/
inductive Dotted : List Char → Ipv4 → Prop
  | octets {p q r s : List Char} {a b c d : Nat} (first : Octet p a) (second : Octet q b)
      (third : Octet r c) (fourth : Octet s d) :
      Dotted (['.'].intercalate [p, q, r, s]) (ofOctets a b c d)

theorem octet?_eq_some_iff {cs : List Char} {n : Nat} : octet? cs = some n ↔ Octet cs n := by
  unfold octet?
  split
  · rename_i shape
    simp only [Bool.and_eq_true, Bool.or_eq_true, decide_eq_true_eq, bne_iff_ne, beq_iff_eq] at shape
    obtain ⟨short, lead⟩ := shape
    rw [Text.number?_eq_some_iff]
    constructor
    · rintro ⟨spells, le⟩
      exact ⟨spells, short, lead.neg_resolve_left, le⟩
    · intro octet
      exact ⟨octet.spells, octet.le⟩
  · rename_i shape
    refine iff_of_false nofun fun octet => shape ?_
    simp only [Bool.and_eq_true, Bool.or_eq_true, decide_eq_true_eq, bne_iff_ne, beq_iff_eq]
    exact ⟨octet.short, Decidable.not_or_of_imp octet.lead⟩

theorem Octet.dot_not_mem {cs : List Char} {n : Nat} (h : Octet cs n) : '.' ∉ cs := by
  intro dot
  cases h.spells.digits '.' dot

theorem ofChars?_eq_some_iff {cs : List Char} {x : Ipv4} : ofChars? cs = some x ↔ Dotted cs x := by
  unfold ofChars?
  rw [Option.bind_eq_bind, Option.bind_eq_some_iff]
  simp only [Text.mapM_eq_some_iff, octet?_eq_some_iff]
  constructor
  · rintro ⟨ns, octets, h⟩
    have whole : ['.'].intercalate (cs.splitOn '.') = cs := List.intercalate_splitOn '.'
    generalize cs.splitOn '.' = parts at octets whole
    split at h
    · rename_i a b c d
      cases h
      rcases octets with _ | ⟨first, _ | ⟨second, _ | ⟨third, _ | ⟨fourth, _ | _⟩⟩⟩⟩
      rw [← whole]
      exact .octets first second third fourth
    · cases h
  · rintro ⟨first, second, third, fourth⟩
    rename_i p q r s a b c d
    have parts : (['.'].intercalate [p, q, r, s]).splitOn '.' = [p, q, r, s] := by
      apply List.splitOn_intercalate
      · simp [first.dot_not_mem, second.dot_not_mem, third.dot_not_mem, fourth.dot_not_mem]
      · simp
    rw [parts]
    exact ⟨[a, b, c, d], .cons first (.cons second (.cons third (.cons fourth .nil))), rfl⟩

theorem Dotted.mem {cs : List Char} {x : Ipv4} (h : Dotted cs x) :
    ∀ c ∈ cs, c = '.' ∨ c.isDigit = true := by
  rcases h with ⟨first, second, third, fourth⟩
  intro c hc
  have digit {cs : List Char} {n : Nat} (octet : Octet cs n) (mem : c ∈ cs) :
      c = '.' ∨ c.isDigit = true := .inr (octet.spells.digits c mem)
  simp [List.intercalate] at hc
  rcases hc with hc | rfl | hc | rfl | hc | rfl | hc
  · exact digit first hc
  · exact .inl rfl
  · exact digit second hc
  · exact .inl rfl
  · exact digit third hc
  · exact .inl rfl
  · exact digit fourth hc

theorem octet_toDigits {n : Nat} (h : n ≤ 255) : Octet (Nat.toDigits 10 n) n where
  spells := Text.spells_toDigits n
  short := (Nat.length_toDigits_le_iff (by decide) (by decide)).2 (by omega)
  lead := by
    intro zero
    rcases Nat.eq_zero_or_pos n with rfl | positive
    · rfl
    · exact absurd zero (Text.head_toDigits positive)
  le := h

theorem ofOctets_octets (x : Ipv4) :
    ofOctets (x.toNat / 16777216) (x.toNat / 65536 % 256) (x.toNat / 256 % 256) (x.toNat % 256) = x := by
  have small : x.toNat < 4294967296 := x.bits.toNat_lt
  apply toNat_inj.1
  unfold ofOctets
  show (UInt32.ofNat _).toNat = x.toNat
  rw [UInt32.toNat_ofNat_of_lt']
  · omega
  · show _ < 4294967296
    omega

theorem dotted_text (x : Ipv4) : Dotted x.text.toList x := by
  have small : x.toNat < 4294967296 := x.bits.toNat_lt
  have octets := Dotted.octets (octet_toDigits (n := x.toNat / 16777216) (by omega))
    (octet_toDigits (n := x.toNat / 65536 % 256) (by omega))
    (octet_toDigits (n := x.toNat / 256 % 256) (by omega))
    (octet_toDigits (n := x.toNat % 256) (by omega))
  rw [ofOctets_octets] at octets
  unfold text Ipv4.octets
  simpa using octets

end Ipv4

/-! ## Ranges -/

namespace Cidr

/-- What a text is read as, once the blanks around it are off: nothing without a slash, and else an address
before the first slash and a number after it. An error shows what is wrong, the number as it is written if
not even a byte holds it. -/
inductive Reads (s : String) : Except CidrError Cidr → Prop
  | form {t : List Char} (trimmed : Text.Trimmed s.toList t) (slash : '/' ∉ t) :
      Reads s (.error (.form s))
  | address {a l : List Char} (trimmed : Text.Trimmed s.toList (a ++ '/' :: l)) (first : '/' ∉ a)
      (bad : ∀ x, ¬ Ipv4.Dotted a x) : Reads s (.error (.address (String.ofList a)))
  | number {a l : List Char} {x : Ipv4} (trimmed : Text.Trimmed s.toList (a ++ '/' :: l))
      (first : '/' ∉ a) (address : Ipv4.Dotted a x) (bad : ∀ n, Text.Unsigned l n → 255 < n) :
      Reads s (.error (.bits (String.ofList l)))
  | beyond {a l : List Char} {x : Ipv4} {n : Nat} (trimmed : Text.Trimmed s.toList (a ++ '/' :: l))
      (first : '/' ∉ a) (address : Ipv4.Dotted a x) (bits : Text.Unsigned l n) (large : 32 < n)
      (byte : n ≤ 255) : Reads s (.error (.bits (toString n)))
  | range {a l : List Char} {x : Ipv4} {c : Cidr} (trimmed : Text.Trimmed s.toList (a ++ '/' :: l))
      (first : '/' ∉ a) (address : Ipv4.Dotted a x) (bits : Text.Unsigned l c.bits)
      (network : c.network.bits = x.bits &&& mask c.bits) : Reads s (.ok c)

theorem parse_of_split {s : String} {a l : List Char} (trimmed : Text.Trimmed s.toList (a ++ '/' :: l))
    (first : '/' ∉ a) :
    parse s = (do
      let x ← (Ipv4.ofChars? a).elim (.error (.address (String.ofList a))) .ok
      let n ← (Text.unsigned? 255 l).elim (.error (.bits (String.ofList l))) .ok
      new x n) := by
  unfold parse
  rw [Text.trim_of_trimmed trimmed, Text.splitFirst?_append first]
  rfl

theorem ext {c d : Cidr} (first : c.network = d.network) (width : c.bits = d.bits) : c = d := by
  obtain ⟨m, k, _, _⟩ := c
  obtain ⟨n, l, _, _⟩ := d
  cases first
  cases width
  rfl

theorem ofAddr_eq {x : Ipv4} {c : Cidr} (network : c.network.bits = x.bits &&& mask c.bits) :
    ofAddr x c.bits c.bits_le = c := by
  apply ext
  · rw [← Ipv4.toNat_inj]
    exact congrArg UInt32.toNat ((network_ofAddr x c.bits_le).trans network.symm)
  · rfl

theorem parse_of_reads {s : String} {r : Except CidrError Cidr} (h : Reads s r) : parse s = r := by
  cases h with
  | form trimmed slash =>
    unfold parse
    rw [Text.trim_of_trimmed trimmed, Text.splitFirst?_of_not_mem slash]
    rfl
  | @address a l trimmed first bad =>
    have none : Ipv4.ofChars? a = none := by
      apply Option.eq_none_iff_forall_ne_some.2
      intro x hx
      exact bad x (Ipv4.ofChars?_eq_some_iff.1 hx)
    rw [parse_of_split trimmed first, none]
    rfl
  | @number a l x trimmed first address bad =>
    have none : Text.unsigned? 255 l = none := by
      apply Option.eq_none_iff_forall_ne_some.2
      intro n hn
      obtain ⟨bits, byte⟩ := Text.unsigned?_eq_some_iff.1 hn
      exact Nat.not_lt.2 byte (bad n bits)
    rw [parse_of_split trimmed first, Ipv4.ofChars?_eq_some_iff.2 address, none]
    rfl
  | beyond trimmed first address bits large byte =>
    rw [parse_of_split trimmed first, Ipv4.ofChars?_eq_some_iff.2 address,
      Text.unsigned?_eq_some_iff.2 ⟨bits, byte⟩]
    exact dif_neg (Nat.not_le.2 large)
  | @range a l x c trimmed first address bits network =>
    have byte : c.bits ≤ 255 := Nat.le_trans c.bits_le (by decide)
    rw [parse_of_split trimmed first, Ipv4.ofChars?_eq_some_iff.2 address,
      Text.unsigned?_eq_some_iff.2 ⟨bits, byte⟩]
    show new x c.bits = .ok c
    rw [new, dif_pos c.bits_le, ofAddr_eq network]

theorem exists_reads (s : String) : ∃ r, Reads s r := by
  have trimmed := Text.trimmed_trim s.toList
  by_cases slash : '/' ∈ Text.trim s.toList
  · obtain ⟨a, l, split, first⟩ := List.eq_append_cons_of_mem slash
    rw [split] at trimmed
    by_cases address : ∃ x, Ipv4.Dotted a x
    · obtain ⟨x, address⟩ := address
      by_cases bits : ∃ n, Text.Unsigned l n ∧ n ≤ 255
      · obtain ⟨n, bits, byte⟩ := bits
        rcases Nat.lt_or_ge 32 n with large | few
        · exact ⟨_, .beyond trimmed first address bits large byte⟩
        · exact ⟨.ok (ofAddr x n few), .range trimmed first address bits (network_ofAddr x few)⟩
      · refine ⟨_, .number trimmed first address fun n signed => ?_⟩
        exact Nat.not_le.1 fun byte => bits ⟨n, signed, byte⟩
    · exact ⟨_, .address trimmed first fun x dotted => address ⟨x, dotted⟩⟩
  · exact ⟨_, .form trimmed slash⟩

theorem parse_eq_iff {s : String} {r : Except CidrError Cidr} : parse s = r ↔ Reads s r := by
  constructor
  · rintro rfl
    obtain ⟨r, reads⟩ := exists_reads s
    rw [parse_of_reads reads]
    exact reads
  · exact parse_of_reads

theorem toList_text (c : Cidr) :
    c.text.toList = c.network.text.toList ++ '/' :: Nat.toDigits 10 c.bits := by
  show (c.network.text ++ "/" ++ c.bits.repr).toList = _
  simp

theorem not_isBlank_of_mem_text (c : Cidr) : ∀ d ∈ c.text.toList, Text.isBlank d = false := by
  intro d hd
  rw [toList_text, List.mem_append, List.mem_cons] at hd
  rcases hd with hd | rfl | hd
  · rcases (Ipv4.dotted_text c.network).mem d hd with rfl | digit
    · decide
    · exact Text.isBlank_of_isDigit digit
  · decide
  · exact Text.isBlank_of_isDigit ((Text.spells_toDigits c.bits).digits d hd)

theorem reads_text (c : Cidr) : Reads c.text (.ok c) := by
  have address := Ipv4.dotted_text c.network
  have first : '/' ∉ c.network.text.toList := by
    intro mem
    have other := address.mem '/' mem
    revert other
    decide
  have trimmed : Text.Trimmed c.text.toList
      (c.network.text.toList ++ '/' :: Nat.toDigits 10 c.bits) := by
    rw [← toList_text]
    exact Text.trimmed_self c.not_isBlank_of_mem_text
  have own : c.contains c.network = true :=
    (c.contains_iff c.network).2 ⟨Nat.le_refl _, Nat.lt_add_of_pos_right c.size_pos⟩
  have network := (c.contains_iff_mask c.network).1 own
  exact .range trimmed first address (.inl (Text.spells_toDigits c.bits)) network.symm

/-- **A text is read as what the notation makes of it.** The text of a range is read as that range. -/
theorem parse_exact :
    (∀ s r, parse s = r ↔ Reads s r) ∧ ∀ c : Cidr, parse c.text = .ok c := by
  constructor
  · intro s r
    exact parse_eq_iff
  · intro c
    exact parse_of_reads c.reads_text

/-- Zeros may stand before the width of a range, but not before a number of its address. -/
example : (parse " 10.1.2.3/+008 ").toOption.map text = some "10.0.0.0/8" ∧
    parse " 10.01.2.3/8 " = .error (.address "10.01.2.3") := by
  exact ⟨rfl, rfl⟩

end Cidr

end FlowTraffic
