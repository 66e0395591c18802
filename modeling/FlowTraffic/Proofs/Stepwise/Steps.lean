import FlowTraffic.Bytes.Fault
import FlowTraffic.Proofs.Bytes.Words

/-!
# Steps that can go wrong

Here every step is partial: a number is read only where its bytes are, bytes are split only before their
end, nothing is divided by zero or made smaller than zero, and a loop goes on only if it took enough. What
breaks a rule is a hazard, which no caller can handle. A step that has its bytes does what the total
reader does (`Reads`), and the bytes that two steps need add up.
-/

namespace FlowTraffic

/-- What a step must not do. -/
inductive Hazard
  | readPastEnd
  | splitPastEnd
  | divisionByZero
  | underflow
  /-- A record is read where fewer bytes remain than its schema says. -/
  | recordPastEnd
  /-- A loop goes on without having taken enough. -/
  | stalled
  deriving DecidableEq, Repr

/-- Work on the bytes that remain. It may refuse them, and it may run into a hazard. -/
abbrev Steps (ε : Type) := StateT Bytes (ExceptT ε (Except Hazard))

namespace Steps

variable {ε α β : Type}

def hazard (h : Hazard) : Steps ε α := fun _ => .error h

def remaining : Steps ε Nat := fun b => .ok (.ok (b.length, b))

/-- Refuses bytes that are fewer than a part needs. -/
def ensure (refusal : Shortage → ε) (part : Part) (needed : Nat) : Steps ε Unit := do
  let left ← remaining
  if left < needed then throw (refusal ⟨part, needed, left⟩)

/-- Refuses as `ensure` does, with the shortage itself. -/
abbrev demand (part : Part) (needed : Nat) : Steps Shortage Unit := ensure (fun s => s) part needed

def number (w : Nat) : Steps ε Nat := fun b =>
  if b.length < w then .error .readPastEnd else .ok (.ok (Bytes.number w b))

def word8 : Steps ε UInt8 := do return UInt8.ofNat (← number 1)

def word16 : Steps ε UInt16 := do return UInt16.ofNat (← number 2)

def word32 : Steps ε UInt32 := do return UInt32.ofNat (← number 4)

/-- Takes the first bytes off those that remain. -/
def splitAt (n : Nat) : Steps ε Bytes := fun b =>
  if b.length < n then .error .splitPastEnd else .ok (.ok (b.take n, b.drop n))

def divide (m n : Nat) : Steps ε Nat := if n = 0 then hazard .divisionByZero else return m / n

def subtract (m n : Nat) : Steps ε Nat := if m < n then hazard .underflow else return m - n

/-- Does a step that has to take at least so many bytes. -/
def taking (n : Nat) (x : Steps ε α) : Steps ε α := do
  let before ← remaining
  let a ← x
  let after ← remaining
  if before < after + n then hazard .stalled else return a

/-- What the work makes of these bytes, whatever is left of them. -/
def alone (x : Steps ε α) (body : Bytes) : Except Hazard (Except ε α) :=
  match x body with
  | .error h => .error h
  | .ok (.error e) => .ok (.error e)
  | .ok (.ok (a, _)) => .ok (.ok a)

/-- Does work on bytes of their own. -/
def within (body : Bytes) (x : Bytes → Except Hazard (Except ε α)) : Steps ε α := fun b =>
  match x body with
  | .error h => .error h
  | .ok (.error e) => .ok (.error e)
  | .ok (.ok a) => .ok (.ok (a, b))

/-- A result that was found without reading. -/
def result : Except ε α → Steps ε α
  | .ok a => return a
  | .error e => throw e

/-! ## One step after the other -/

section

variable {x : Steps ε α} {k : α → Steps ε β} {b b' : Bytes}

theorem bind_of_ok {a : α} (h : x b = .ok (.ok (a, b'))) : (x >>= k) b = k a b' := by
  simp only [bind, StateT.bind, ExceptT.bind, ExceptT.mk, h]
  rfl

theorem bind_of_refused {e : ε} (h : x b = .ok (.error e)) : (x >>= k) b = .ok (.error e) := by
  simp only [bind, StateT.bind, ExceptT.bind, ExceptT.mk, h]
  rfl

theorem bind_of_found {found : Except ε (α × Bytes)} {k' : α → Bytes → Except ε (β × Bytes)}
    (h : x b = .ok found) (later : ∀ a rest, found = .ok (a, rest) → k a rest = .ok (k' a rest)) :
    (x >>= k) b = .ok (found >>= fun p => k' p.1 p.2) := by
  cases found with
  | error e => exact bind_of_refused h
  | ok p => exact (bind_of_ok h).trans (later p.1 p.2 rfl)

theorem pure_apply (a : α) (b : Bytes) : (pure a : Steps ε α) b = .ok (.ok (a, b)) := rfl

theorem throw_apply (e : ε) (b : Bytes) : (throw e : Steps ε α) b = .ok (.error e) := rfl

theorem ensure_of_le {needed : Nat} (refusal : Shortage → ε) (part : Part) (h : needed ≤ b.length) :
    ensure refusal part needed b = .ok (.ok ((), b)) := by
  unfold ensure
  rw [bind_of_ok rfl, if_neg (Nat.not_lt.2 h), pure_apply]

theorem ensure_of_lt {needed : Nat} (refusal : Shortage → ε) (part : Part) (h : b.length < needed) :
    ensure refusal part needed b = .ok (.error (refusal ⟨part, needed, b.length⟩)) := by
  unfold ensure
  rw [bind_of_ok rfl, if_pos h, throw_apply]

theorem splitAt_of_le {n : Nat} (h : n ≤ b.length) :
    (splitAt n : Steps ε Bytes) b = .ok (.ok (b.take n, b.drop n)) := if_neg (Nat.not_lt.2 h)

theorem divide_of_pos {n : Nat} (h : 0 < n) (m : Nat) (b : Bytes) :
    (divide m n : Steps ε Nat) b = .ok (.ok (m / n, b)) := by
  unfold divide
  rw [if_neg (Nat.pos_iff_ne_zero.1 h), pure_apply]

theorem subtract_of_le {m n : Nat} (h : n ≤ m) (b : Bytes) :
    (subtract m n : Steps ε Nat) b = .ok (.ok (m - n, b)) := by
  unfold subtract
  rw [if_neg (Nat.not_lt.2 h), pure_apply]

theorem taking_of_ok {n : Nat} {a : α} (h : x b = .ok (.ok (a, b')))
    (enough : b'.length + n ≤ b.length) : taking n x b = .ok (.ok (a, b')) := by
  unfold taking
  rw [bind_of_ok rfl, bind_of_ok h, bind_of_ok rfl, if_neg (Nat.not_lt.2 enough), pure_apply]

theorem taking_of_refused {n : Nat} {e : ε} (h : x b = .ok (.error e)) :
    taking n x b = .ok (.error e) := by
  unfold taking
  rw [bind_of_ok rfl, bind_of_refused h]

theorem taking_of_found {n : Nat} {found : Except ε (α × Bytes)} (h : x b = .ok found)
    (enough : ∀ a rest, found = .ok (a, rest) → rest.length + n ≤ b.length) : taking n x b = .ok found := by
  cases found with
  | error e => exact taking_of_refused h
  | ok p => exact taking_of_ok h (enough p.1 p.2 rfl)

theorem alone_of_ok {a : α} (h : x b = .ok (.ok (a, b'))) : alone x b = .ok (.ok a) := by
  unfold alone
  rw [h]

theorem within_of_ok {body : Bytes} {y : Bytes → Except Hazard (Except ε α)} {found : Except ε α}
    (h : y body = .ok found) (b : Bytes) : within body y b = .ok (found.map (·, b)) := by
  unfold within
  rw [h]
  cases found <;> rfl

theorem result_apply (found : Except ε α) (b : Bytes) :
    result found b = .ok (found.map (·, b)) := by
  cases found <;> rfl

theorem length_le_of_taking {n : Nat} {a : α} (h : taking n x b = .ok (.ok (a, b'))) :
    b'.length + n ≤ b.length := by
  unfold taking at h
  rw [bind_of_ok rfl] at h
  match hx : x b with
  | .error hz =>
    simp only [bind, StateT.bind, ExceptT.bind, ExceptT.mk, hx] at h
    cases h
  | .ok (.error e) =>
    rw [bind_of_refused hx] at h
    cases h
  | .ok (.ok (a', rest)) =>
    rw [bind_of_ok hx, bind_of_ok rfl] at h
    split at h
    · cases h
    · rename_i enough
      cases h
      exact Nat.not_lt.1 enough

end

/-! ## Steps that have their bytes -/

/-- With so many bytes or more the step reads what the reader does, and takes exactly so many. -/
structure Reads (n : Nat) (x : Steps ε α) (d : Bytes.Reader α) : Prop where
  same : ∀ b : Bytes, n ≤ b.length → x b = .ok (.ok (d b))
  taken : ∀ b : Bytes, n ≤ b.length → (d b).2.length + n = b.length

namespace Reads

variable {m n : Nat}

theorem pure (a : α) : Reads 0 (Pure.pure a : Steps ε α) (Pure.pure a) := ⟨fun _ _ => rfl, fun _ _ => rfl⟩

theorem bind {x : Steps ε α} {d : Bytes.Reader α} {k : α → Steps ε β} {k' : α → Bytes.Reader β}
    (first : Reads n x d) (rest : ∀ a, Reads m (k a) (k' a)) : Reads (m + n) (x >>= k) (d >>= k') where
  same b enough := by
    have left := first.taken b (by omega)
    rw [bind_of_ok (first.same b (by omega)), Bytes.reader_bind]
    exact (rest _).same _ (by omega)
  taken b enough := by
    have left := first.taken b (by omega)
    have left' := (rest (d b).1).taken (d b).2 (by omega)
    rw [Bytes.reader_bind]
    omega

theorem map {x : Steps ε α} {d : Bytes.Reader α} (reads : Reads n x d) (f : α → β) :
    Reads n (x >>= fun a => Pure.pure (f a)) (d >>= fun a => Pure.pure (f a)) := by
  rw [← Nat.zero_add n]
  exact reads.bind fun a => pure (f a)

theorem number (w : Nat) : Reads w (Steps.number w : Steps ε Nat) (Bytes.number w) where
  same _ enough := if_neg (Nat.not_lt.2 enough)
  taken b enough := by
    show (b.drop w).length + w = b.length
    rw [List.length_drop]
    omega

theorem word8 : Reads 1 (Steps.word8 : Steps ε UInt8) Bytes.word8 := (number 1).map _

theorem word16 : Reads 2 (Steps.word16 : Steps ε UInt16) Bytes.word16 := (number 2).map _

theorem word32 : Reads 4 (Steps.word32 : Steps ε UInt32) Bytes.word32 := (number 4).map _

/-- A length check in front makes a reader safe on any bytes. -/
theorem ensured {x : Steps ε α} {d : Bytes.Reader α} (reads : Reads n x d) (refusal : Shortage → ε)
    (part : Part) (b : Bytes) :
    (ensure refusal part n >>= fun _ => x) b =
      .ok (if b.length < n then .error (refusal ⟨part, n, b.length⟩) else .ok (d b)) := by
  split
  · rename_i short
    rw [bind_of_refused (ensure_of_lt refusal part short)]
  · rename_i enough
    rw [bind_of_ok (ensure_of_le refusal part (Nat.not_lt.1 enough))]
    exact reads.same b (Nat.not_lt.1 enough)

end Reads

theorem word16_append (w : UInt16) (rest : Bytes) :
    (word16 : Steps ε UInt16) (Bytes.ofWord16 w ++ rest) = .ok (.ok (w, rest)) := by
  rw [Reads.word16.same _ (by simp), Bytes.word16_append]

end Steps

end FlowTraffic
