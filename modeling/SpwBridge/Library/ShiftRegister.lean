import Mathlib.Data.BitVec
import Mathlib.Logic.Function.Iterate

namespace shift_register

/-- A linear register of `w` bits that a message is shifted through. Clocking it
keeps exclusive or and loses nothing, and moves each place to the one before it,
so that `w` message bits fill it without meeting. -/
structure Register (w : Nat) where
  clock : BitVec w → BitVec w
  /-- The bit of the register that is `i` clocks away from the entry. -/
  position : Nat → Nat
  clock_xor : ∀ r s, clock (r ^^^ s) = clock r ^^^ clock s
  eq_zero_of_clock : ∀ r, clock r = 0#w → r = 0#w
  clock_place : ∀ i, i + 1 < w →
    clock (BitVec.twoPow w (position (i + 1))) = BitVec.twoPow w (position i)
  position_lt : ∀ i, i < w → position i < w
  position_injective : ∀ i k, i < w → k < w → position i = position k → i = k

namespace Register

variable {w : Nat} (reg : Register w)

/-- The bit `bit` at the place `i` clocks away from the entry. -/
def place (i : Nat) (bit : Bool) : BitVec w :=
  if bit then BitVec.twoPow w (reg.position i) else 0#w

/-- One message bit: it is added at the entry and the register is clocked. -/
def feed (r : BitVec w) (bit : Bool) : BitVec w := reg.clock (r ^^^ reg.place 0 bit)

/-- The register after a whole message, from the value `r`. -/
def run (r : BitVec w) (bits : List Bool) : BitVec w := bits.foldl reg.feed r

/-- Up to `w` message bits side by side, the first one `i` clocks away. -/
def load : Nat → List Bool → BitVec w
  | _, [] => 0#w
  | i, bit :: bits => reg.place i bit ^^^ load (i + 1) bits

@[simp] theorem place_false (i : Nat) : reg.place i false = 0#w := rfl

@[simp] theorem run_nil (r : BitVec w) : reg.run r [] = r := rfl

@[simp] theorem run_cons (r : BitVec w) (bit : Bool) (bits : List Bool) :
    reg.run r (bit :: bits) = reg.run (reg.feed r bit) bits := rfl

theorem run_append (r : BitVec w) (first second : List Bool) :
    reg.run r (first ++ second) = reg.run (reg.run r first) second := by
  simp [run]

@[simp] theorem clock_zero : reg.clock 0#w = 0#w := by
  have h := reg.clock_xor 0#w 0#w
  simpa using h

theorem place_xor (i : Nat) (a b : Bool) : reg.place i (a ^^ b) = reg.place i a ^^^ reg.place i b := by
  cases a <;> cases b <;> simp [place]

theorem feed_xor (r s : BitVec w) (a b : Bool) :
    reg.feed (r ^^^ s) (a ^^ b) = reg.feed r a ^^^ reg.feed s b := by
  rw [feed, place_xor, feed, feed, ← reg.clock_xor]
  congr 1
  ac_rfl

/-- The register is linear: two messages of one length added bit by bit run to
the sum of what they run to. -/
theorem run_xor (r s : BitVec w) {first second : List Bool} (hlen : first.length = second.length) :
    reg.run (r ^^^ s) (List.zipWith (· ^^ ·) first second) = reg.run r first ^^^ reg.run s second := by
  induction first generalizing r s second with
  | nil =>
    rw [List.length_nil, eq_comm, List.length_eq_zero_iff] at hlen
    subst hlen
    rfl
  | cons a first ih =>
    cases second with
    | nil => cases hlen
    | cons b second =>
      simp only [List.length_cons, Nat.add_right_cancel_iff] at hlen
      rw [List.zipWith_cons_cons, run_cons, feed_xor, ih _ _ hlen, run_cons, run_cons]

/-- Clocking any number of times keeps exclusive or. -/
theorem iterate_clock_xor (n : Nat) (r s : BitVec w) :
    reg.clock^[n] (r ^^^ s) = reg.clock^[n] r ^^^ reg.clock^[n] s := by
  induction n generalizing r s with
  | zero => rfl
  | succ n ih => simp only [Function.iterate_succ_apply, reg.clock_xor, ih]

theorem iterate_clock_ne_zero (n : Nat) {r : BitVec w} (hr : r ≠ 0#w) : reg.clock^[n] r ≠ 0#w := by
  induction n generalizing r with
  | zero => exact hr
  | succ n ih =>
    rw [Function.iterate_succ_apply]
    exact ih (fun h => hr (reg.eq_zero_of_clock r h))

/-- Zero bits only clock the register. -/
theorem run_zeros (r : BitVec w) (n : Nat) : reg.run r (List.replicate n false) = reg.clock^[n] r := by
  induction n generalizing r with
  | zero => rfl
  | succ n ih =>
    rw [List.replicate_succ, run_cons, ih, Function.iterate_succ_apply, feed, place_false, BitVec.xor_zero]

theorem iterate_clock_zero (n : Nat) : reg.clock^[n] 0#w = 0#w := by
  induction n with
  | zero => rfl
  | succ n ih => rw [Function.iterate_succ_apply, clock_zero, ih]

theorem run_zero_zeros (n : Nat) : reg.run 0#w (List.replicate n false) = 0#w := by
  rw [run_zeros, iterate_clock_zero]

theorem clock_load (i : Nat) (bits : List Bool) (hroom : i + 1 + bits.length ≤ w) :
    reg.clock (reg.load (i + 1) bits) = reg.load i bits := by
  induction bits generalizing i with
  | nil => exact reg.clock_zero
  | cons bit bits ih =>
    simp only [List.length_cons] at hroom
    have hplace : reg.clock (reg.place (i + 1) bit) = reg.place i bit := by
      cases bit with
      | false => exact reg.clock_zero
      | true => exact reg.clock_place i (by omega)
    rw [load, reg.clock_xor, hplace, ih (i + 1) (by omega), load]

theorem load_append (i : Nat) (first second : List Bool) :
    reg.load i (first ++ second) = reg.load i first ^^^ reg.load (i + first.length) second := by
  induction first generalizing i with
  | nil => simp [load]
  | cons bit first ih =>
    rw [List.cons_append, load, ih, load, List.length_cons, BitVec.xor_assoc, Nat.add_assoc,
      Nat.add_comm 1]

/-- Shifting in up to `w` bits is adding them all at once and clocking as often. -/
theorem run_eq_load (r : BitVec w) (bits : List Bool) (hroom : bits.length ≤ w) :
    reg.run r bits = reg.clock^[bits.length] (r ^^^ reg.load 0 bits) := by
  induction bits generalizing r with
  | nil => simp [load]
  | cons bit bits ih =>
    simp only [List.length_cons] at hroom
    rw [run_cons, ih _ (by omega), List.length_cons, Function.iterate_succ_apply]
    congr 1
    rw [feed, ← reg.clock_load 0 bits (by omega), ← reg.clock_xor, load, BitVec.xor_assoc]

theorem getLsbD_place (i k : Nat) (bit : Bool) (hi : i < w) (hk : k < w) :
    (reg.place i bit).getLsbD (reg.position k) = (decide (i = k) && bit) := by
  have hinj := reg.position_injective i k hi hk
  have hlt := reg.position_lt k hk
  cases bit with
  | false => simp
  | true =>
    by_cases h : i = k
    · subst h
      simp [place, hlt]
    · have hne : reg.position i ≠ reg.position k := fun he => h (hinj he)
      simp [place, BitVec.getLsbD_twoPow, h, hne]

theorem getLsbD_load_before (i k : Nat) (bits : List Bool) (hk : k < i) (hroom : i + bits.length ≤ w) :
    (reg.load i bits).getLsbD (reg.position k) = false := by
  induction bits generalizing i with
  | nil => simp [load]
  | cons bit bits ih =>
    simp only [List.length_cons] at hroom
    have hne : i ≠ k := by omega
    rw [load, BitVec.getLsbD_xor, ih (i + 1) (by omega) (by omega),
      reg.getLsbD_place i k bit (by omega) (by omega)]
    simp [hne]

/-- The bits of a message do not cancel each other in the register. -/
theorem not_mem_of_load_eq_zero (i : Nat) (bits : List Bool) (hroom : i + bits.length ≤ w)
    (hzero : reg.load i bits = 0#w) : true ∉ bits := by
  induction bits generalizing i with
  | nil => simp
  | cons bit bits ih =>
    simp only [List.length_cons] at hroom
    have hbit : bit = false := by
      have h := congrArg (fun r : BitVec w => r.getLsbD (reg.position i)) hzero
      rw [load] at h
      simp only [BitVec.getLsbD_xor, BitVec.getLsbD_zero,
        reg.getLsbD_load_before (i + 1) i bits (by omega) (by omega),
        reg.getLsbD_place i i bit (by omega) (by omega)] at h
      simpa using h
    subst hbit
    rw [load, place_false, BitVec.zero_xor] at hzero
    simpa using ih (i + 1) (by omega) hzero

end Register

/-- An error burst: at least one bit is set, and all set bits lie within `w`
consecutive positions. -/
def Burst (w : Nat) (bits : List Bool) : Prop :=
  true ∈ bits ∧ ∃ first, ∀ i, bits[i]? = some true → first ≤ i ∧ i < first + w

theorem burst_of_length {w first : Nat} {bits : List Bool} (hmem : true ∈ bits)
    (hwithin : ∀ i < bits.length, bits[i]? = some true → first ≤ i ∧ i < first + w) : Burst w bits := by
  refine ⟨hmem, first, ?_⟩
  intro i hi
  exact hwithin i (List.getElem?_eq_some_iff.mp hi).1 hi

theorem eq_replicate_of_not_mem {bits : List Bool} (h : true ∉ bits) :
    bits = List.replicate bits.length false := by
  rw [List.eq_replicate_iff]
  refine ⟨rfl, ?_⟩
  intro bit hbit
  cases bit with
  | false => rfl
  | true => exact absurd hbit h

/-- A burst is zeros, a window of at most `w` bits with one set, and zeros. -/
theorem Burst.split {w : Nat} {bits : List Bool} (h : Burst w bits) :
    ∃ before window after, bits = List.replicate before false ++ window ++ List.replicate after false ∧
      window.length ≤ w ∧ true ∈ window := by
  obtain ⟨hmem, first, hwithin⟩ := h
  have hbefore : true ∉ bits.take first := by
    intro hin
    obtain ⟨i, hi, hget⟩ := List.mem_iff_getElem.mp hin
    rw [List.length_take] at hi
    rw [List.getElem_take] at hget
    have hfirst := (hwithin i (by rw [List.getElem?_eq_getElem (by omega), hget])).1
    omega
  have hafter : true ∉ bits.drop (first + w) := by
    intro hin
    obtain ⟨i, hi, hget⟩ := List.mem_iff_getElem.mp hin
    rw [List.length_drop] at hi
    rw [List.getElem_drop] at hget
    have hlast := (hwithin (first + w + i) (by rw [List.getElem?_eq_getElem (by omega), hget])).2
    omega
  have hsplit : bits = bits.take first ++ (bits.drop first).take w ++ bits.drop (first + w) := by
    rw [List.append_assoc, ← List.drop_drop, List.take_append_drop, List.take_append_drop]
  refine ⟨(bits.take first).length, (bits.drop first).take w, (bits.drop (first + w)).length, ?_, ?_, ?_⟩
  · rw [← eq_replicate_of_not_mem hbefore, ← eq_replicate_of_not_mem hafter]
    exact hsplit
  · rw [List.length_take]
    omega
  · rw [hsplit, List.mem_append, List.mem_append] at hmem
    obtain (hmem | hmem) | hmem := hmem
    · exact absurd hmem hbefore
    · exact hmem
    · exact absurd hmem hafter

/-- A burst no longer than the register always leaves a trace in it. -/
theorem Register.run_burst {w : Nat} (reg : Register w) {bits : List Bool} (h : Burst w bits) :
    reg.run 0#w bits ≠ 0#w := by
  obtain ⟨before, window, after, rfl, hlen, hmem⟩ := h.split
  rw [run_append, run_append, run_zero_zeros, run_zeros, run_eq_load reg _ window hlen, BitVec.zero_xor]
  apply reg.iterate_clock_ne_zero
  apply reg.iterate_clock_ne_zero
  intro hzero
  exact reg.not_mem_of_load_eq_zero 0 window (by omega) hzero hmem

/-- What a burst does to a message that ran the register to zero: not zero. -/
theorem Register.run_corrupted {w : Nat} (reg : Register w) {r : BitVec w} {message error : List Bool}
    (hlen : message.length = error.length) (hclean : reg.run r message = 0#w) (hburst : Burst w error) :
    reg.run r (List.zipWith (· ^^ ·) message error) ≠ 0#w := by
  have hsum := reg.run_xor r 0#w hlen
  rw [BitVec.xor_zero, hclean, BitVec.zero_xor] at hsum
  rw [hsum]
  exact reg.run_burst hburst

/-- One clock of a register that sends its most significant bit out first and
feeds it back over the taps `poly`. -/
def clock_msb {w : Nat} (poly r : BitVec w) : BitVec w :=
  if r.msb then (r <<< 1) ^^^ poly else r <<< 1

/-- One clock of a register that sends its least significant bit out first. -/
def clock_lsb {w : Nat} (poly r : BitVec w) : BitVec w :=
  if r.getLsbD 0 then (r >>> 1) ^^^ poly else r >>> 1

/-- Adding the taps on either side, on both or on neither. -/
private theorem ite_xor_ite {w : Nat} (a b : Bool) (r s poly : BitVec w) :
    (if a ^^ b then (r ^^^ s) ^^^ poly else r ^^^ s) =
      (if a then r ^^^ poly else r) ^^^ (if b then s ^^^ poly else s) := by
  have hcancel : r ^^^ s = r ^^^ poly ^^^ (s ^^^ poly) := by
    rw [show r ^^^ poly ^^^ (s ^^^ poly) = r ^^^ s ^^^ (poly ^^^ poly) by ac_rfl, BitVec.xor_self,
      BitVec.xor_zero]
  cases a <;> cases b
  · rfl
  · exact BitVec.xor_assoc r s poly
  · change r ^^^ s ^^^ poly = r ^^^ poly ^^^ s
    ac_rfl
  · exact hcancel

theorem clock_msb_xor {w : Nat} (poly r s : BitVec w) :
    clock_msb poly (r ^^^ s) = clock_msb poly r ^^^ clock_msb poly s := by
  rw [clock_msb, BitVec.msb_xor, BitVec.shiftLeft_xor_distrib, ite_xor_ite]
  rfl

theorem clock_lsb_xor {w : Nat} (poly r s : BitVec w) :
    clock_lsb poly (r ^^^ s) = clock_lsb poly r ^^^ clock_lsb poly s := by
  rw [clock_lsb, BitVec.getLsbD_xor, BitVec.ushiftRight_xor_distrib, ite_xor_ite]
  rfl

/-- The constant term of the polynomial keeps a bit that leaves from being lost. -/
theorem eq_zero_of_clock_msb {w : Nat} {poly r : BitVec w} (hpoly : poly.getLsbD 0 = true)
    (h : clock_msb poly r = 0#w) : r = 0#w := by
  unfold clock_msb at h
  split at h
  case isTrue hmsb =>
    have hlow := congrArg (fun x : BitVec w => x.getLsbD 0) h
    simp [hpoly] at hlow
  case isFalse hmsb =>
    apply BitVec.eq_of_getLsbD_eq
    intro i hi
    have hbit := congrArg (fun x : BitVec w => x.getLsbD (i + 1)) h
    by_cases hlast : i + 1 < w
    · simpa [hlast, BitVec.getLsbD_eq_getElem hi] using hbit
    · have htop : i = w - 1 := by omega
      rw [BitVec.msb_eq_getLsbD_last, ← htop] at hmsb
      simpa using hmsb

theorem eq_zero_of_clock_lsb {w : Nat} {poly r : BitVec w} (hpoly : poly.msb = true)
    (h : clock_lsb poly r = 0#w) : r = 0#w := by
  unfold clock_lsb at h
  split at h
  case isTrue hlow =>
    have hmsb := congrArg (fun x : BitVec w => x.msb) h
    simp [hpoly] at hmsb
  case isFalse hlow =>
    apply BitVec.eq_of_getLsbD_eq
    intro i hi
    cases i with
    | zero => simpa using hlow
    | succ i =>
      have hbit := congrArg (fun x : BitVec w => x.getLsbD i) h
      simpa [Nat.add_comm] using hbit

theorem clock_msb_twoPow {w : Nat} (poly : BitVec w) {i : Nat} (hi : i + 1 < w) :
    clock_msb poly (BitVec.twoPow w (w - 1 - (i + 1))) = BitVec.twoPow w (w - 1 - i) := by
  have hmsb : (BitVec.twoPow w (w - 1 - (i + 1))).msb = false := by
    rw [BitVec.msb_eq_getLsbD_last, BitVec.getLsbD_twoPow]
    have hne : w - 1 - (i + 1) ≠ w - 1 := by omega
    simp [hne]
  rw [clock_msb, hmsb, BitVec.twoPow_eq, BitVec.twoPow_eq, ← BitVec.shiftLeft_add]
  have hnext : w - 1 - (i + 1) + 1 = w - 1 - i := by omega
  rw [hnext]
  rfl

theorem clock_lsb_twoPow {w : Nat} (poly : BitVec w) {i : Nat} (hi : i + 1 < w) :
    clock_lsb poly (BitVec.twoPow w (i + 1)) = BitVec.twoPow w i := by
  have hlow : (BitVec.twoPow w (i + 1)).getLsbD 0 = false := by
    simp
  rw [clock_lsb, hlow]
  apply BitVec.eq_of_getLsbD_eq
  intro k hk
  have hsucc : (decide (i + 1 = 1 + k)) = decide (i = k) := by
    rw [decide_eq_decide]
    omega
  have hi' : i < w := by omega
  simp [BitVec.getLsbD_twoPow, hsucc, hi, hi']

/-- The register of a polynomial with a constant term, most significant bit
first. -/
def msbFirst {w : Nat} (poly : BitVec w) (hpoly : poly.getLsbD 0 = true) : Register w where
  clock := clock_msb poly
  position i := w - 1 - i
  clock_xor := clock_msb_xor poly
  eq_zero_of_clock _ := eq_zero_of_clock_msb hpoly
  clock_place _ := clock_msb_twoPow poly
  position_lt := by omega
  position_injective := by omega

/-- The register of a polynomial in reflected form, least significant bit first. -/
def lsbFirst {w : Nat} (poly : BitVec w) (hpoly : poly.msb = true) : Register w where
  clock := clock_lsb poly
  position i := i
  clock_xor := clock_lsb_xor poly
  eq_zero_of_clock _ := eq_zero_of_clock_lsb hpoly
  clock_place _ := clock_lsb_twoPow poly
  position_lt := by omega
  position_injective := by omega

/-- The bits of a byte in the order they are sent, most significant first. -/
def bits_msb (b : UInt8) : List Bool := (List.range 8).map fun i => b.toBitVec.getLsbD (7 - i)

/-- The bits of a byte in the order they are sent, least significant first. -/
def bits_lsb (b : UInt8) : List Bool := (List.range 8).map fun i => b.toBitVec.getLsbD i

@[simp] theorem length_bits_msb (b : UInt8) : (bits_msb b).length = 8 := by simp [bits_msb]

@[simp] theorem length_bits_lsb (b : UInt8) : (bits_lsb b).length = 8 := by simp [bits_lsb]

theorem bits_msb_xor (a b : UInt8) : bits_msb (a ^^^ b) = List.zipWith (· ^^ ·) (bits_msb a) (bits_msb b) := by
  simp [bits_msb, List.zipWith_map]

theorem bits_lsb_xor (a b : UInt8) : bits_lsb (a ^^^ b) = List.zipWith (· ^^ ·) (bits_lsb a) (bits_lsb b) := by
  simp [bits_lsb, List.zipWith_map]

section Bytes

variable {order : UInt8 → List Bool} (hlen : ∀ b, (order b).length = 8)

include hlen

theorem length_flatMap_order (bytes : List UInt8) : (bytes.flatMap order).length = 8 * bytes.length := by
  induction bytes with
  | nil => rfl
  | cons b bytes ih =>
    rw [List.flatMap_cons, List.length_append, hlen, ih, List.length_cons]
    omega

/-- Adding byte strings is adding the bits sent for them. -/
theorem flatMap_order_xor (hxor : ∀ a b, order (a ^^^ b) = List.zipWith (· ^^ ·) (order a) (order b))
    {first second : List UInt8} (heq : first.length = second.length) :
    (List.zipWith (· ^^^ ·) first second).flatMap order =
      List.zipWith (· ^^ ·) (first.flatMap order) (second.flatMap order) := by
  induction first generalizing second with
  | nil => rfl
  | cons a first ih =>
    cases second with
    | nil => cases heq
    | cons b second =>
      simp only [List.length_cons, Nat.add_right_cancel_iff] at heq
      rw [List.zipWith_cons_cons, List.flatMap_cons, List.flatMap_cons, List.flatMap_cons, hxor, ih heq,
        List.zipWith_append (by rw [hlen, hlen])]

end Bytes

end shift_register
