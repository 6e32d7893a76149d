import Mathlib.Algebra.Ring.Nat
import SpwBridge.Memory

namespace spw_bridge.ecss

/-- Undefined behaviour of the bit functions: an access outside an array, or a
shift by the width of its operand or more. -/
inductive Undef
  | access (fault : Fault)
  | shift (count : Nat)
  deriving DecidableEq, Repr

/-- An array access of a bit function. -/
def access {A : Type} (x : Except Fault A) : Except Undef A :=
  match x with
  | .ok a => .ok a
  | .error fault => .error (.access fault)

@[simp] theorem access_ok {A : Type} (a : A) : access (.ok a) = .ok a := rfl

@[simp] theorem undef_bind_ok {A B : Type} (a : A) (f : A → Except Undef B) :
    ((Except.ok a : Except Undef A) >>= f) = f a := rfl

def CHAR_BIT : Nat := 8

/-- A subtraction of two `size_t`. -/
def size_sub (a b : Nat) : Nat := (a + 2 ^ 64 - b) % 2 ^ 64

/-- `x >> count` on an `int`. -/
def int_shr (x count : Nat) : Except Undef Nat :=
  if count < 32 then .ok (x >>> count) else .error (.shift count)

/-- `x << count` on an `int`. -/
def int_shl (x count : Nat) : Except Undef Nat :=
  if count < 32 then .ok (x <<< count) else .error (.shift count)

/-- The first half of `putbits8`: the source bits as the low bits of `tmp`. -/
def putbits8_fetch (src : List UInt8) (s_off nbits : Nat) : Except Undef UInt8 := do
  let p := s_off >>> 3
  let bits := s_off &&& 0x7
  let stop := bits + nbits
  if stop ≤ 8 then do
    let b ← access (rd src p)
    let shifted ← int_shr b.toNat (size_sub (size_sub 8 nbits) bits)
    let mask ← int_shr 0xff (size_sub 8 nbits)
    .ok (UInt8.ofNat shifted &&& UInt8.ofNat mask)
  else do
    let nb := size_sub (nbits + bits) 8
    let first ← access (rd src p)
    let mask ← int_shr 0xff bits
    let high ← int_shl (first.toNat &&& mask) nb
    let second ← access (rd src (p + 1))
    let low ← int_shr second.toNat (size_sub 8 nb)
    let low_mask ← int_shr 0xff (size_sub 8 nb)
    .ok (UInt8.ofNat high ||| UInt8.ofNat (low &&& low_mask))

/-- The second half of `putbits8`: the bits of `tmp` into the destination. -/
def putbits8_store (dst : List UInt8) (d_off nbits : Nat) (tmp : UInt8) : Except Undef (List UInt8) := do
  let p := d_off >>> 3
  let bits := d_off &&& 0x7
  let stop := bits + nbits
  if stop ≤ 8 then do
    let b ← access (rd dst p)
    let field ← int_shr 0xff (size_sub 8 nbits)
    let mask ← int_shl field (size_sub 8 stop)
    let dst ← access (wr dst p (b &&& ~~~UInt8.ofNat mask))
    let b ← access (rd dst p)
    let moved ← int_shl tmp.toNat (size_sub 8 stop)
    access (wr dst p (b ||| UInt8.ofNat moved))
  else do
    let b ← access (rd dst p)
    let mask ← int_shr 0xff bits
    let dst ← access (wr dst p (b &&& ~~~UInt8.ofNat mask))
    let b ← access (rd dst p)
    let moved ← int_shr tmp.toNat bits
    let dst ← access (wr dst p (b ||| UInt8.ofNat moved))
    let b ← access (rd dst (p + 1))
    let field ← int_shr 0xff (size_sub nbits bits)
    let mask ← int_shl field (size_sub 8 bits)
    let dst ← access (wr dst (p + 1) (b &&& ~~~UInt8.ofNat mask))
    let b ← access (rd dst (p + 1))
    let moved ← int_shl tmp.toNat (size_sub 8 bits)
    access (wr dst (p + 1) (b ||| UInt8.ofNat moved))

def putbits8 (dst : List UInt8) (d_off : Nat) (src : List UInt8) (s_off nbits : Nat) :
    Except Undef (List UInt8) :=
  if nbits = 0 then .ok dst
  else do
    let tmp ← putbits8_fetch src s_off nbits
    putbits8_store dst d_off nbits tmp

/-- The loop `while (c)` of `bitcpy`, which copies up to eight bits a round. -/
def bitcpy_lead_in (dst : List UInt8) (d_off : Nat) (src : List UInt8) (s_off c : Nat) :
    Except Undef (List UInt8) :=
  if c = 0 then .ok dst
  else do
    let n := if c < CHAR_BIT then c else CHAR_BIT
    let dst ← putbits8 dst d_off src s_off n
    bitcpy_lead_in dst (d_off + n) src (s_off + n) (c - n)
termination_by c
decreasing_by
  by_cases h : c < 8
  · simp [CHAR_BIT, h]
    omega
  · simp [CHAR_BIT, h]
    omega

/-- The bits that `bitcpy` copies before its main block. -/
def bitcpy_lead_in_bits (d_off s_off nbits : Nat) : Nat :=
  if (d_off ||| s_off) &&& (CHAR_BIT - 1) = 0 then 0
  else if nbits < CHAR_BIT then nbits
  else if (d_off ^^^ s_off) &&& (CHAR_BIT - 1) ≠ 0 then nbits
  else CHAR_BIT - (d_off &&& (CHAR_BIT - 1))

def bitcpy (dst : Option (List UInt8)) (d_off : Nat) (src : Option (List UInt8)) (s_off nbits : Nat) :
    Except Undef (Int × Option (List UInt8)) :=
  match dst, src with
  | none, _ => .ok (-1, dst)
  | some _, none => .ok (-1, dst)
  | some d, some s =>
    if nbits = 0 then .ok (0, dst)
    else do
      let lead := bitcpy_lead_in_bits d_off s_off nbits
      let d ← bitcpy_lead_in d d_off s s_off lead
      let d_off := d_off + lead
      let s_off := s_off + lead
      let nbits := nbits - lead
      let c := nbits / CHAR_BIT
      let b := c * CHAR_BIT
      let d ← access (copy_loop d (d_off / CHAR_BIT) s (s_off / CHAR_BIT) c)
      let d ← putbits8 d (d_off + b) s (s_off + b) (nbits - b)
      .ok (0, some d)

/-- Whole octets between octet borders are one `memcpy`. -/
theorem bitcpy_octets (d s : List UInt8) (dbyte sbyte n : Nat) :
    bitcpy (some d) (dbyte * 8) (some s) (sbyte * 8) (n * 8) =
      (access (copy_loop d dbyte s sbyte n) >>= fun copied => .ok (0, some copied)) := by
  by_cases hn : n = 0
  · subst hn
    rfl
  have haligned : (dbyte * 8 ||| sbyte * 8) &&& (CHAR_BIT - 1) = 0 := by
    have hor : (dbyte * 8 ||| sbyte * 8) = (dbyte ||| sbyte) * 8 := by
      have h : (dbyte ||| sbyte) <<< 3 = dbyte <<< 3 ||| sbyte <<< 3 := Nat.shiftLeft_or_distrib
      rw [Nat.shiftLeft_eq, Nat.shiftLeft_eq, Nat.shiftLeft_eq] at h
      exact h.symm
    rw [hor]
    change (dbyte ||| sbyte) * 8 &&& (2 ^ 3 - 1) = 0
    rw [Nat.and_two_pow_sub_one_eq_mod]
    omega
  have hlead : bitcpy_lead_in_bits (dbyte * 8) (sbyte * 8) (n * 8) = 0 := by
    rw [bitcpy_lead_in_bits, if_pos haligned]
  have hsome : ¬ n * 8 = 0 := by omega
  simp only [bitcpy, if_neg hsome, hlead, CHAR_BIT, Nat.add_zero, Nat.sub_zero,
    Nat.mul_div_cancel _ (show 0 < 8 by omega), Nat.sub_self]
  rw [bitcpy_lead_in, if_pos rfl, undef_bind_ok]
  cases hcopy : copy_loop d dbyte s sbyte n with
  | error fault => rfl
  | ok d' => rfl

end spw_bridge.ecss
