import Mathlib.Data.BitVec

namespace masks

/-- The byte `b` with the bits of the mask `m` replaced by those of `x`. -/
def put (m x b : UInt8) : UInt8 := (b &&& ~~~m) ||| x

/-- Bytes are equal if they are bit by bit. -/
theorem eq_of_bits {a b : UInt8} (h : ∀ i < 8, a.toBitVec.getLsbD i = b.toBitVec.getLsbD i) : a = b := by
  apply UInt8.toBitVec_inj.mp
  exact BitVec.eq_of_getLsbD_eq h

theorem bit_within {m x : UInt8} (hx : x &&& ~~~m = 0) {i : Nat} (hi : i < 8) :
    (x.toBitVec.getLsbD i && !m.toBitVec.getLsbD i) = false := by
  have h := congrArg (fun b : UInt8 => b.toBitVec.getLsbD i) hx
  simpa [hi] using h

theorem bit_disjoint {m m' : UInt8} (hdisjoint : m &&& m' = 0) (i : Nat) :
    (m.toBitVec.getLsbD i && m'.toBitVec.getLsbD i) = false := by
  have h := congrArg (fun b : UInt8 => b.toBitVec.getLsbD i) hdisjoint
  simpa using h

theorem bit_put (m x b : UInt8) {i : Nat} (hi : i < 8) :
    (put m x b).toBitVec.getLsbD i =
      ((b.toBitVec.getLsbD i && !m.toBitVec.getLsbD i) || x.toBitVec.getLsbD i) := by
  simp [put, hi]

/-- A field within the mask reads what was put there. -/
theorem put_and_inside {m m' : UInt8} (x b : UInt8) (hinside : m' &&& ~~~m = 0) :
    put m x b &&& m' = x &&& m' := by
  apply eq_of_bits
  intro i hi
  have hwithin := bit_within hinside hi
  rw [UInt8.toBitVec_and, BitVec.getLsbD_and, UInt8.toBitVec_and, BitVec.getLsbD_and, bit_put m x b hi]
  cases hm : m.toBitVec.getLsbD i <;> cases hm' : m'.toBitVec.getLsbD i <;> simp_all

/-- The field reads back what was put into it. -/
theorem put_and_same {m x : UInt8} (b : UInt8) (hx : x &&& ~~~m = 0) : put m x b &&& m = x := by
  apply eq_of_bits
  intro i hi
  have hwithin := bit_within hx hi
  rw [UInt8.toBitVec_and, BitVec.getLsbD_and, bit_put m x b hi]
  cases hm : m.toBitVec.getLsbD i <;> cases hxi : x.toBitVec.getLsbD i <;> simp_all

/-- A field beside it reads what it read before. -/
theorem put_and_other {m m' x : UInt8} (b : UInt8) (hx : x &&& ~~~m = 0) (hdisjoint : m &&& m' = 0) :
    put m x b &&& m' = b &&& m' := by
  apply eq_of_bits
  intro i hi
  have hwithin := bit_within hx hi
  have hapart := bit_disjoint hdisjoint i
  rw [UInt8.toBitVec_and, BitVec.getLsbD_and, UInt8.toBitVec_and, BitVec.getLsbD_and, bit_put m x b hi]
  cases hm : m.toBitVec.getLsbD i <;> cases hm' : m'.toBitVec.getLsbD i <;>
    cases hxi : x.toBitVec.getLsbD i <;> simp_all

end masks
