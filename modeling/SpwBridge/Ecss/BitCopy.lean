import SpwBridge.Ecss.Bitman
import SpwBridge.Library.Masks
import SpwBridge.Library.Ranges

namespace spw_bridge.ecss

open masks ranges

/-- Bit `i` of an octet, the least significant bit first. -/
def low_bit (b : UInt8) (i : Nat) : Bool := b.toBitVec.getLsbD i

/-- Bit `k` of an octet array, numbered from the most significant bit of each
octet. -/
def bitAt (buf : List UInt8) (k : Nat) : Bool := low_bit (byteAt buf (k / 8)) (7 - k % 8)

theorem bitAt_octet (buf : List UInt8) (p : Nat) {j : Nat} (hj : j < 8) :
    bitAt buf (8 * p + j) = low_bit (byteAt buf p) (7 - j) := by
  rw [bitAt, show (8 * p + j) / 8 = p by omega, show (8 * p + j) % 8 = j by omega]

theorem low_bit_ofNat (x i : Nat) : low_bit (UInt8.ofNat x) i = (decide (i < 8) && x.testBit i) := by
  change (x % 2 ^ 8).testBit i = _
  exact Nat.testBit_mod_two_pow x 8 i

theorem low_bit_and (a b : UInt8) (i : Nat) : low_bit (a &&& b) i = (low_bit a i && low_bit b i) := by
  simp [low_bit]

theorem low_bit_or (a b : UInt8) (i : Nat) : low_bit (a ||| b) i = (low_bit a i || low_bit b i) := by
  simp [low_bit]

theorem low_bit_high (b : UInt8) {i : Nat} (hi : 8 ≤ i) : low_bit b i = false := by
  exact BitVec.getLsbD_of_ge b.toBitVec i hi

theorem testBit_toNat (b : UInt8) (i : Nat) : b.toNat.testBit i = low_bit b i := rfl

/-- The bits of the constant `0xff`. -/
theorem testBit_ff (i : Nat) : Nat.testBit 0xff i = decide (i < 8) := by
  exact @Nat.testBit_two_pow_sub_one 8 i

theorem low_bit_put (m x b : UInt8) {i : Nat} (hi : i < 8) :
    low_bit (put m x b) i = ((low_bit b i && !low_bit m i) || low_bit x i) := by
  exact bit_put m x b hi

theorem size_sub_of_le {a b : Nat} (hle : b ≤ a) (ha : a < 2 ^ 64) : size_sub a b = a - b := by
  rw [size_sub]
  omega

/-- A difference below zero wraps to a count no operand has the width for. -/
theorem size_sub_of_lt {a b : Nat} (hlt : a < b) (hb : b < 2 ^ 63) : 32 ≤ size_sub a b := by
  rw [size_sub]
  omega

theorem bitAt_set {buf : List UInt8} {p : Nat} (hp : p < buf.length) (b : UInt8) (k : Nat) :
    bitAt (buf.set p b) k = if p = k / 8 then low_bit b (7 - k % 8) else bitAt buf k := by
  simp only [bitAt, byteAt, List.getD, List.getElem?_set]
  by_cases h : p = k / 8
  · subst h
    simp [hp]
  · rw [if_neg h, if_neg h]

theorem octet_of_offset (off : Nat) : off >>> 3 = off / 8 := Nat.shiftRight_eq_div_pow off 3

theorem offset_split (off : Nat) : ∃ p j, j < 8 ∧ off = 8 * p + j :=
  ⟨off / 8, off % 8, Nat.mod_lt _ (by omega), by omega⟩

theorem bits_of_offset (off : Nat) : off &&& 0x7 = off % 8 := Nat.and_two_pow_sub_one_eq_mod off 3

/-- The `n` low bits of an octet as a sequence, the most significant one first. -/
def field (b : UInt8) (n : Nat) : Nat → Bool := fun k => low_bit b (n - 1 - k)

/-- The source bits that are fetched are the low bits of `tmp`, in order. -/
theorem putbits8_fetch_ok {src : List UInt8} {s_off nbits : Nat} (hn : 0 < nbits) (h8 : nbits ≤ 8)
    (hroom : s_off + nbits ≤ 8 * src.length) :
    ∃ tmp, putbits8_fetch src s_off nbits = .ok tmp ∧
      (∀ i, nbits ≤ i → low_bit tmp i = false) ∧
      ∀ k < nbits, field tmp nbits k = bitAt src (s_off + k) := by
  obtain ⟨p, s, hs, hoff⟩ := offset_split s_off
  have hp : s_off >>> 3 = p := by
    rw [octet_of_offset]
    omega
  have hbits : s_off &&& 0x7 = s := by
    rw [bits_of_offset]
    omega
  have hfirst : p < src.length := by omega
  simp only [putbits8_fetch, hp, hbits]
  by_cases hstop : s + nbits ≤ 8
  · have hwidth : size_sub 8 nbits = 8 - nbits := size_sub_of_le h8 (by omega)
    have hcount : size_sub (8 - nbits) s = 8 - nbits - s := size_sub_of_le (by omega) (by omega)
    rw [if_pos hstop, rd_ok hfirst, access_ok, undef_bind_ok, hwidth, hcount, int_shr,
      if_pos (by omega), undef_bind_ok, int_shr, if_pos (by omega), undef_bind_ok]
    refine ⟨_, rfl, ?_, ?_⟩
    · intro i hi
      have hout : ¬ 8 - nbits + i < 8 := by omega
      simp [low_bit_and, low_bit_ofNat, Nat.testBit_shiftRight, testBit_ff, hout]
    · intro k hk
      have hplace : s_off + k = 8 * p + (s + k) := by omega
      have hmask : 8 - nbits + (nbits - 1 - k) < 8 := by omega
      have hbit : 8 - nbits - s + (nbits - 1 - k) = 7 - (s + k) := by omega
      have hlow : nbits - 1 - k < 8 := by omega
      rw [hplace, bitAt_octet src p (by omega), field]
      simp [low_bit_and, low_bit_ofNat, Nat.testBit_shiftRight, testBit_ff, hlow, hmask, hbit,
        testBit_toNat]
  · have hsecond : p + 1 < src.length := by omega
    have hnb : size_sub (nbits + s) 8 = nbits + s - 8 := size_sub_of_le (by omega) (by omega)
    have hcount : size_sub 8 (nbits + s - 8) = 8 - (nbits + s - 8) := size_sub_of_le (by omega) (by omega)
    rw [if_neg hstop, hnb, rd_ok hfirst, access_ok, undef_bind_ok, int_shr, if_pos (by omega),
      undef_bind_ok, int_shl, if_pos (by omega), undef_bind_ok, rd_ok hsecond, access_ok, undef_bind_ok,
      hcount, int_shr, if_pos (by omega), undef_bind_ok, int_shr, if_pos (by omega), undef_bind_ok]
    refine ⟨_, rfl, ?_, ?_⟩
    · intro i hi
      have hlow : ¬ 8 - (nbits + s - 8) + i < 8 := by omega
      have hout : ¬ s + (i - (nbits + s - 8)) < 8 := by omega
      simp [low_bit_or, low_bit_and, low_bit_ofNat, Nat.testBit_shiftRight, Nat.testBit_shiftLeft,
        testBit_ff, hlow, hout]
    · intro k hk
      have hwidth : nbits - 1 - k < 8 := by omega
      by_cases hside : s + k < 8
      · -- the bit lies in the first octet
        have hplace : s_off + k = 8 * p + (s + k) := by omega
        have hmoved : nbits - 1 - k - (nbits + s - 8) = 7 - (s + k) := by omega
        have habove : nbits + s - 8 ≤ nbits - 1 - k := by omega
        have hmask : s + (7 - (s + k)) < 8 := by omega
        have hlow : ¬ 8 - (nbits + s - 8) + (nbits - 1 - k) < 8 := by omega
        rw [hplace, bitAt_octet src p (by omega), field]
        simp [low_bit_or, low_bit_and, low_bit_ofNat, Nat.testBit_shiftRight, Nat.testBit_shiftLeft,
          testBit_ff, testBit_toNat, hwidth, hmoved, habove, hmask, hlow]
      · have hplace : s_off + k = 8 * (p + 1) + (s + k - 8) := by omega
        have hbelow : ¬ nbits + s - 8 ≤ nbits - 1 - k := by omega
        have hbit : 8 - (nbits + s - 8) + (nbits - 1 - k) = 7 - (s + k - 8) := by omega
        have hmask : 7 - (s + k - 8) < 8 := by omega
        rw [hplace, bitAt_octet src (p + 1) (by omega), field]
        simp [low_bit_or, low_bit_and, low_bit_ofNat, Nat.testBit_shiftRight, Nat.testBit_shiftLeft,
          testBit_ff, testBit_toNat, hwidth, hbelow, hbit, hmask]

/-- Clearing and then inserting the bits of one octet. -/
theorem set_cleared {dst : List UInt8} {p : Nat} (hp : p < dst.length) (m x : UInt8) :
    (dst.set p (byteAt dst p &&& ~~~m)).set p (byteAt (dst.set p (byteAt dst p &&& ~~~m)) p ||| x) =
      dst.set p (put m x (byteAt dst p)) := by
  have hcleared : byteAt (dst.set p (byteAt dst p &&& ~~~m)) p = byteAt dst p &&& ~~~m := by
    simp [byteAt, hp]
  rw [hcleared, List.set_set, put]

/-- Bits that lie within one octet of the destination are put in their place. -/
theorem putbits8_store_within {dst : List UInt8} {d_off nbits : Nat} {tmp : UInt8} (hn : 0 < nbits)
    (hfit : d_off % 8 + nbits ≤ 8) (hroom : d_off + nbits ≤ 8 * dst.length)
    (htmp : ∀ i, nbits ≤ i → low_bit tmp i = false) :
    ∃ after, putbits8_store dst d_off nbits tmp = .ok after ∧ after.length = dst.length ∧
      bitAt after = splice (bitAt dst) d_off (field tmp nbits) 0 nbits := by
  obtain ⟨p, d, hd, hoff⟩ := offset_split d_off
  have hp : p < dst.length := by omega
  have hdiv : d_off / 8 = p := by omega
  have hmod : d_off % 8 = d := by omega
  rw [hmod] at hfit
  have hstop : size_sub 8 (d + nbits) = 8 - (d + nbits) := size_sub_of_le hfit (by omega)
  have hwidth : size_sub 8 nbits = 8 - nbits := size_sub_of_le (by omega) (by omega)
  rw [putbits8_store]
  simp only [octet_of_offset, bits_of_offset, hdiv, hmod]
  rw [if_pos hfit, hstop, hwidth, rd_ok hp, access_ok, undef_bind_ok, int_shr, if_pos (by omega),
    undef_bind_ok, int_shl, if_pos (by omega), undef_bind_ok, wr, if_pos hp, access_ok, undef_bind_ok,
    rd_ok (by simpa using hp), access_ok, undef_bind_ok, int_shl, if_pos (by omega), undef_bind_ok, wr,
    if_pos (by simpa using hp), access_ok, set_cleared hp]
  refine ⟨_, rfl, by simp, ?_⟩
  apply eq_splice_iff.mpr
  constructor
  · intro k hk
    have hplace : d_off + k = 8 * p + (d + k) := by omega
    have hbit : 7 - (d + k) < 8 := by omega
    have hmask : 8 - (d + nbits) ≤ 7 - (d + k) := by omega
    have hmoved : 7 - (d + k) - (8 - (d + nbits)) = nbits - 1 - k := by omega
    have hinside : 8 - nbits + (nbits - 1 - k) < 8 := by omega
    rw [hplace, bitAt_set hp, if_pos (by omega), show (8 * p + (d + k)) % 8 = d + k by omega,
      low_bit_put _ _ _ hbit]
    simp [low_bit_ofNat, Nat.testBit_shiftRight, Nat.testBit_shiftLeft, testBit_ff, testBit_toNat, field, hbit,
      hmask, hinside, hmoved]
  · intro k hk
    rw [bitAt_set hp]
    by_cases hsame : p = k / 8
    · have hbit : 7 - k % 8 < 8 := by omega
      rw [if_pos hsame, low_bit_put _ _ _ hbit, bitAt, ← hsame]
      by_cases hbelow : 8 - (d + nbits) ≤ 7 - k % 8
      · -- the bit stands before the field
        have hmask : ¬ 8 - nbits + (7 - k % 8 - (8 - (d + nbits))) < 8 := by omega
        have hclear := htmp (7 - k % 8 - (8 - (d + nbits))) (by omega)
        simp [low_bit_ofNat, Nat.testBit_shiftRight, Nat.testBit_shiftLeft, testBit_ff, testBit_toNat, hmask,
          hclear]
      · simp [low_bit_ofNat, Nat.testBit_shiftLeft, hbelow]
    · rw [if_neg hsame]

/-- Across an octet border the whole octet `tmp` is stored, however few bits
were asked for. -/
theorem putbits8_store_across {dst : List UInt8} {d_off nbits : Nat} {tmp : UInt8} (h8 : nbits ≤ 8)
    (hacross : 8 < d_off % 8 + nbits) (hlong : d_off % 8 ≤ nbits) (hroom : d_off + nbits ≤ 8 * dst.length) :
    ∃ after, putbits8_store dst d_off nbits tmp = .ok after ∧ after.length = dst.length ∧
      bitAt after = splice (bitAt dst) d_off (field tmp 8) 0 8 := by
  obtain ⟨p, d, hd, hoff⟩ := offset_split d_off
  have hp : p < dst.length := by omega
  have hnext : p + 1 < dst.length := by omega
  have hdiv : d_off / 8 = p := by omega
  have hmod : d_off % 8 = d := by omega
  rw [hmod] at hacross hlong
  have hkeep : size_sub nbits d = nbits - d := size_sub_of_le hlong (by omega)
  have hwidth : size_sub 8 d = 8 - d := size_sub_of_le (by omega) (by omega)
  rw [putbits8_store]
  simp only [octet_of_offset, bits_of_offset, hdiv, hmod]
  rw [if_neg (by omega), hkeep, hwidth, rd_ok hp, access_ok, undef_bind_ok, int_shr, if_pos (by omega),
    undef_bind_ok, wr, if_pos hp, access_ok, undef_bind_ok, rd_ok (by simpa using hp), access_ok,
    undef_bind_ok, int_shr, if_pos (by omega), undef_bind_ok, wr, if_pos (by simpa using hp), access_ok,
    undef_bind_ok, set_cleared hp, rd_ok (by simpa using hnext), access_ok, undef_bind_ok, int_shr,
    if_pos (by omega), undef_bind_ok, int_shl, if_pos (by omega), undef_bind_ok, wr,
    if_pos (by simpa using hnext), access_ok, undef_bind_ok, rd_ok (by simpa using hnext), access_ok,
    undef_bind_ok, int_shl, if_pos (by omega), undef_bind_ok, wr, if_pos (by simpa using hnext), access_ok,
    set_cleared (by simpa using hnext)]
  refine ⟨_, rfl, by simp, ?_⟩
  apply eq_splice_iff.mpr
  constructor
  · intro k hk
    by_cases hside : d + k < 8
    · have hbit : 7 - (d + k) < 8 := by omega
      have hmoved : d + (7 - (d + k)) = 7 - k := by omega
      have hmask : 7 - k < 8 := by omega
      rw [bitAt_set (by simpa using hnext), if_neg (by omega), bitAt_set hp, if_pos (by omega),
        show (d_off + k) % 8 = d + k by omega, low_bit_put _ _ _ hbit]
      simp [low_bit_ofNat, Nat.testBit_shiftRight, testBit_ff, testBit_toNat, field, hbit, hmoved, hmask]
    · have hbit : 7 - (d + k - 8) < 8 := by omega
      have habove : 8 - d ≤ 7 - (d + k - 8) := by omega
      have hmoved : 7 - (d + k - 8) - (8 - d) = 7 - k := by omega
      have hmask : nbits - d + (7 - k) < 8 := by omega
      rw [bitAt_set (by simpa using hnext), if_pos (by omega),
        show (d_off + k) % 8 = d + k - 8 by omega, low_bit_put _ _ _ hbit]
      simp [low_bit_ofNat, Nat.testBit_shiftRight, Nat.testBit_shiftLeft, testBit_ff, testBit_toNat, field, hbit,
        habove, hmoved, hmask]
  · intro k hk
    have hbit : 7 - k % 8 < 8 := by omega
    rw [bitAt_set (by simpa using hnext)]
    by_cases hsecond : p + 1 = k / 8
    · have hbelow : ¬ 8 - d ≤ 7 - k % 8 := by omega
      have hkept : low_bit (byteAt (dst.set p (put (UInt8.ofNat (0xff >>> d)) (UInt8.ofNat (tmp.toNat >>> d))
          (byteAt dst p))) (p + 1)) (7 - k % 8) = bitAt dst k := by
        rw [hsecond, ← bitAt, bitAt_set hp, if_neg (by omega)]
      rw [if_pos hsecond, low_bit_put _ _ _ hbit, hkept]
      simp [low_bit_ofNat, Nat.testBit_shiftLeft, hbelow]
    · rw [if_neg hsecond, bitAt_set hp]
      by_cases hfirst : p = k / 8
      · have hmask : ¬ d + (7 - k % 8) < 8 := by omega
        have hgone := low_bit_high tmp (show 8 ≤ d + (7 - k % 8) by omega)
        rw [if_pos hfirst, low_bit_put _ _ _ hbit, bitAt, ← hfirst]
        simp [low_bit_ofNat, Nat.testBit_shiftRight, testBit_ff, testBit_toNat, hmask, hgone]
      · rw [if_neg hfirst]

/-- With fewer bits than the offset into the octet the count of a shift wraps. -/
theorem putbits8_store_wraps {dst : List UInt8} {d_off nbits : Nat} {tmp : UInt8}
    (hacross : 8 < d_off % 8 + nbits) (hshort : nbits < d_off % 8) (hroom : d_off + nbits ≤ 8 * dst.length) :
    ∃ count, putbits8_store dst d_off nbits tmp = .error (.shift count) := by
  obtain ⟨p, d, hd, hoff⟩ := offset_split d_off
  have hp : p < dst.length := by omega
  have hnext : p + 1 < dst.length := by omega
  have hdiv : d_off / 8 = p := by omega
  have hmod : d_off % 8 = d := by omega
  rw [hmod] at hacross hshort
  have hwrap := size_sub_of_lt hshort (by omega)
  rw [putbits8_store]
  simp only [octet_of_offset, bits_of_offset, hdiv, hmod]
  rw [if_neg (by omega), rd_ok hp, access_ok, undef_bind_ok, int_shr, if_pos (by omega),
    undef_bind_ok, wr, if_pos hp, access_ok, undef_bind_ok, rd_ok (by simpa using hp), access_ok,
    undef_bind_ok, int_shr, if_pos (by omega), undef_bind_ok, wr, if_pos (by simpa using hp), access_ok,
    undef_bind_ok, rd_ok (by simpa using hnext), access_ok, undef_bind_ok, int_shr, if_neg (by omega)]
  exact ⟨_, rfl⟩

/-- `after` is the destination `dst` with the asked bits of `src` copied into
it. -/
structure BitsCopied (dst : List UInt8) (d_off : Nat) (src : List UInt8) (s_off nbits : Nat)
    (after : List UInt8) : Prop where
  length : after.length = dst.length
  copied : ∀ k < nbits, bitAt after (d_off + k) = bitAt src (s_off + k)
  kept : ∀ k, k < d_off ∨ d_off + nbits ≤ k → bitAt after k = bitAt dst k

theorem bitsCopied_iff {dst src after : List UInt8} {d_off s_off nbits : Nat} :
    BitsCopied dst d_off src s_off nbits after ↔
      after.length = dst.length ∧ bitAt after = splice (bitAt dst) d_off (bitAt src) s_off nbits := by
  constructor
  · intro h
    exact ⟨h.length, eq_splice_iff.mpr ⟨h.copied, h.kept⟩⟩
  · rintro ⟨hlength, hbits⟩
    obtain ⟨hcopied, hkept⟩ := eq_splice_iff.mp hbits
    exact ⟨hlength, hcopied, hkept⟩

/-- Copying a stretch and then the stretch behind it. -/
theorem BitsCopied.trans {dst src mid after : List UInt8} {d_off s_off n m : Nat}
    (hfirst : BitsCopied dst d_off src s_off n mid)
    (hsecond : BitsCopied mid (d_off + n) src (s_off + n) m after) :
    BitsCopied dst d_off src s_off (n + m) after := by
  obtain ⟨hlength, hbits⟩ := bitsCopied_iff.mp hfirst
  obtain ⟨hlength', hbits'⟩ := bitsCopied_iff.mp hsecond
  apply bitsCopied_iff.mpr
  rw [hlength', hlength, hbits', hbits, splice_splice]
  exact ⟨rfl, rfl⟩

/-- The second stretch was copied right if the whole was. -/
theorem BitsCopied.tail {dst src mid after : List UInt8} {d_off s_off n m : Nat}
    (hfirst : BitsCopied dst d_off src s_off n mid)
    (hwhole : BitsCopied dst d_off src s_off (n + m) after) :
    BitsCopied mid (d_off + n) src (s_off + n) m after := by
  obtain ⟨hlength, hbits⟩ := bitsCopied_iff.mp hfirst
  obtain ⟨hlength', hbits'⟩ := bitsCopied_iff.mp hwhole
  apply bitsCopied_iff.mpr
  rw [hlength', hlength, hbits', hbits, splice_splice]
  exact ⟨rfl, rfl⟩

theorem bitsCopied_zero (dst src : List UInt8) (d_off s_off : Nat) : BitsCopied dst d_off src s_off 0 dst := by
  apply bitsCopied_iff.mpr
  simp

/-- A chunk of eight bits, or one that ends in the octet it begins in. -/
theorem putbits8_right {dst src : List UInt8} {d_off s_off nbits : Nat} (h8 : nbits ≤ 8)
    (hfit : d_off % 8 + nbits ≤ 8 ∨ nbits = 8) (hdst : d_off + nbits ≤ 8 * dst.length)
    (hsrc : s_off + nbits ≤ 8 * src.length) :
    ∃ after, putbits8 dst d_off src s_off nbits = .ok after ∧
      BitsCopied dst d_off src s_off nbits after := by
  by_cases hn : nbits = 0
  · subst hn
    exact ⟨dst, rfl, bitsCopied_zero dst src d_off s_off⟩
  obtain ⟨tmp, hfetch, hclear, hbits⟩ := putbits8_fetch_ok (by omega) h8 hsrc
  have hsame : splice (bitAt dst) d_off (field tmp nbits) 0 nbits =
      splice (bitAt dst) d_off (bitAt src) s_off nbits := by
    apply splice_congr
    intro k hk
    rw [Nat.zero_add]
    exact hbits k hk
  rw [putbits8, if_neg hn, hfetch, undef_bind_ok]
  by_cases hwithin : d_off % 8 + nbits ≤ 8
  · obtain ⟨after, hstore, hlength, hafter⟩ := putbits8_store_within (by omega) hwithin hdst hclear
    exact ⟨after, hstore, bitsCopied_iff.mpr ⟨hlength, by rw [hafter, hsame]⟩⟩
  · have height : nbits = 8 := by omega
    subst height
    obtain ⟨after, hstore, hlength, hafter⟩ :=
      @putbits8_store_across dst d_off 8 tmp h8 (by omega) (by omega) hdst
    exact ⟨after, hstore, bitsCopied_iff.mpr ⟨hlength, by rw [hafter, hsame]⟩⟩

/-- The bits of a chunk and the destination bits up to eight from its start are
all clear. -/
def chunk_clear (dst : List UInt8) (d_off : Nat) (src : List UInt8) (s_off nbits : Nat) : Prop :=
  (∀ k < nbits, bitAt src (s_off + k) = false) ∧
    ∀ k < CHAR_BIT - nbits, bitAt dst (d_off + nbits + k) = false

instance (dst : List UInt8) (d_off : Nat) (src : List UInt8) (s_off nbits : Nat) :
    Decidable (chunk_clear dst d_off src s_off nbits) :=
  inferInstanceAs (Decidable (_ ∧ _))

/-- The octet stored for a chunk across an octet border holds its bits behind
leading zeros, so that it can only be right where it is zero. -/
theorem across_right_iff {dst src : List UInt8} {d_off s_off nbits : Nat} {tmp : UInt8} (h8 : nbits < 8)
    (hclear : ∀ i, nbits ≤ i → low_bit tmp i = false)
    (hbits : ∀ k < nbits, field tmp nbits k = bitAt src (s_off + k)) :
    splice (bitAt dst) d_off (field tmp 8) 0 8 = splice (bitAt dst) d_off (bitAt src) s_off nbits ↔
      chunk_clear dst d_off src s_off nbits := by
  have hlead : ∀ k < 8 - nbits, field tmp 8 k = false := fun k hk => hclear _ (by omega)
  have hlast : ∀ k < nbits, field tmp 8 (k + (8 - nbits)) = bitAt src (s_off + k) := by
    intro k hk
    have hplace := hbits k hk
    rw [field] at hplace ⊢
    rw [show 8 - 1 - (k + (8 - nbits)) = nbits - 1 - k by omega]
    exact hplace
  constructor
  · intro hsame
    have hstored : ∀ k < 8, splice (bitAt dst) d_off (bitAt src) s_off nbits (d_off + k) = field tmp 8 k := by
      intro k hk
      rw [← hsame, splice_inside _ _ _ _ hk, Nat.zero_add]
    -- each bit of the octet equals the one `8 - nbits` places before it
    have hzero : ∀ k, k < 8 → field tmp 8 k = false := by
      intro k
      induction k using Nat.strongRecOn with
      | ind k ih =>
        intro hk
        by_cases hfront : k < 8 - nbits
        · exact hlead k hfront
        · have hback := hlast (k - (8 - nbits)) (by omega)
          rw [show k - (8 - nbits) + (8 - nbits) = k by omega] at hback
          have hbefore := hstored (k - (8 - nbits)) (by omega)
          rw [splice_inside _ _ _ _ (by omega)] at hbefore
          rw [hback, hbefore]
          exact ih (k - (8 - nbits)) (by omega) (by omega)
    constructor
    · intro k hk
      rw [← hlast k hk]
      exact hzero _ (by omega)
    · intro k hk
      rw [CHAR_BIT] at hk
      have hbehind := hstored (nbits + k) (by omega)
      rw [splice_outside _ _ _ (by omega), ← Nat.add_assoc] at hbehind
      rw [hbehind]
      exact hzero _ (by omega)
  · rintro ⟨hsource, hbehind⟩
    have hzero : ∀ k < 8, field tmp 8 k = false := by
      intro k hk
      by_cases hfront : k < 8 - nbits
      · exact hlead k hfront
      · have hback := hlast (k - (8 - nbits)) (by omega)
        rw [show k - (8 - nbits) + (8 - nbits) = k by omega] at hback
        rw [hback]
        exact hsource _ (by omega)
    apply eq_splice_iff.mpr
    constructor
    · intro k hk
      rw [splice_inside _ _ _ _ (by omega), Nat.zero_add, hzero k (by omega), hsource k hk]
    · intro k hk
      by_cases hnear : d_off ≤ k ∧ k < d_off + 8
      · have hplace := hbehind (k - (d_off + nbits)) (by rw [CHAR_BIT]; omega)
        rw [show d_off + nbits + (k - (d_off + nbits)) = k by omega] at hplace
        rw [splice, if_pos hnear, hplace]
        exact hzero _ (by omega)
      · rw [splice, if_neg hnear]

/-- A chunk of less than eight bits across an octet border. -/
theorem putbits8_across_iff {dst src : List UInt8} {d_off s_off nbits : Nat} (h8 : nbits < 8)
    (hacross : 8 < d_off % 8 + nbits) (hdst : d_off + nbits ≤ 8 * dst.length)
    (hsrc : s_off + nbits ≤ 8 * src.length) :
    (∃ after, putbits8 dst d_off src s_off nbits = .ok after ∧
        BitsCopied dst d_off src s_off nbits after) ↔
      d_off % 8 ≤ nbits ∧ chunk_clear dst d_off src s_off nbits := by
  have hn : 0 < nbits := by omega
  obtain ⟨tmp, hfetch, hclear, hbits⟩ := putbits8_fetch_ok hn (by omega) hsrc
  rw [putbits8, if_neg (by omega), hfetch, undef_bind_ok]
  by_cases hlong : d_off % 8 ≤ nbits
  · obtain ⟨stored, hstore, hlength, hstored⟩ :=
      @putbits8_store_across dst d_off nbits tmp (by omega) hacross hlong hdst
    have hright := @across_right_iff dst src d_off s_off nbits tmp h8 hclear hbits
    rw [hstore, and_iff_right hlong, ← hright, ← hstored]
    constructor
    · rintro ⟨after, heq, hcopied⟩
      cases heq
      exact (bitsCopied_iff.mp hcopied).2
    · intro hsame
      exact ⟨stored, rfl, bitsCopied_iff.mpr ⟨hlength, hsame⟩⟩
  · obtain ⟨count, hwraps⟩ := @putbits8_store_wraps dst d_off nbits tmp hacross (by omega) hdst
    rw [hwraps]
    constructor
    · rintro ⟨after, heq, _⟩
      cases heq
    · intro h
      exact absurd h.1 hlong

theorem bitcpy_lead_in_short {dst src : List UInt8} {d_off s_off c : Nat} (hc : c < CHAR_BIT) :
    bitcpy_lead_in dst d_off src s_off c = putbits8 dst d_off src s_off c := by
  rw [bitcpy_lead_in]
  by_cases hzero : c = 0
  · subst hzero
    rfl
  · have hcount : (if c < CHAR_BIT then c else CHAR_BIT) = c := if_pos hc
    simp only [if_neg hzero, hcount, Nat.sub_self]
    cases putbits8 dst d_off src s_off c with
    | error undef => rfl
    | ok d =>
      rw [undef_bind_ok, bitcpy_lead_in]
      rfl

/-- The loop copies all full chunks and leaves the short one to a last call. -/
theorem bitcpy_lead_in_chunks {dst src : List UInt8} {d_off s_off : Nat} (c : Nat)
    (hdst : d_off + c ≤ 8 * dst.length) (hsrc : s_off + c ≤ 8 * src.length) :
    ∃ mid, BitsCopied dst d_off src s_off (c - c % 8) mid ∧
      bitcpy_lead_in dst d_off src s_off c =
        putbits8 mid (d_off + (c - c % 8)) src (s_off + (c - c % 8)) (c % 8) := by
  induction c using Nat.strongRecOn generalizing dst d_off s_off with
  | ind c ih =>
    by_cases hshort : c < CHAR_BIT
    · have hmod : c % 8 = c := Nat.mod_eq_of_lt hshort
      rw [hmod, Nat.sub_self, Nat.add_zero, Nat.add_zero, bitcpy_lead_in_short hshort]
      exact ⟨dst, bitsCopied_zero dst src d_off s_off, rfl⟩
    · have hcount : (if c < CHAR_BIT then c else CHAR_BIT) = 8 := if_neg hshort
      rw [CHAR_BIT] at hshort
      rw [bitcpy_lead_in, if_neg (by omega)]
      obtain ⟨next, hput, hnext⟩ := @putbits8_right dst src d_off s_off 8 (by omega) (.inr rfl)
        (by omega) (by omega)
      have hlength := hnext.length
      obtain ⟨mid, hmid, hrest⟩ := @ih (c - 8) (by omega) next (d_off + 8) (s_off + 8)
        (by omega) (by omega)
      have hmod : (c - 8) % 8 = c % 8 := by omega
      rw [hmod] at hmid hrest
      have hjoined := hnext.trans hmid
      rw [show 8 + (c - 8 - c % 8) = c - c % 8 by omega] at hjoined
      refine ⟨mid, hjoined, ?_⟩
      simp only [hcount]
      rw [hput, undef_bind_ok, hrest, show d_off + 8 + (c - 8 - c % 8) = d_off + (c - c % 8) by omega,
        show s_off + 8 + (c - 8 - c % 8) = s_off + (c - c % 8) by omega]

theorem octet_copied {dst src : List UInt8} {doff : Nat} (hdst : doff < dst.length) (soff : Nat) :
    BitsCopied dst (8 * doff) src (8 * soff) 8 (dst.set doff (byteAt src soff)) := by
  constructor
  case length => simp
  case copied =>
    intro k hk
    rw [bitAt_set hdst, if_pos (by omega), bitAt_octet src soff hk, show (8 * doff + k) % 8 = k by omega]
  case kept =>
    intro k hk
    rw [bitAt_set hdst, if_neg (by omega)]

/-- The main block between octet borders. -/
theorem copy_loop_bits {dst src : List UInt8} {doff soff n : Nat} (hdst : doff + n ≤ dst.length)
    (hsrc : soff + n ≤ src.length) :
    ∃ after, copy_loop dst doff src soff n = .ok after ∧
      BitsCopied dst (8 * doff) src (8 * soff) (8 * n) after := by
  induction n generalizing dst doff soff with
  | zero => exact ⟨dst, rfl, bitsCopied_zero dst src (8 * doff) (8 * soff)⟩
  | succ n ih =>
    have hd : doff < dst.length := by omega
    have hs : soff < src.length := by omega
    obtain ⟨after, hcopy, hrest⟩ := @ih (dst.set doff (byteAt src soff)) (doff + 1) (soff + 1)
      (by simp; omega) (by omega)
    refine ⟨after, ?_, ?_⟩
    · rw [copy_loop, rd_ok hs, bind_ok, wr, if_pos hd, bind_ok, hcopy]
    · have hjoined := (octet_copied hd soff).trans hrest
      rw [show 8 + 8 * n = 8 * (n + 1) by omega] at hjoined
      exact hjoined

/-- The main block of `bitcpy`, and the bits that remain behind it. -/
theorem bitcpy_main_block {dst src : List UInt8} {d_off s_off nbits : Nat} (hd : d_off % 8 = 0)
    (hs : s_off % 8 = 0) (hdst : d_off + nbits ≤ 8 * dst.length) (hsrc : s_off + nbits ≤ 8 * src.length) :
    ∃ mid, copy_loop dst (d_off / 8) src (s_off / 8) (nbits / 8) = .ok mid ∧
      BitsCopied dst d_off src s_off (nbits / 8 * 8) mid := by
  obtain ⟨mid, hcopy, hbits⟩ := @copy_loop_bits dst src (d_off / 8) (s_off / 8) (nbits / 8)
    (by omega) (by omega)
  rw [show 8 * (d_off / 8) = d_off by omega, show 8 * (s_off / 8) = s_off by omega, Nat.mul_comm] at hbits
  exact ⟨mid, hcopy, hbits⟩

theorem bitcpy_lead_in_bits_eq (d_off s_off nbits : Nat) :
    bitcpy_lead_in_bits d_off s_off nbits =
      if d_off % 8 = 0 ∧ s_off % 8 = 0 then 0
      else if nbits < 8 ∨ d_off % 8 ≠ s_off % 8 then nbits
      else 8 - d_off % 8 := by
  have hor : (d_off ||| s_off) &&& (CHAR_BIT - 1) = d_off % 8 ||| s_off % 8 := by
    change (d_off ||| s_off) &&& 0x7 = _
    rw [Nat.and_or_distrib_right, bits_of_offset, bits_of_offset]
  have hxor : (d_off ^^^ s_off) &&& (CHAR_BIT - 1) = d_off % 8 ^^^ s_off % 8 := by
    change (d_off ^^^ s_off) &&& 0x7 = _
    rw [Nat.and_xor_distrib_right, bits_of_offset, bits_of_offset]
  have hkeep : d_off &&& (CHAR_BIT - 1) = d_off % 8 := bits_of_offset d_off
  rw [bitcpy_lead_in_bits, hor, hxor, hkeep]
  by_cases haligned : d_off % 8 = 0 ∧ s_off % 8 = 0
  · rw [if_pos (Nat.or_eq_zero_iff.mpr haligned), if_pos haligned]
  rw [if_neg (fun hzero => haligned (Nat.or_eq_zero_iff.mp hzero)), if_neg haligned]
  by_cases hshort : nbits < 8
  · rw [if_pos (show nbits < CHAR_BIT from hshort), if_pos (.inl hshort)]
  rw [if_neg (show ¬ nbits < CHAR_BIT from hshort)]
  by_cases hsame : d_off % 8 = s_off % 8
  · rw [if_neg (by simp [hsame]), if_neg (by simp [hsame, hshort]), CHAR_BIT]
  · have hne : d_off % 8 ^^^ s_off % 8 ≠ 0 := by
      intro hzero
      apply hsame
      apply Nat.eq_of_testBit_eq
      intro i
      have hbit := congrArg (fun x => Nat.testBit x i) hzero
      simpa using hbit
    rw [if_pos hne, if_pos (.inr hsame)]

/-- The bits behind the last full chunk do not reach over an octet border of
the destination, or the offsets can be aligned. -/
def last_chunk_fits (d_off s_off nbits : Nat) : Prop :=
  d_off % CHAR_BIT + nbits % CHAR_BIT ≤ CHAR_BIT ∨
    d_off % CHAR_BIT = s_off % CHAR_BIT ∧ CHAR_BIT ≤ nbits

/-- All that `bitcpy` asks for but the bits `m` of a last call is copied right. -/
theorem bitcpy_last_chunk {dst src : List UInt8} {d_off s_off nbits : Nat}
    (hdst : d_off + nbits ≤ 8 * dst.length) (hsrc : s_off + nbits ≤ 8 * src.length) :
    ∃ m mid, m < 8 ∧ m ≤ nbits ∧
      ((d_off + (nbits - m)) % 8 + m ≤ 8 ↔ last_chunk_fits d_off s_off nbits) ∧
      (¬ last_chunk_fits d_off s_off nbits → m = nbits % 8) ∧
      BitsCopied dst d_off src s_off (nbits - m) mid ∧
      bitcpy (some dst) d_off (some src) s_off nbits =
        (putbits8 mid (d_off + (nbits - m)) src (s_off + (nbits - m)) m >>= fun d => .ok (0, some d)) := by
  simp only [last_chunk_fits, CHAR_BIT]
  by_cases hn : nbits = 0
  · subst hn
    exact ⟨0, dst, by omega, by omega, by omega, by omega, bitsCopied_zero dst src d_off s_off, rfl⟩
  simp only [bitcpy, if_neg hn, bitcpy_lead_in_bits_eq]
  by_cases haligned : d_off % 8 = 0 ∧ s_off % 8 = 0
  · obtain ⟨mid, hcopy, hmid⟩ := bitcpy_main_block haligned.1 haligned.2 hdst hsrc
    have hblock : nbits / 8 * 8 = nbits - nbits % 8 := by omega
    refine ⟨nbits % 8, mid, by omega, by omega, by omega, by omega, ?_, ?_⟩
    · rw [← hblock]
      exact hmid
    · rw [if_pos haligned, bitcpy_lead_in, if_pos rfl, undef_bind_ok]
      simp only [CHAR_BIT, Nat.add_zero, Nat.sub_zero]
      rw [hcopy, access_ok, undef_bind_ok, hblock, show nbits - (nbits - nbits % 8) = nbits % 8 by omega]
  rw [if_neg haligned]
  by_cases happart : nbits < 8 ∨ d_off % 8 ≠ s_off % 8
  · obtain ⟨mid, hmid, hlead⟩ := bitcpy_lead_in_chunks nbits hdst hsrc
    refine ⟨nbits % 8, mid, by omega, by omega, by omega, by omega, hmid, ?_⟩
    rw [if_pos happart, hlead]
    congr 1
    funext d
    simp [CHAR_BIT, copy_loop, putbits8]
  · -- one chunk up to the octet border, then the main block
    obtain ⟨first, hput, hfirst⟩ := @putbits8_right dst src d_off s_off (8 - d_off % 8) (by omega)
      (.inl (by omega)) (by omega) (by omega)
    have hlength := hfirst.length
    obtain ⟨mid, hcopy, hmid⟩ := @bitcpy_main_block first src (d_off + (8 - d_off % 8))
      (s_off + (8 - d_off % 8)) (nbits - (8 - d_off % 8)) (by omega) (by omega) (by omega) (by omega)
    have hjoined := hfirst.trans hmid
    have hblock : 8 - d_off % 8 + (nbits - (8 - d_off % 8)) / 8 * 8 =
        nbits - (nbits - (8 - d_off % 8)) % 8 := by omega
    rw [hblock] at hjoined
    refine ⟨(nbits - (8 - d_off % 8)) % 8, mid, by omega, by omega, by omega, by omega, hjoined, ?_⟩
    rw [if_neg happart, bitcpy_lead_in_short (show 8 - d_off % 8 < 8 by omega), hput, undef_bind_ok]
    simp only [CHAR_BIT]
    rw [hcopy, access_ok, undef_bind_ok, Nat.add_assoc, Nat.add_assoc, hblock]
    congr 2
    omega

/-- The bits behind the last full chunk happen to be clear, and so do the
destination bits that the store takes with them. -/
def last_chunk_clear (dst : List UInt8) (d_off : Nat) (src : List UInt8) (s_off nbits : Nat) : Prop :=
  d_off % CHAR_BIT ≤ nbits % CHAR_BIT ∧
    chunk_clear dst (d_off + (nbits - nbits % CHAR_BIT)) src (s_off + (nbits - nbits % CHAR_BIT))
      (nbits % CHAR_BIT)

/-- `bitcpy` copies the bits it is asked for exactly when its last chunk of less
than eight bits does not lie across an octet border, or is clear. -/
theorem bitcpy_copies_iff (dst src : List UInt8) (d_off s_off nbits : Nat)
    (hdst : d_off + nbits ≤ 8 * dst.length) (hsrc : s_off + nbits ≤ 8 * src.length) :
    (∃ after, bitcpy (some dst) d_off (some src) s_off nbits = .ok (0, some after) ∧
        BitsCopied dst d_off src s_off nbits after) ↔
      last_chunk_fits d_off s_off nbits ∨ last_chunk_clear dst d_off src s_off nbits := by
  obtain ⟨m, mid, hm, hle, hfits, hshort, hmid, hcall⟩ := bitcpy_last_chunk hdst hsrc
  have hlength := hmid.length
  -- the whole copy is right if and only if the last call is
  have hlast : (∃ after, bitcpy (some dst) d_off (some src) s_off nbits = .ok (0, some after) ∧
        BitsCopied dst d_off src s_off nbits after) ↔
      ∃ after, putbits8 mid (d_off + (nbits - m)) src (s_off + (nbits - m)) m = .ok after ∧
        BitsCopied mid (d_off + (nbits - m)) src (s_off + (nbits - m)) m after := by
    rw [hcall]
    constructor
    · rintro ⟨after, hreturn, hright⟩
      cases hput : putbits8 mid (d_off + (nbits - m)) src (s_off + (nbits - m)) m with
      | error undef =>
        rw [hput] at hreturn
        cases hreturn
      | ok d =>
        rw [hput, undef_bind_ok] at hreturn
        cases hreturn
        rw [show nbits = nbits - m + m by omega] at hright
        exact ⟨_, rfl, hmid.tail hright⟩
    · rintro ⟨after, hput, hright⟩
      have hjoined := hmid.trans hright
      rw [show nbits - m + m = nbits by omega] at hjoined
      rw [hput, undef_bind_ok]
      exact ⟨after, rfl, hjoined⟩
  rw [hlast]
  by_cases hfit : last_chunk_fits d_off s_off nbits
  · have hwithin := hfits.mpr hfit
    have hright := @putbits8_right mid src (d_off + (nbits - m)) (s_off + (nbits - m)) m (by omega)
      (.inl hwithin) (by omega) (by omega)
    exact ⟨fun _ => .inl hfit, fun _ => hright⟩
  · have hacross : ¬ (d_off + (nbits - m)) % 8 + m ≤ 8 := fun h => hfit (hfits.mp h)
    have hcount := hshort hfit
    have hoffset : (d_off + (nbits - m)) % 8 = d_off % 8 := by omega
    have hsame : chunk_clear mid (d_off + (nbits - m)) src (s_off + (nbits - m)) m ↔
        chunk_clear dst (d_off + (nbits - m)) src (s_off + (nbits - m)) m := by
      apply and_congr_right'
      apply forall₂_congr
      intro k hk
      rw [hmid.kept _ (by omega)]
    rw [or_iff_right hfit, putbits8_across_iff hm (by omega) (by omega) (by omega), hoffset, hsame, hcount]
    rfl

/-- Fourteen bits between differing offsets: a full chunk, and six bits within
an octet. -/
theorem bitcpy_copies_fourteen :
    ∃ after, bitcpy (some [0x80, 0x01]) 1 (some [0xab, 0xcd, 0xef]) 2 14 = .ok (0, some after) ∧
      BitsCopied [0x80, 0x01] 1 [0xab, 0xcd, 0xef] 2 14 after := by
  have hright := bitcpy_copies_iff [0x80, 0x01] [0xab, 0xcd, 0xef] 1 2 14 (by decide) (by decide)
  exact hright.mpr (.inl (.inl (by decide)))

theorem bitcpy_across_border : bitcpy (some [0, 0]) 3 (some [0xfc]) 0 6 = .ok (0, some [0x07, 0xe0]) := by
  have hlead : bitcpy_lead_in [0, 0] 3 [0xfc] 0 6 = .ok [0x07, 0xe0] := by
    rw [bitcpy_lead_in_short (by decide)]
    rfl
  change (bitcpy_lead_in [0, 0] 3 [0xfc] 0 6 >>= _) = _
  rw [hlead]
  rfl

/-- Six set bits to offset three leave the destination's bits 6 and 7 clear. -/
theorem bitcpy_loses_bits :
    ¬ ∀ (dst src : List UInt8) (d_off s_off nbits : Nat), d_off + nbits ≤ 8 * dst.length →
      s_off + nbits ≤ 8 * src.length →
      ∃ after, bitcpy (some dst) d_off (some src) s_off nbits = .ok (0, some after) ∧
        BitsCopied dst d_off src s_off nbits after := by
  intro hall
  obtain ⟨after, hreturn, hright⟩ := hall [0, 0] [0xfc] 3 0 6 (by decide) (by decide)
  rw [bitcpy_across_border] at hreturn
  cases hreturn
  have hbit := hright.copied 0 (by decide)
  exact absurd hbit (by decide)

end spw_bridge.ecss
